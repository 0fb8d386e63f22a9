import CandleAlerts.Proofs.SimulationFrames

/-!
What a simulation keeps true of findings, of the cells of alerts, and of the record of events.

Each account is about the parts of a state that it reads, so whatever leaves those parts alone keeps
it. The three of them together hold of a state of which some events are in hand: they were found,
and are neither pending nor recorded.
-/

namespace CandleAlerts

/-! ## Cells -/

/-- Whether a member of a group has a cell of its own alert. -/
def Registry.Owns (registry : Registry) (owner : Nat → String) (member : Registered) : Prop :=
  member.cell < registry.cells.size ∧ owner member.cell = member.alert.id

/-- Every alert that is registered or evaluated has a cell of its own, which remembers nothing but
what was found or lost. -/
structure CellsOwned (owner : Nat → String) (registry : Registry) (evaluates : Registered → Prop)
    (found : List (String × Int)) : Prop where
  ids : ∀ id entry, registry.get? id = some entry → entry.alert.id = id
  registered : ∀ id entry, registry.get? id = some entry → registry.Owns owner entry
  evaluated : ∀ member, evaluates member → registry.Owns owner member
  remembers : registry.Remembers owner found

namespace CellsOwned

variable {owner : Nat → String} {registry : Registry} {evaluates : Registered → Prop}
  {found : List (String × Int)}

/-- The alerts and their cells are what matters of a registry, and fewer alerts may be evaluated. -/
theorem of_same (owned : CellsOwned owner registry evaluates found) {after : Registry}
    {fewer : Registered → Prop} (alerts : after.alerts = registry.alerts)
    (cells : after.cells = registry.cells) (subset : ∀ member, fewer member → evaluates member) :
    CellsOwned owner after fewer found where
  ids id entry get := by
    simp only [Registry.get?] at get
    rw [alerts] at get
    exact owned.ids id entry get
  registered id entry get := by
    simp only [Registry.get?] at get
    rw [alerts] at get
    simp only [Registry.Owns]
    rw [cells]
    exact owned.registered id entry get
  evaluated member evaluated := by
    simp only [Registry.Owns]
    rw [cells]
    exact owned.evaluated member (subset member evaluated)
  remembers place time fired := by
    simp only [Registry.cell] at fired
    rw [cells] at fired
    exact owned.remembers place time fired

/-- A tick may begin to evaluate whatever is registered. -/
theorem evaluate_registered (owned : CellsOwned owner registry evaluates found)
    {members : Registered → Prop}
    (registered : ∀ member, members member → ∃ id, registry.get? id = some member) :
    CellsOwned owner registry members found where
  ids := owned.ids
  registered := owned.registered
  evaluated member evaluated := by
    rcases registered member evaluated with ⟨id, get⟩
    exact owned.registered id member get
  remembers := owned.remembers

theorem deactivate (owned : CellsOwned owner registry evaluates found) (id : String) :
    CellsOwned owner (registry.deactivate id).2 evaluates found where
  ids other entry get := owned.ids other entry (Registry.get?_of_get?_deactivate get)
  registered other entry get := owned.registered other entry (Registry.get?_of_get?_deactivate get)
  evaluated := owned.evaluated
  remembers := owned.remembers

/-- A new cell belongs to the alert that is registered with it. -/
theorem register (owned : CellsOwned owner registry evaluates found) (alert : Alert)
    {runtime : AlertRuntime}
    (remembered : ∀ time, runtime.lastFiredAt = some time → (alert.id, time) ∈ found) :
    CellsOwned (Function.update owner registry.cells.size alert.id)
      (registry.register alert runtime) evaluates found := by
  have wider (member : Registered) (owns : registry.Owns owner member) :
      (registry.register alert runtime).Owns
        (Function.update owner registry.cells.size alert.id) member := by
    rcases owns with ⟨within, same⟩
    refine ⟨?_, ?_⟩
    · rw [Registry.size_register]
      exact Nat.lt_succ_of_lt within
    · rw [Function.update_of_ne (Nat.ne_of_lt within)]
      exact same
  refine ⟨?_, ?_, ?_, ?_⟩
  · intro id entry get
    rw [Registry.get?_register] at get
    split at get
    · rename_i same
      cases get
      exact same
    · exact owned.ids id entry get
  · intro id entry get
    rw [Registry.get?_register] at get
    split at get
    · cases get
      refine ⟨?_, ?_⟩
      · rw [Registry.size_register]
        exact Nat.lt_succ_self _
      · exact Function.update_self _ _ _
    · exact wider entry (owned.registered id entry get)
  · intro member evaluated
    exact wider member (owned.evaluated member evaluated)
  · intro place time fired
    rw [Registry.cell_register] at fired
    split at fired
    · rename_i same
      rw [same, Function.update_self]
      exact remembered time fired
    · rename_i different
      rw [Function.update_of_ne different]
      exact owned.remembers place time fired

/-- An alert that is edited goes on in a new cell with what the old one remembers; one that is added
starts with nothing to remember. -/
theorem activate (owned : CellsOwned owner registry evaluates found) (alert : Alert) :
    ∃ owner, CellsOwned owner (registry.activate alert none).2 evaluates found := by
  have marked : CellsOwned owner (registry.markChanged alert.id) evaluates found :=
    owned.of_same rfl rfl (fun _ evaluated => evaluated)
  simp only [Registry.activate]
  rcases (registry.markChanged alert.id).upsert_cases alert none with
    ⟨existing, get, same, unchanged⟩ | registered
  · rw [unchanged]
    exact ⟨owner, marked⟩
  · rw [registered]
    refine ⟨_, marked.register alert ?_⟩
    intro time fired
    simp only [Registry.takenOver] at fired
    cases get : (registry.markChanged alert.id).get? alert.id with
    | none =>
        rw [get] at fired
        cases fired
    | some existing =>
        rw [get] at fired
        have known := marked.remembers existing.cell time fired
        rw [(marked.registered alert.id existing get).2, marked.ids alert.id existing get] at known
        exact known

theorem mono (owned : CellsOwned owner registry evaluates found) {more : List (String × Int)}
    (subset : ∀ pair ∈ found, pair ∈ more) : CellsOwned owner registry evaluates more where
  ids := owned.ids
  registered := owned.registered
  evaluated := owned.evaluated
  remembers := owned.remembers.mono subset

/-- The evaluation of a group writes the cells of its members only, and remembers what it found or
lost. -/
theorem evaluate (owned : CellsOwned owner registry evaluates found) {pass : GroupPass}
    (accounts : GroupPass.Accounts registry owner found pass) :
    CellsOwned owner pass.registry evaluates (found ++ (pass.found ++ pass.lost)) := by
  have kept (member : Registered) (owns : registry.Owns owner member) :
      pass.registry.Owns owner member := by
    rcases owns with ⟨within, same⟩
    refine ⟨?_, same⟩
    rw [accounts.size]
    exact within
  refine ⟨?_, ?_, ?_, accounts.remembers⟩
  · intro id entry get
    simp only [Registry.get?] at get
    rw [accounts.alerts] at get
    exact owned.ids id entry get
  · intro id entry get
    simp only [Registry.get?] at get
    rw [accounts.alerts] at get
    exact kept entry (owned.registered id entry get)
  · intro member evaluated
    exact kept member (owned.evaluated member evaluated)

end CellsOwned

/-! ## Findings -/

/-- Whether exactly what was found is recorded or in hand, unless it was lost; what is in hand may
have been recorded before. -/
structure FindingsHandled (triggers : List TriggerEvent) (found lost : List (String × Int))
    (events : List TriggerEvent) : Prop where
  handed : ∀ event ∈ events, ∃ pair ∈ found, event.Tells pair
  recorded : ∀ event ∈ triggers, ∃ pair ∈ found, event.Tells pair
  covered : ∀ pair ∈ found, eventIdOf pair.1 pair.2 ∈ triggers.map TriggerEvent.eventId ∨
    (∃ event ∈ events, event.Tells pair) ∨ pair ∈ lost

namespace FindingsHandled

variable {triggers : List TriggerEvent} {found lost : List (String × Int)}
  {events : List TriggerEvent}

theorem of_perm (handled : FindingsHandled triggers found lost events) {others : List TriggerEvent}
    (same : others.Perm events) : FindingsHandled triggers found lost others where
  handed event listed := handled.handed event (same.mem_iff.1 listed)
  recorded := handled.recorded
  covered pair known := by
    rcases handled.covered pair known with recorded | ⟨event, listed, tells⟩ | isLost
    · exact .inl recorded
    · exact .inr (.inl ⟨event, same.mem_iff.2 listed, tells⟩)
    · exact .inr (.inr isLost)

/-- An event that was recorded before need not stay in hand. -/
theorem drop {event : TriggerEvent}
    (handled : FindingsHandled triggers found lost (event :: events))
    (known : event.eventId ∈ triggers.map TriggerEvent.eventId) :
    FindingsHandled triggers found lost events where
  handed other listed := handled.handed other (List.mem_cons_of_mem _ listed)
  recorded := handled.recorded
  covered pair isFound := by
    rcases handled.covered pair isFound with recorded | ⟨other, listed, tells⟩ | isLost
    · exact .inl recorded
    · rcases List.mem_cons.1 listed with same | inRest
      · rw [← tells.eventId, same]
        exact .inl known
      · exact .inr (.inl ⟨other, inRest, tells⟩)
    · exact .inr (.inr isLost)

/-- An event in hand may be recorded. -/
theorem record {event published : TriggerEvent} {bots : List String} {now : Instant}
    (handled : FindingsHandled triggers found lost (event :: events))
    (same : published = event.publishedFor bots now) :
    FindingsHandled (triggers ++ [published]) found lost events := by
  have widened : FindingsHandled (triggers ++ [published]) found lost (event :: events) := by
    refine ⟨handled.handed, ?_, ?_⟩
    · intro other listed
      rcases List.mem_append.1 listed with earlier | last
      · exact handled.recorded other earlier
      · rw [List.mem_singleton] at last
        rcases handled.handed event List.mem_cons_self with ⟨pair, isFound, tells⟩
        rw [last, same]
        exact ⟨pair, isFound, tells.alertId, tells.barTime, tells.eventId⟩
    · intro pair isFound
      rcases handled.covered pair isFound with recorded | elsewhere
      · rw [List.map_append]
        exact .inl (List.mem_append_left _ recorded)
      · exact .inr elsewhere
  apply widened.drop
  rw [List.map_append, same]
  exact List.mem_append_right _ List.mem_cons_self

/-- What a group finds comes in hand as the events that fire. -/
theorem find {registry : Registry} {owner : Nat → String} {pass : GroupPass}
    (handled : FindingsHandled triggers found lost events)
    (accounts : GroupPass.Accounts registry owner (found ++ lost) pass) {fired : List Fired}
    (result : pass.result = .ok fired) :
    FindingsHandled triggers (found ++ pass.found) (lost ++ pass.lost)
      (events ++ fired.map Fired.event) := by
  rcases accounts.fired fired result with ⟨tell, cover⟩
  refine ⟨?_, ?_, ?_⟩
  · intro event listed
    rcases List.mem_append.1 listed with earlier | later
    · rcases handled.handed event earlier with ⟨pair, isFound, tells⟩
      exact ⟨pair, List.mem_append_left _ isFound, tells⟩
    · rcases List.mem_map.1 later with ⟨one, isFired, rfl⟩
      rcases tell one isFired with ⟨pair, isFound, tells⟩
      exact ⟨pair, List.mem_append_right _ isFound, tells⟩
  · intro event listed
    rcases handled.recorded event listed with ⟨pair, isFound, tells⟩
    exact ⟨pair, List.mem_append_left _ isFound, tells⟩
  · have known (pair : String × Int) (before : pair ∈ found ++ lost) :
        eventIdOf pair.1 pair.2 ∈ triggers.map TriggerEvent.eventId ∨
          (∃ event ∈ events ++ fired.map Fired.event, event.Tells pair) ∨
            pair ∈ lost ++ pass.lost := by
      rcases List.mem_append.1 before with isFound | isLost
      · rcases handled.covered pair isFound with recorded | ⟨event, listed, tells⟩ | isLost
        · exact .inl recorded
        · exact .inr (.inl ⟨event, List.mem_append_left _ listed, tells⟩)
        · exact .inr (.inr (List.mem_append_left _ isLost))
      · exact .inr (.inr (List.mem_append_left _ isLost))
    intro pair isFound
    rcases List.mem_append.1 isFound with earlier | now
    · exact known pair (List.mem_append_left _ earlier)
    · rcases cover pair now with earlier | ⟨one, isFired, tells⟩
      · exact known pair earlier
      · exact .inr (.inl ⟨one.event, List.mem_append_right _ (List.mem_map_of_mem isFired), tells⟩)

theorem find_nothing {registry : Registry} {owner : Nat → String} {pass : GroupPass}
    (handled : FindingsHandled triggers found lost events)
    (accounts : GroupPass.Accounts registry owner (found ++ lost) pass) {failure : GroupFailure}
    (result : pass.result = .error failure) :
    FindingsHandled triggers (found ++ pass.found) (lost ++ pass.lost) events := by
  rw [accounts.failed failure result, List.append_nil]
  refine ⟨handled.handed, handled.recorded, ?_⟩
  intro pair isFound
  rcases handled.covered pair isFound with recorded | inHand | isLost
  · exact .inl recorded
  · exact .inr (.inl inHand)
  · exact .inr (.inr (List.mem_append_left _ isLost))

end FindingsHandled

namespace Simulation

/-! ## The books -/

/-- What was told of an event: the webhook requests made for it and the audits of its deliveries. -/
structure Tellings where
  calls : List Call
  audits : List DeliveryAudit

/-- What was told of an event, by the requests made so far and the audits in storage. -/
def tellings (calls : List Call) (services : Services) (eventId : String) : Tellings where
  calls := calls.filter (fun call => call.eventId == eventId)
  audits := services.store.deliveries.filter (fun audit => audit.eventId == eventId)

/-- The events whose dispatches ended some time ago, and what was told of them. -/
structure Past where
  ended : String → Prop
  told : String → Tellings

def Job.eventId (job : Job) : String := job.dispatch.event.eventId

/-- Whether the record of events is in order: each event is recorded before anything is told of it,
has one dispatch, and is not told of after that ended. -/
structure BooksKept (past : Past) (services : Services) (jobs : List Job) (calls : List Call) :
    Prop where
  records : services.Records
  begun : ∀ job ∈ jobs, job.eventId ∈ services.recordedIds
  apart : (jobs.map Job.eventId).Nodup
  called : ∀ call ∈ calls, call.eventId ∈ services.recordedIds
  audited : ∀ audit ∈ services.store.deliveries, audit.eventId ∈ services.recordedIds
  closed : ∀ eventId, past.ended eventId → eventId ∈ services.recordedIds ∧
    (∀ job ∈ jobs, job.eventId ≠ eventId) ∧ tellings calls services eventId = past.told eventId

namespace BooksKept

variable {past : Past} {services : Services} {jobs : List Job} {calls : List Call}

/-- A job may be given up. -/
theorem fewer (books : BooksKept past services jobs calls) {fewer : List Job}
    (sublist : fewer.Sublist jobs) : BooksKept past services fewer calls where
  records := books.records
  begun job member := books.begun job (sublist.subset member)
  apart := books.apart.sublist (sublist.map Job.eventId)
  called := books.called
  audited := books.audited
  closed eventId ended := by
    rcases books.closed eventId ended with ⟨recorded, idle, same⟩
    exact ⟨recorded, fun job member => idle job (sublist.subset member), same⟩

/-- Whether an event is recorded and its dispatch in hand: neither under way as a job nor ended. -/
structure InHand (past : Past) (services : Services) (jobs : List Job) (eventId : String) :
    Prop where
  recorded : eventId ∈ services.recordedIds
  idle : ∀ job ∈ jobs, job.eventId ≠ eventId
  unended : ¬ past.ended eventId

/-- A dispatch in hand may go on as a job. -/
theorem put (books : BooksKept past services jobs calls) {job : Job}
    (inHand : InHand past services jobs job.eventId) :
    BooksKept past services (jobs ++ [job]) calls where
  records := books.records
  begun other member := by
    rcases List.mem_append.1 member with earlier | last
    · exact books.begun other earlier
    · rw [List.mem_singleton] at last
      rw [last]
      exact inHand.recorded
  apart := by
    rw [List.map_append, List.nodup_append]
    refine ⟨books.apart, by simp, ?_⟩
    intro first listed second last
    rw [List.map_singleton, List.mem_singleton] at last
    rcases List.mem_map.1 listed with ⟨other, member, rfl⟩
    rw [last]
    exact inHand.idle other member
  called := books.called
  audited := books.audited
  closed eventId ended := by
    rcases books.closed eventId ended with ⟨recorded, idle, same⟩
    refine ⟨recorded, ?_, same⟩
    intro other member
    rcases List.mem_append.1 member with earlier | last
    · exact idle other earlier
    · rw [List.mem_singleton] at last
      rw [last]
      rintro rfl
      exact inHand.unended ended

/-- More may be told of an event whose dispatch is in hand or under way. -/
theorem tell (books : BooksKept past services jobs calls) {about : String → Prop}
    (isOpen : ∀ eventId, about eventId → eventId ∈ services.recordedIds ∧ ¬ past.ended eventId)
    {after : Services} (undisturbed : Services.Undisturbed about services after) {more : List Call}
    (isAbout : ∀ call ∈ more, about call.eventId) : BooksKept past after jobs (calls ++ more) := by
  have ids : after.recordedIds = services.recordedIds := by
    simp only [Services.recordedIds]
    rw [undisturbed.triggers]
  rcases undisturbed.audits with ⟨audits, deliveries, auditsAbout⟩
  refine ⟨books.records.of_undisturbed undisturbed, ?_, books.apart, ?_, ?_, ?_⟩
  · rw [ids]
    exact books.begun
  · intro call member
    rw [ids]
    rcases List.mem_append.1 member with earlier | later
    · exact books.called call earlier
    · exact (isOpen _ (isAbout call later)).1
  · intro audit member
    rw [ids]
    rw [deliveries] at member
    rcases List.mem_append.1 member with earlier | later
    · exact books.audited audit earlier
    · exact (isOpen _ (auditsAbout audit later)).1
  · intro eventId ended
    rw [ids]
    rcases books.closed eventId ended with ⟨recorded, idle, same⟩
    refine ⟨recorded, idle, ?_⟩
    have noCalls : more.filter (fun call => call.eventId == eventId) = [] := by
      rw [List.filter_eq_nil_iff]
      intro call member isIt
      rw [beq_iff_eq] at isIt
      exact (isOpen _ (isAbout call member)).2 (isIt ▸ ended)
    have noAudits : audits.filter (fun audit => audit.eventId == eventId) = [] := by
      rw [List.filter_eq_nil_iff]
      intro audit member isIt
      rw [beq_iff_eq] at isIt
      exact (isOpen _ (auditsAbout audit member)).2 (isIt ▸ ended)
    rw [← same]
    simp only [tellings]
    rw [deliveries, List.filter_append, List.filter_append, noCalls, noAudits, List.append_nil,
      List.append_nil]

/-- A dispatch that finds its event recorded leaves the books as they are. -/
theorem pass_over (books : BooksKept past services jobs calls) {after : Services}
    (records : after.Records) (triggers : after.store.triggers = services.store.triggers)
    (audits : after.store.deliveries = services.store.deliveries) :
    BooksKept past after jobs calls := by
  have ids : after.recordedIds = services.recordedIds := by
    simp only [Services.recordedIds]
    rw [triggers]
  refine ⟨records, ?_, books.apart, ?_, ?_, ?_⟩
  · rw [ids]
    exact books.begun
  · rw [ids]
    exact books.called
  · rw [ids, audits]
    exact books.audited
  · intro eventId ended
    simp only [tellings]
    rw [ids, audits]
    exact books.closed eventId ended

/-- A dispatch that begins has an event in hand that was not recorded before. -/
theorem begin_dispatch (books : BooksKept past services jobs calls) {event : TriggerEvent}
    (fresh : event.eventId ∉ services.recordedIds) {after : Services} (records : after.Records)
    (triggers : after.store.triggers = services.store.triggers ++ [event])
    (audits : after.store.deliveries = services.store.deliveries) :
    BooksKept past after jobs calls ∧ InHand past after jobs event.eventId := by
  have ids : after.recordedIds = services.recordedIds ++ [event.eventId] := by
    simp only [Services.recordedIds]
    rw [triggers, List.map_append, List.map_singleton]
  refine ⟨⟨records, ?_, books.apart, ?_, ?_, ?_⟩, ?_, ?_, ?_⟩
  · intro job member
    rw [ids]
    exact List.mem_append_left _ (books.begun job member)
  · intro call member
    rw [ids]
    exact List.mem_append_left _ (books.called call member)
  · intro audit member
    rw [audits] at member
    rw [ids]
    exact List.mem_append_left _ (books.audited audit member)
  · intro eventId ended
    rcases books.closed eventId ended with ⟨recorded, idle, same⟩
    simp only [tellings] at same ⊢
    rw [ids, audits]
    exact ⟨List.mem_append_left _ recorded, idle, same⟩
  · rw [ids]
    exact List.mem_append_right _ List.mem_cons_self
  · intro job member same
    exact fresh (same ▸ books.begun job member)
  · intro ended
    exact fresh (books.closed _ ended).1

end BooksKept

end Simulation

end CandleAlerts
