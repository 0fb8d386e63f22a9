import CandleAlerts.Proofs.FindingAccounts
import Mathlib.Data.List.Nodup

/-!
The accounts of a simulation are kept by everything that it does with errands and dispatches.

An errand that comes up holds its event in hand until it is put back, waits for a slot, or is
dispatched.
-/

namespace CandleAlerts.Simulation.State

/-- The errands that were handed over and have not begun: those that are on the agenda and those
that wait. -/
def pending (state : State) : List Errand :=
  state.agenda.filterMap (fun entry => entry.2.errand?) ++ state.waiting

/-- What is put on the agenda becomes pending if it is an errand. -/
theorem pending_of_agenda {before after : State} {more : List (Nat × Task)}
    (agenda : after.agenda.Perm (more ++ before.agenda))
    (waiting : after.waiting = before.waiting) :
    after.pending.Perm (more.filterMap (fun entry => entry.2.errand?) ++ before.pending) := by
  simp only [pending]
  rw [waiting, ← List.append_assoc, ← List.filterMap_append]
  exact (agenda.filterMap _).append_right _

theorem Calm.pending {about : String → Prop} {before after : State}
    (calm : Calm about before after) :
    after.pending.Perm before.pending := by
  rcases calm.agenda with ⟨more, agenda, others⟩
  have same := pending_of_agenda agenda calm.waiting
  have none : more.filterMap (fun entry => entry.2.errand?) = [] := by
    rw [List.filterMap_eq_nil_iff]
    exact others
  rw [none, List.nil_append] at same
  exact same

theorem pending_plan (state : State) (due : Nat) (task : Task) :
    (state.plan due task).pending.Perm (task.errand?.toList ++ state.pending) := by
  have agenda : (state.plan due task).agenda.Perm ([(due, task)] ++ state.agenda) :=
    state.plan_agenda due task
  have same := pending_of_agenda agenda rfl
  have first : [(due, task)].filterMap (fun entry => entry.2.errand?) = task.errand?.toList := by
    cases task <;> rfl
  rw [first] at same
  exact same

/-- What is taken from the agenda is in hand if it is an errand. -/
theorem pending_take {state : State}
    {before after : List (Nat × Task)} {due time : Nat} {task : Task}
    (agenda : state.agenda = before ++ (due, task) :: after) :
    state.pending.Perm
      (task.errand?.toList ++ { state with agenda := before ++ after, time }.pending) := by
  have taken : state.agenda.Perm
      ([(due, task)] ++ { state with agenda := before ++ after, time }.agenda) := by
    rw [agenda]
    exact List.perm_middle
  have same := pending_of_agenda taken rfl
  have first : [(due, task)].filterMap (fun entry => entry.2.errand?) = task.errand?.toList := by
    cases task <;> rfl
  rw [first] at same
  exact same

/-- The errand that waits first is called. -/
theorem pending_call {state : State} {next : Errand} {rest : List Errand}
    (waiting : state.waiting = next :: rest) :
    state.pending.Perm (next :: { state with waiting := rest }.pending) := by
  simp only [pending]
  rw [waiting]
  exact List.perm_middle

/-- The accounts of a state, of which some events are in hand. -/
structure Accounted (owner : Nat → String) (past : Past) (inHand : List TriggerEvent)
    (state : State) :
    Prop where
  cells : CellsOwned owner state.services.registry state.Evaluates (state.found ++ state.lost)
  books : BooksKept past state.services state.jobs state.calls
  findings : FindingsHandled state.services.store.triggers state.found state.lost
    (state.pending.map Errand.event ++ inHand)

/-- Whether the dispatch of an event is in hand. -/
abbrev Dispatches (past : Past) (state : State) (eventId : String) : Prop :=
  BooksKept.InHand past state.services state.jobs eventId

namespace Accounted

variable {owner : Nat → String} {past : Past} {inHand : List TriggerEvent} {state : State}
  {about : String → Prop}

theorem calm (accounts : Accounted owner past inHand state)
    (isOpen : ∀ eventId, about eventId → eventId ∈ state.services.recordedIds ∧
      ¬ past.ended eventId)
    {after : State} (calm : Calm about state after) : Accounted owner past inHand after := by
  rcases calm.calls with ⟨more, calls, isAbout⟩
  refine ⟨?_, ?_, ?_⟩
  · rw [calm.found, calm.lost]
    exact accounts.cells.of_same calm.services.alerts calm.services.cells calm.evaluates
  · rw [calm.jobs, calls]
    exact accounts.books.tell isOpen calm.services isAbout
  · rw [calm.found, calm.lost, calm.services.triggers]
    exact accounts.findings.of_perm ((calm.pending.map Errand.event).append_right inHand)

/-- Whatever is about no event keeps the accounts. -/
theorem silent (accounts : Accounted owner past inHand state) {after : State}
    (calm : Calm (fun _ => False) state after) : Accounted owner past inHand after :=
  accounts.calm (fun _ isAbout => isAbout.elim) calm

/-- The errands that are pending are what matters of the agenda, the queue and the slots, and jobs
may be given up. -/
theorem of_same (accounts : Accounted owner past inHand state) {after : State}
    {stillInHand : List TriggerEvent} (services : after.services = state.services)
    (found : after.found = state.found) (lost : after.lost = state.lost)
    (calls : after.calls = state.calls) (tick : after.tick = state.tick)
    (jobs : after.jobs.Sublist state.jobs)
    (pending : (after.pending.map Errand.event ++ stillInHand).Perm
      (state.pending.map Errand.event ++ inHand)) : Accounted owner past stillInHand after := by
  refine ⟨?_, ?_, ?_⟩
  · rw [services, found, lost]
    refine accounts.cells.of_same rfl rfl ?_
    rintro member ⟨current, under, evaluated⟩
    rw [tick] at under
    exact ⟨current, under, evaluated⟩
  · rw [services, calls]
    exact accounts.books.fewer jobs
  · rw [services, found, lost]
    exact accounts.findings.of_perm pending

/-! ## Errands -/

theorem take (accounts : Accounted owner past [] state)
    {before after : List (Nat × Task)} {due : Nat}
    {task : Task} (agenda : state.agenda = before ++ (due, task) :: after) (time : Nat) :
    Accounted owner past (task.errand?.toList.map Errand.event)
      { state with agenda := before ++ after, time } := by
  refine accounts.of_same rfl rfl rfl rfl rfl (List.Sublist.refl _) ?_
  rw [List.append_nil, ← List.map_append]
  exact (List.perm_append_comm.trans (pending_take agenda).symm).map Errand.event

theorem plan_errand {errand : Errand}
    (accounts : Accounted owner past (errand.event :: inHand) state)
    (due : Nat) {task : Task} (isErrand : task.errand? = some errand) :
    Accounted owner past inHand (state.plan due task) := by
  refine accounts.of_same rfl rfl rfl rfl rfl (List.Sublist.refl _) ?_
  have planned := (state.pending_plan due task).map Errand.event
  rw [isErrand] at planned
  exact (planned.append_right inHand).trans List.perm_middle.symm

theorem wait {errand : Errand} (accounts : Accounted owner past [errand.event] state) :
    Accounted owner past [] { state with waiting := state.waiting ++ [errand] } := by
  refine accounts.of_same rfl rfl rfl rfl rfl (List.Sublist.refl _) ?_
  simp only [State.pending]
  simp only [List.map_append, List.append_assoc, List.append_nil, List.map_singleton]
  exact List.Perm.refl _

theorem releaseSlot (accounts : Accounted owner past inHand state) :
    Accounted owner past inHand state.releaseSlot := by
  simp only [State.releaseSlot]
  split
  · exact accounts.of_same rfl rfl rfl rfl rfl (List.Sublist.refl _) (List.Perm.refl _)
  · rename_i next rest waiting
    have called : Accounted owner past (next.event :: inHand) { state with waiting := rest } := by
      refine accounts.of_same rfl rfl rfl rfl rfl (List.Sublist.refl _) ?_
      exact List.perm_middle.trans
        (((pending_call waiting).map Errand.event).append_right inHand).symm
    exact called.plan_errand _ rfl

theorem withoutJob (accounts : Accounted owner past inHand state) (number : Nat) :
    Accounted owner past inHand (state.withoutJob number) :=
  accounts.of_same rfl rfl rfl rfl rfl List.filter_sublist (List.Perm.refl _)

theorem endErrand {errand : Errand}
    (accounts : Accounted owner past inHand (state.withoutJob errand.number)) :
    Accounted owner past inHand (state.endErrand errand) := by
  simp only [State.endErrand]
  split
  · exact accounts
  · exact accounts.releaseSlot.silent (plan_calm _ _ rfl)

/-! ## Dispatches -/

theorem put (accounts : Accounted owner past inHand state) {job : Job}
    (dispatches : state.Dispatches past job.eventId) :
    Accounted owner past inHand { state with jobs := state.jobs ++ [job] } where
  cells := accounts.cells
  books := accounts.books.put dispatches
  findings := accounts.findings

/-- What is about an event whose dispatch is in hand keeps the accounts. -/
theorem tell {eventId : String} (accounts : Accounted owner past inHand state)
    (dispatches : state.Dispatches past eventId) {after : State}
    (calm : Calm (fun id => id = eventId) state after) :
    Accounted owner past inHand after ∧ after.Dispatches past eventId := by
  refine ⟨accounts.calm ?_ calm, ?_, ?_, dispatches.unended⟩
  · rintro id rfl
    exact ⟨dispatches.recorded, dispatches.unended⟩
  · simp only [Services.recordedIds]
    rw [calm.services.triggers]
    exact dispatches.recorded
  · rw [calm.jobs]
    exact dispatches.idle

theorem settleJob (setting : Setting) (job : Job)
    (accounts : Accounted owner past inHand (state.withoutJob job.errand.number))
    (dispatches : (state.withoutJob job.errand.number).Dispatches past job.eventId)
    (places : List Nat) : Accounted owner past inHand (state.settleJob setting job places) := by
  simp only [State.settleJob]
  split
  · rename_i outcomes _
    have finished : Calm (fun id => id = job.eventId) state
        { state with
          services := (state.services.finishDispatch job.dispatch outcomes setting.calendar).2 } :=
      .of_services state (Services.finishDispatch_undisturbed _ (by rfl) _ _)
    have told := (finished.trans (reportDispatch_calm _ job.errand
      (state.services.finishDispatch job.dispatch outcomes setting.calendar).1)).withoutJob
        job.errand.number
    exact (accounts.tell dispatches told).1.endErrand
  · exact (accounts.put dispatches).silent (planDeliveries_calm _ _ _ _)

/-- A dispatch in hand, some deliveries of which are carried on, ends or goes on as a job. -/
theorem carryOnAll {eventId : String} {number : Nat} (setting : Setting) {event : TriggerEvent}
    (isEvent : event.eventId = eventId)
    (accounts : Accounted owner past inHand (state.withoutJob number))
    (dispatches : (state.withoutJob number).Dispatches past eventId) (places : List Nat)
    (deliveries : List (WebhookTarget × DeliveryPhase)) :
    let after := (State.carryOnAll setting event places deliveries state).2
    Accounted owner past inHand (after.withoutJob number) ∧
      (after.withoutJob number).Dispatches past eventId :=
  accounts.tell dispatches
    ((carryOnAll_calm setting isEvent places deliveries state).withoutJob number)

theorem beginJob (setting : Setting) {errand : Errand} {dispatch : Dispatch}
    (accounts : Accounted owner past inHand (state.withoutJob errand.number))
    (dispatches : (state.withoutJob errand.number).Dispatches past dispatch.event.eventId) :
    Accounted owner past inHand (state.beginJob setting errand dispatch) := by
  simp only [State.beginJob]
  have startCalm :
      Calm (· = dispatch.event.eventId) state (state.startDeliveries setting dispatch).2 :=
    startDeliveries_calm setting state rfl
  rcases accounts.tell dispatches (startCalm.withoutJob errand.number) with
    ⟨startedAccounts, startedDispatches⟩
  generalize state.startDeliveries setting dispatch = start at startedAccounts startedDispatches ⊢
  rcases start with ⟨started, startedState⟩
  rcases startedAccounts.carryOnAll setting rfl startedDispatches (List.range started.length)
    started
    with ⟨carriedAccounts, carriedDispatches⟩
  dsimp only
  generalize State.carryOnAll setting dispatch.event (List.range started.length) started
    startedState
    = result at carriedAccounts carriedDispatches ⊢
  rcases result with ⟨carried, carriedState⟩
  cases carried with
  | none => exact carriedAccounts.endErrand
  | some deliveries =>
      have notified : Calm (fun id => id = dispatch.event.eventId) carriedState
          { carriedState with services := (carriedState.services.notifyUsers dispatch).2 } :=
        .of_services carriedState (Services.notifyUsers_undisturbed _ _)
      rcases carriedAccounts.tell carriedDispatches (notified.withoutJob errand.number) with
        ⟨notifiedAccounts, notifiedDispatches⟩
      exact settleJob setting ⟨errand, (carriedState.services.notifyUsers dispatch).1, deliveries⟩
        notifiedAccounts notifiedDispatches _

/-- An errand in hand is dispatched, unless its event was recorded before. -/
theorem beginErrand (setting : Setting) {errand : Errand}
    (accounts : Accounted owner past (errand.event :: inHand) state) :
    Accounted owner past inHand (state.beginErrand setting errand) := by
  simp only [State.beginErrand]
  rcases Services.beginDispatch_result accounts.books.records errand.alert errand.event
    setting.defaultSecret setting.calendar with ⟨result, records⟩
  generalize state.services.beginDispatch errand.alert errand.event setting.defaultSecret
    setting.calendar 0 = begun at result records ⊢
  cases result with
  | duplicate after recorded triggers registry audits =>
      have passed : Accounted owner past inHand { state with services := after } := by
        refine ⟨?_, accounts.books.pass_over records triggers audits, ?_⟩
        · dsimp only
          rw [registry]
          exact accounts.cells
        · dsimp only
          rw [triggers]
          exact (accounts.findings.of_perm List.perm_middle.symm).drop recorded
      exact (passed.silent (reportDispatch_calm _ errand _)).withoutJob _ |>.endErrand
  | begun dispatch after fresh same triggers registry audits =>
      rcases same with ⟨bots, now, same⟩
      have eventId : dispatch.event.eventId = errand.event.eventId := by
        rw [same]
        rfl
      rw [← eventId] at fresh
      rcases accounts.books.begin_dispatch fresh records triggers audits with ⟨books, dispatches⟩
      have recorded : Accounted owner past inHand { state with services := after } := by
        refine ⟨?_, books, ?_⟩
        · dsimp only
          rw [registry]
          exact accounts.cells
        · dsimp only
          rw [triggers]
          exact (accounts.findings.of_perm List.perm_middle.symm).record same
      refine (recorded.withoutJob errand.number).beginJob setting ?_
      exact ⟨dispatches.recorded,
        fun job member => dispatches.idle job (List.mem_of_mem_filter member),
        dispatches.unended⟩

theorem admitErrand (setting : Setting) {errand : Errand}
    (accounts : Accounted owner past [errand.event] state) :
    Accounted owner past [] (state.admitErrand setting errand) := by
  simp only [State.admitErrand]
  split
  · exact accounts.wait
  · have taken : Accounted owner past [errand.event] { state with slots := state.slots - 1 } :=
      accounts.of_same rfl rfl rfl rfl rfl (List.Sublist.refl _) (List.Perm.refl _)
    exact taken.beginErrand setting

/-- A job is the only dispatch of its event. -/
theorem dispatches_of_job (accounts : Accounted owner past inHand state) {job : Job}
    (member : job ∈ state.jobs) :
    (state.withoutJob job.errand.number).Dispatches past job.eventId where
  recorded := accounts.books.begun job member
  idle other listed same := by
    rcases List.mem_filter.1 listed with ⟨otherMember, different⟩
    have equal : other = job :=
      List.inj_on_of_nodup_map accounts.books.apart otherMember member same
    rw [equal] at different
    simp at different
  unended ended := (accounts.books.closed _ ended).2.1 job member rfl

theorem carryOnJob (setting : Setting) (accounts : Accounted owner past inHand state)
    (number place : Nat) : Accounted owner past inHand (state.carryOnJob setting number place) := by
  unfold State.carryOnJob
  split
  · exact accounts
  · rename_i job isJob
    dsimp only
    generalize List.filter _ (state.placesToCarryOn job place) = places
    rcases (accounts.withoutJob job.errand.number).carryOnAll setting rfl
      (accounts.dispatches_of_job (List.mem_of_find?_eq_some isJob)) places job.deliveries with
      ⟨carriedAccounts, carriedDispatches⟩
    generalize State.carryOnAll setting job.dispatch.event places job.deliveries state = result
      at carriedAccounts carriedDispatches ⊢
    rcases result with ⟨carried, carriedState⟩
    cases carried with
    | none => exact carriedAccounts.endErrand
    | some deliveries =>
        exact settleJob setting { job with deliveries } carriedAccounts carriedDispatches places

end Accounted

end CandleAlerts.Simulation.State
