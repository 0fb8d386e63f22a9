import CandleAlerts.Proofs.ErrandAccounts

/-!
No errand is stranded.

An errand that waits for a slot waits because every slot is taken, by a dispatch under way or by an
errand that is about to begin. A dispatch under way has a delivery that goes on, and all of its
deliveries that go on are on the agenda. So nothing can wait once the agenda is empty.
-/

namespace CandleAlerts.Simulation

/-! ## Numbers -/

/-- Whether errands are told apart by numbers that were taken, and groups wait for them. -/
structure Numbered (errands : List Errand) (numbers : Nat) : Prop where
  distinct : (errands.map Errand.number).Nodup
  taken : ∀ errand ∈ errands, errand.number < numbers
  grouped : ∀ errand ∈ errands, errand.group.isSome = true

namespace Numbered

variable {errands : List Errand} {numbers : Nat}

theorem of_perm (numbered : Numbered errands numbers) {others : List Errand}
    (same : others.Perm errands) : Numbered others numbers where
  distinct := (same.map Errand.number).nodup_iff.2 numbered.distinct
  taken errand member := numbered.taken errand (same.mem_iff.1 member)
  grouped errand member := numbered.grouped errand (same.mem_iff.1 member)

theorem mono (numbered : Numbered errands numbers) {more : Nat} (grows : numbers ≤ more) :
    Numbered errands more where
  distinct := numbered.distinct
  taken errand member := Nat.lt_of_lt_of_le (numbered.taken errand member) grows
  grouped := numbered.grouped

theorem tail {errand : Errand} (numbered : Numbered (errand :: errands) numbers) :
    Numbered errands numbers where
  distinct := (List.nodup_cons.1 numbered.distinct).2
  taken other member := numbered.taken other (List.mem_cons_of_mem _ member)
  grouped other member := numbered.grouped other (List.mem_cons_of_mem _ member)

/-- The next number belongs to no errand yet. -/
theorem cons (numbered : Numbered errands numbers) {errand : Errand}
    (number : errand.number = numbers)
    (grouped : errand.group.isSome = true) : Numbered (errand :: errands) (numbers + 1) where
  distinct := by
    rw [List.map_cons, List.nodup_cons]
    refine ⟨?_, numbered.distinct⟩
    intro listed
    rcases List.mem_map.1 listed with ⟨other, member, same⟩
    have below := numbered.taken other member
    omega
  taken other member := by
    rcases List.mem_cons.1 member with same | earlier
    · rw [same, number]
      exact Nat.lt_succ_self _
    · exact Nat.lt_succ_of_lt (numbered.taken other earlier)
  grouped other member := by
    rcases List.mem_cons.1 member with same | earlier
    · rw [same]
      exact grouped
    · exact numbered.grouped other earlier

end Numbered

/-! ## Jobs -/

def DeliveryPhase.Lives (phase : DeliveryPhase) : Prop := phase ≠ .crashed

/-- Whether a dispatch goes on: a delivery does, and each that does is on the agenda. -/
structure Job.Planned (agenda : List (Nat × Task)) (job : Job) : Prop where
  lives : ∀ delivery ∈ job.deliveries, delivery.2.Lives
  goesOn : ∃ delivery ∈ job.deliveries, delivery.2.due?.isSome = true
  listed : ∀ place delivery due, job.deliveries[place]? = some delivery →
    delivery.2.due? = some due → (due, Task.deliveryDue job.errand.number place) ∈ agenda

theorem Job.Planned.mono
    {agenda more : List (Nat × Task)} {job : Job} (planned : job.Planned agenda)
    (subset : ∀ entry ∈ agenda, entry ∈ more) : job.Planned more where
  lives := planned.lives
  goesOn := planned.goesOn
  listed place delivery due get isDue := subset _ (planned.listed place delivery due get isDue)

/-- What is taken from the agenda is of a delivery that is carried on; the others stay listed. -/
theorem Job.Planned.listed_of_take {before after agenda : List (Nat × Task)} {job : Job}
    (planned : job.Planned agenda) {due place : Nat}
    (taken : agenda = before ++ (due, .deliveryDue job.errand.number place) :: after)
    {places : List Nat} (carries : ∀ delivery, job.deliveries[place]? = some delivery →
      delivery.2.due? = some due → place ∈ places) :
    ∀ other delivery whenDue, other ∉ places → job.deliveries[other]? = some delivery →
      delivery.2.due? = some whenDue →
        (whenDue, Task.deliveryDue job.errand.number other) ∈ before ++ after := by
  intro other delivery whenDue absent get isDue
  have listed := planned.listed other delivery whenDue get isDue
  rw [taken] at listed
  rcases List.mem_append.1 listed with earlier | atOrLater
  · exact List.mem_append_left _ earlier
  · rcases List.mem_cons.1 atOrLater with equal | later
    · cases equal
      exact absurd (carries delivery get isDue) absent
    · exact List.mem_append_right _ later

/-- A delivery that lives goes on or has ended. -/
theorem DeliveryPhase.Lives.cases {phase : DeliveryPhase} (lives : phase.Lives) :
    phase.due?.isSome = true ∨ ∃ outcome, phase = .ended outcome := by
  cases phase with
  | pausing due progress => exact .inl rfl
  | answering due progress result => exact .inl rfl
  | crashed => exact absurd rfl lives
  | ended outcome => exact .inr ⟨outcome, rfl⟩

/-- Whether a task is an errand that was given a slot. -/
def Task.hasSlot : Task → Bool
  | .errandAdmitted _ => true
  | _ => false

theorem Task.hasSlot_of_errand?_eq_none {task : Task} (other : task.errand? = none) :
    task.hasSlot = false := by
  cases task with
  | errandAdmitted errand => cases other
  | _ => rfl

namespace State

/-- Deliveries that live and have not all ended go on. -/
theorem goesOn_of_outcomes?_eq_none {deliveries : List (WebhookTarget × DeliveryPhase)}
    (lives : ∀ delivery ∈ deliveries, delivery.2.Lives) (under : outcomes? deliveries = none) :
    ∃ delivery ∈ deliveries, delivery.2.due?.isSome = true := by
  induction deliveries with
  | nil => cases under
  | cons delivery rest induction =>
      rcases (lives delivery List.mem_cons_self).cases with goesOn | ⟨outcome, ended⟩
      · exact ⟨delivery, List.mem_cons_self, goesOn⟩
      · have others : outcomes? rest = none := by
          simp only [outcomes?] at under ⊢
          rw [List.mapM_cons, ended] at under
          rw [Option.eq_none_iff_forall_ne_some]
          simpa using under
        rcases induction (fun other member =>
          lives other (List.mem_cons_of_mem _ member)) others with
          ⟨other, member, goesOn⟩
        exact ⟨other, List.mem_cons_of_mem _ member, goesOn⟩

theorem followStep_lives (setting : Setting) (state : State) (event : TriggerEvent)
    (target : WebhookTarget) (step : Webhook.DeliveryStep) :
    (state.followStep setting event target step).1.Lives := by
  cases step with
  | attempt wait progress => exact DeliveryPhase.noConfusion
  | finished outcome => exact DeliveryPhase.noConfusion

theorem foldl_startNext_lives (setting : Setting) (event : TriggerEvent)
    (webhooks : List WebhookTarget) (sofar : List (WebhookTarget × DeliveryPhase) × State)
    (lives : ∀ delivery ∈ sofar.1, delivery.2.Lives) :
    ∀ delivery ∈ (webhooks.foldl (startNext setting event) sofar).1, delivery.2.Lives := by
  induction webhooks generalizing sofar with
  | nil => exact lives
  | cons target rest induction =>
      rw [List.foldl_cons]
      apply induction
      intro delivery member
      rcases List.mem_append.1 member with earlier | last
      · exact lives delivery earlier
      · rw [List.mem_singleton] at last
        rw [last]
        exact followStep_lives setting sofar.2 event target setting.policy.start

theorem startDeliveries_lives (setting : Setting) (state : State) (dispatch : Dispatch) :
    ∀ delivery ∈ (state.startDeliveries setting dispatch).1, delivery.2.Lives := by
  apply foldl_startNext_lives
  intro delivery member
  cases member

/-- Carrying deliveries on ends in a crash or leaves all of them alive, and touches none but those
at the places. -/
theorem carryOnAll_lives (setting : Setting) (event : TriggerEvent) (places : List Nat)
    {deliveries after : List (WebhookTarget × DeliveryPhase)} {state : State}
    (lives : ∀ delivery ∈ deliveries, delivery.2.Lives)
    (carried : (carryOnAll setting event places deliveries state).1 = some after) :
    (∀ delivery ∈ after, delivery.2.Lives) ∧
      ∀ place, place ∉ places → after[place]? = deliveries[place]? := by
  induction places generalizing deliveries state with
  | nil =>
      cases carried
      exact ⟨lives, fun _ _ => rfl⟩
  | cons place rest induction =>
      unfold carryOnAll at carried
      split at carried
      · rcases induction lives carried with ⟨afterLives, same⟩
        exact ⟨afterLives, fun other absent => same other (fun inRest =>
          absent (List.mem_cons_of_mem _ inRest))⟩
      · rename_i target phase _
        dsimp only at carried
        split at carried
        · cases carried
        · rename_i survives
          have setLives : ∀ delivery ∈ deliveries.set place
              (target, (carryOn setting event target (deliveryMoves setting) phase state).1),
              delivery.2.Lives := by
            intro delivery member
            rcases List.mem_or_eq_of_mem_set member with earlier | same
            · exact lives delivery earlier
            · rw [same]
              exact survives
          rcases induction setLives carried with ⟨afterLives, same⟩
          refine ⟨afterLives, ?_⟩
          intro other absent
          rw [same other (fun inRest => absent (List.mem_cons_of_mem _ inRest))]
          apply List.getElem?_set_ne
          intro equal
          rw [equal] at absent
          exact absent List.mem_cons_self

theorem Calm.agenda_subset {about : String → Prop} {before after : State}
    (calm : Calm about before after) : ∀ entry ∈ before.agenda, entry ∈ after.agenda := by
  rcases calm.agenda with ⟨more, agenda, -⟩
  intro entry member
  exact agenda.mem_iff.2 (List.mem_append_right _ member)

/-- Each delivery that goes on at one of the places is put on the agenda. -/
theorem planDeliveries_listed (state : State) (number : Nat) {places : List Nat}
    {deliveries : List (WebhookTarget × DeliveryPhase)} {place due : Nat}
    {delivery : WebhookTarget × DeliveryPhase} (member : place ∈ places)
    (get : deliveries[place]? = some delivery) (isDue : delivery.2.due? = some due) :
    (due, Task.deliveryDue number place) ∈
      (state.planDeliveries number places deliveries).agenda := by
  induction places generalizing state with
  | nil => cases member
  | cons first rest induction =>
      rcases List.mem_cons.1 member with same | inRest
      · have planned : (due, Task.deliveryDue number place) ∈
            (state.plan due (.deliveryDue number place)).agenda :=
          (state.plan_agenda due _).mem_iff.2 List.mem_cons_self
        have later : Calm (fun _ => False) _ _ := planDeliveries_calm
          (state.plan due (.deliveryDue number place)) number rest deliveries
        have step : state.planDeliveries number (first :: rest) deliveries =
            (state.plan due (.deliveryDue number place)).planDeliveries number rest deliveries := by
          simp only [planDeliveries]
          rw [List.foldl_cons, ← same, get, Option.bind_some, isDue]
        rw [step]
        exact later.agenda_subset _ planned
      · exact induction _ inRest

/-- A dispatch that goes on is planned when the deliveries that were carried on are put on the
agenda and the others are there. -/
theorem planned_of_planDeliveries (state : State) (job : Job)
    (lives : ∀ delivery ∈ job.deliveries, delivery.2.Lives)
    (under : outcomes? job.deliveries = none) {places : List Nat}
    (listed : ∀ place delivery due, place ∉ places → job.deliveries[place]? = some delivery →
      delivery.2.due? = some due →
        (due, Task.deliveryDue job.errand.number place) ∈ state.agenda) :
    job.Planned (state.planDeliveries job.errand.number places job.deliveries).agenda where
  lives := lives
  goesOn := goesOn_of_outcomes?_eq_none lives under
  listed place delivery due get isDue := by
    by_cases carried : place ∈ places
    · exact planDeliveries_listed _ _ carried get isDue
    · have calm : Calm (fun _ => False) _ _ :=
        planDeliveries_calm state job.errand.number places job.deliveries
      exact calm.agenda_subset _ (listed place delivery due carried get isDue)

theorem mem_duePlaces {state : State} {deliveries : List (WebhookTarget × DeliveryPhase)}
    {place : Nat} : place ∈ state.duePlaces deliveries ↔
      ∃ delivery due, deliveries[place]? = some delivery ∧ delivery.2.due? = some due ∧
        due ≤ state.time := by
  simp only [duePlaces]
  rw [List.mem_filter, List.mem_range]
  constructor
  · rintro ⟨-, isDueNow⟩
    split at isDueNow
    · rename_i due isDue
      rcases Option.bind_eq_some_iff.1 isDue with ⟨delivery, get, isDue⟩
      exact ⟨delivery, due, get, isDue, of_decide_eq_true isDueNow⟩
    · cases isDueNow
  · rintro ⟨delivery, due, get, isDue, reached⟩
    refine ⟨(List.getElem?_eq_some_iff.1 get).1, ?_⟩
    rw [get, Option.bind_some, isDue]
    exact decide_eq_true reached

/-- The delivery that has come up on the agenda is carried on, if it is due. -/
theorem mem_placesToCarryOn {state : State} {job : Job} {place due : Nat}
    {delivery : WebhookTarget × DeliveryPhase} (get : job.deliveries[place]? = some delivery)
    (isDue : delivery.2.due? = some due) (reached : due ≤ state.time) :
    place ∈ (state.placesToCarryOn job place).filter
      (state.duePlaces job.deliveries).contains := by
  have isDueNow := mem_duePlaces.2 ⟨delivery, due, get, isDue, reached⟩
  rw [List.mem_filter]
  refine ⟨?_, List.contains_iff_mem.2 isDueNow⟩
  simp only [placesToCarryOn]
  split
  · exact isDueNow
  · exact List.mem_cons_self

/-! ## The schedule -/

/-- Values that are told apart by a key are the one of a key and those of other keys. -/
theorem perm_cons_filter_of_nodup_map {α : Type} {key : α → Nat} {values : List α}
    (distinct : (values.map key).Nodup) {value : α} (member : value ∈ values) :
    values.Perm (value :: values.filter (fun other => key other != key value)) := by
  induction values with
  | nil => cases member
  | cons first rest induction =>
      rw [List.map_cons, List.nodup_cons] at distinct
      rcases distinct with ⟨fresh, distinct⟩
      rcases List.mem_cons.1 member with same | inRest
      · have others : rest.filter (fun other => key other != key value) = rest := by
          rw [List.filter_eq_self]
          intro other inRest
          rw [bne_iff_ne]
          intro equal
          rw [same] at equal
          exact fresh (equal ▸ List.mem_map_of_mem inRest)
        rw [List.filter_cons_of_neg (by simp [same]), others, same]
      · have different : (key first != key value) = true := by
          rw [bne_iff_ne]
          intro equal
          exact fresh (equal ▸ List.mem_map_of_mem inRest)
        rw [List.filter_cons, if_pos different]
        exact ((induction distinct inRest).cons first).trans (List.Perm.swap value first _)

theorem Calm.countP_hasSlot {about : String → Prop} {before after : State}
    (calm : Calm about before after) :
    after.agenda.countP (fun entry => entry.2.hasSlot) =
      before.agenda.countP (fun entry => entry.2.hasSlot) := by
  rcases calm.agenda with ⟨more, agenda, others⟩
  have none : more.countP (fun entry => entry.2.hasSlot) = 0 := by
    rw [List.countP_eq_zero]
    intro entry member
    rw [Task.hasSlot_of_errand?_eq_none (others entry member)]
    exact Bool.false_ne_true
  rw [agenda.countP_eq, List.countP_append, none, Nat.zero_add]

/-- Whether errands are scheduled so that none is stranded: of all slots, so many are held by
errands in hand. -/
structure Scheduled (slots held : Nat) (inHand : List Errand) (state : State) : Prop where
  numbered : Numbered (state.pending ++ inHand ++ state.jobs.map Job.errand) state.numbers
  full : state.waiting ≠ [] → state.slots = 0
  total : state.slots + state.agenda.countP (fun entry => entry.2.hasSlot) +
    state.jobs.length + held =
    slots
  planned : ∀ job ∈ state.jobs, job.Planned state.agenda

namespace Scheduled

variable {slots held : Nat} {inHand : List Errand} {state : State}

theorem calm (scheduled : Scheduled slots held inHand state) {about : String → Prop} {after : State}
    (calm : Calm about state after) : Scheduled slots held inHand after where
  numbered := by
    rw [calm.jobs]
    exact (scheduled.numbered.of_perm ((calm.pending.append_right _).append_right _)).mono
      calm.numbers
  full := by
    rw [calm.waiting, calm.slots]
    exact scheduled.full
  total := by
    rw [calm.countP_hasSlot, calm.slots, calm.jobs]
    exact scheduled.total
  planned job member := by
    rw [calm.jobs] at member
    exact (scheduled.planned job member).mono calm.agenda_subset

/-- What is taken from the agenda is in hand if it is an errand, with its slot if it has one. -/
theorem take (scheduled : Scheduled slots held inHand state) {before after : List (Nat × Task)}
    {due : Nat} {task : Task} (agenda : state.agenda = before ++ (due, task) :: after)
    (spares : ∀ job ∈ state.jobs, ∀ place, task ≠ .deliveryDue job.errand.number place)
    (time : Nat) :
    Scheduled slots (held + task.hasSlot.toNat) (task.errand?.toList ++ inHand)
      { state with agenda := before ++ after, time } where
  numbered := by
    apply scheduled.numbered.of_perm
    apply List.Perm.append_right
    rw [← List.append_assoc]
    exact (List.perm_append_comm.trans (pending_take agenda).symm).append_right inHand
  full := scheduled.full
  total := by
    have total := scheduled.total
    rw [agenda, List.countP_append, List.countP_cons] at total
    dsimp only
    rw [List.countP_append]
    cases hasSlot : task.hasSlot with
    | true =>
        rw [hasSlot, if_pos rfl] at total
        simp only [Bool.toNat_true]
        omega
    | false =>
        rw [hasSlot, if_neg Bool.false_ne_true] at total
        simp only [Bool.toNat_false]
        omega
  planned job member := by
    have planned := scheduled.planned job member
    refine ⟨planned.lives, planned.goesOn, ?_⟩
    intro place delivery whenDue get isDue
    have listed := planned.listed place delivery whenDue get isDue
    rw [agenda] at listed
    rcases List.mem_append.1 listed with earlier | atOrLater
    · exact List.mem_append_left _ earlier
    · rcases List.mem_cons.1 atOrLater with same | later
      · exact absurd (Prod.mk.inj same).2.symm (spares job member place)
      · exact List.mem_append_right _ later

/-! ### Errands -/

/-- A group hands over an errand of a new number. -/
theorem hand_over (scheduled : Scheduled slots held inHand state) {errand : Errand}
    (number : errand.number = state.numbers) (grouped : errand.group.isSome = true) (due : Nat) :
    Scheduled slots held inHand
      ({ state with numbers := state.numbers + 1 }.plan due (.errandReady errand)) where
  numbered := by
    apply (scheduled.numbered.cons number grouped).of_perm
    exact ((pending_plan _ due (.errandReady errand)).append_right _).append_right _
  full := scheduled.full
  total := by
    rw [(plan_agenda _ due (.errandReady errand)).countP_eq, List.countP_cons]
    exact scheduled.total
  planned job member := (scheduled.planned job member).mono (fun _ earlier =>
    (plan_agenda _ due (.errandReady errand)).mem_iff.2 (List.mem_cons_of_mem _ earlier))

theorem wait {errand : Errand} (scheduled : Scheduled slots 0 [errand] state)
    (full : state.slots = 0) :
    Scheduled slots 0 [] { state with waiting := state.waiting ++ [errand] } where
  numbered := by
    apply scheduled.numbered.of_perm
    simp only [State.pending]
    simp only [List.append_assoc, List.nil_append]
    exact List.Perm.refl _
  full _ := full
  total := scheduled.total
  planned := scheduled.planned

theorem seize {errand : Errand} (scheduled : Scheduled slots 0 [errand] state)
    (free : state.slots ≠ 0) :
    Scheduled slots 1 [errand] { state with slots := state.slots - 1 } where
  numbered := scheduled.numbered
  full waits := absurd (scheduled.full waits) free
  total := by
    have total := scheduled.total
    dsimp only
    omega
  planned := scheduled.planned

theorem releaseSlot (scheduled : Scheduled slots 1 [] state) :
    Scheduled slots 0 [] state.releaseSlot := by
  have total := scheduled.total
  simp only [State.releaseSlot]
  split
  · rename_i nobody
    refine ⟨scheduled.numbered, fun waits => absurd nobody waits, ?_, scheduled.planned⟩
    dsimp only
    omega
  · rename_i next rest waiting
    have full : state.slots = 0 := scheduled.full (by rw [waiting]; exact List.cons_ne_nil _ _)
    refine ⟨?_, fun _ => full, ?_, ?_⟩
    · apply scheduled.numbered.of_perm
      apply List.Perm.append_right
      have called :
          ({ state with waiting := rest }.plan state.time (.errandAdmitted next)).pending.Perm
          state.pending := (pending_plan _ _ _).trans (pending_call waiting).symm
      exact called.append_right []
    · rw [(plan_agenda _ state.time (.errandAdmitted next)).countP_eq, List.countP_cons_of_pos rfl]
      change state.slots + (state.agenda.countP _ + 1) + state.jobs.length + 0 = slots
      omega
    · intro job member
      exact (scheduled.planned job member).mono (fun _ earlier =>
        (plan_agenda _ state.time (.errandAdmitted next)).mem_iff.2
          (List.mem_cons_of_mem _ earlier))

/-- An errand that ends gives its slot to the next. -/
theorem endErrand {errand : Errand}
    (scheduled : Scheduled slots 1 [errand] (state.withoutJob errand.number)) :
    Scheduled slots 0 [] (state.endErrand errand) := by
  have grouped : errand.group.isSome = true := scheduled.numbered.grouped errand (by simp)
  rcases Option.isSome_iff_exists.1 grouped with ⟨⟨tick, place⟩, group⟩
  have dropped : Scheduled slots 1 [] (state.withoutJob errand.number) := by
    refine ⟨?_, scheduled.full, scheduled.total, scheduled.planned⟩
    have numbered := scheduled.numbered
    rw [List.append_assoc] at numbered
    have first := (numbered.of_perm List.perm_middle.symm).tail
    rw [List.append_nil]
    exact first
  have noted (due : Nat) : Calm (fun _ => False) (state.withoutJob errand.number).releaseSlot
      ((state.withoutJob errand.number).releaseSlot.plan due (.groupErrandDone tick place)) :=
    plan_calm _ due rfl
  simp only [State.endErrand]
  rw [group]
  exact dropped.releaseSlot.calm (noted _)

/-! ### Dispatches -/

/-- A job may be taken in hand, with its errand and its slot. -/
theorem hold (scheduled : Scheduled slots 0 [] state) {job : Job} (member : job ∈ state.jobs) :
    Scheduled slots 1 [job.errand] (state.withoutJob job.errand.number) := by
  have numbered := scheduled.numbered
  rw [List.append_nil] at numbered
  have distinct : (state.jobs.map (fun other => other.errand.number)).Nodup := by
    have distinct := numbered.distinct
    rw [List.map_append, List.map_map] at distinct
    exact (List.nodup_append.1 distinct).2.1
  have split := perm_cons_filter_of_nodup_map distinct member
  refine ⟨?_, scheduled.full, ?_, ?_⟩
  · apply numbered.of_perm
    rw [List.append_assoc]
    exact ((split.map Job.errand).append_left _).symm
  · have total := scheduled.total
    rw [split.length_eq, List.length_cons] at total
    rw [← total]
    simp only [State.withoutJob]
    omega
  · intro other listed
    exact scheduled.planned other (List.mem_filter.1 listed).1

/-- A dispatch in hand, the deliveries of which were carried on at some places, ends or goes on as a
job. -/
theorem settleJob (setting : Setting) (job : Job)
    (scheduled : Scheduled slots 1 [job.errand] (state.withoutJob job.errand.number))
    (lives : ∀ delivery ∈ job.deliveries, delivery.2.Lives) (places : List Nat)
    (listed : ∀ place delivery due, place ∉ places → job.deliveries[place]? = some delivery →
      delivery.2.due? = some due →
      (due, Task.deliveryDue job.errand.number place) ∈ state.agenda) :
    Scheduled slots 0 [] (state.settleJob setting job places) := by
  unfold State.settleJob
  split
  · rename_i outcomes _
    have finished : Calm (fun id => id = job.eventId) state
        { state with
          services := (state.services.finishDispatch job.dispatch outcomes setting.calendar).2 } :=
      .of_services state (Services.finishDispatch_undisturbed _ (by rfl) _ _)
    have told := (finished.trans (reportDispatch_calm _ job.errand
      (state.services.finishDispatch job.dispatch outcomes setting.calendar).1)).withoutJob
        job.errand.number
    exact (scheduled.calm told).endErrand
  · rename_i under
    dsimp only
    have calm : Calm (fun _ => False) _ _ := planDeliveries_calm
      { state.withoutJob job.errand.number with
        jobs := (state.withoutJob job.errand.number).jobs ++ [job] }
      job.errand.number places job.deliveries
    refine ⟨?_, ?_, ?_, ?_⟩
    · rw [calm.jobs]
      refine (scheduled.numbered.of_perm ?_).mono calm.numbers
      rw [List.append_nil, List.map_append, List.append_assoc]
      exact calm.pending.append List.perm_append_comm
    · rw [calm.waiting, calm.slots]
      exact scheduled.full
    · rw [calm.countP_hasSlot, calm.slots, calm.jobs]
      have total := scheduled.total
      dsimp only at total ⊢
      rw [List.length_append, List.length_singleton]
      omega
    · intro other member
      rw [calm.jobs] at member
      rcases List.mem_append.1 member with earlier | last
      · exact (scheduled.planned other earlier).mono calm.agenda_subset
      · rw [List.mem_singleton] at last
        rw [last]
        exact planned_of_planDeliveries _ job lives under listed

theorem beginJob (setting : Setting) {errand : Errand} {dispatch : Dispatch}
    (scheduled : Scheduled slots 1 [errand] (state.withoutJob errand.number)) :
    Scheduled slots 0 [] (state.beginJob setting errand dispatch) := by
  simp only [State.beginJob]
  have start : Calm (fun id => id = dispatch.event.eventId) state
      (state.startDeliveries setting dispatch).2 := startDeliveries_calm setting state rfl
  have startedLives := startDeliveries_lives setting state dispatch
  generalize state.startDeliveries setting dispatch = started at start startedLives ⊢
  rcases started with ⟨started, startedState⟩
  have carry : Calm (fun id => id = dispatch.event.eventId) startedState
      (carryOnAll setting dispatch.event (List.range started.length) started startedState).2 :=
    carryOnAll_calm setting (by rfl) _ _ _
  have carriedLives (deliveries : List (WebhookTarget × DeliveryPhase))
      (carried : (carryOnAll setting dispatch.event (List.range started.length) started
        startedState).1 = some deliveries) :=
    carryOnAll_lives setting dispatch.event (List.range started.length) startedLives carried
  dsimp only
  generalize carryOnAll setting dispatch.event (List.range started.length) started startedState
    = result at carry carriedLives ⊢
  rcases result with ⟨carried, carriedState⟩
  have scheduledThen := scheduled.calm ((start.trans carry).withoutJob errand.number)
  cases carried with
  | none => exact scheduledThen.endErrand
  | some deliveries =>
      rcases carriedLives deliveries rfl with ⟨lives, same⟩
      have notified : Calm (fun id => id = dispatch.event.eventId) carriedState
          { carriedState with services := (carriedState.services.notifyUsers dispatch).2 } :=
        .of_services carriedState (Services.notifyUsers_undisturbed _ _)
      apply settleJob setting ⟨errand, (carriedState.services.notifyUsers dispatch).1, deliveries⟩
        (scheduledThen.calm (notified.withoutJob errand.number)) lives
      intro place delivery due absent get isDue
      rw [List.mem_range, Nat.not_lt] at absent
      rw [same place (by rw [List.mem_range]; exact Nat.not_lt.2 absent),
        List.getElem?_eq_none absent] at get
      cases get

theorem withoutJob_of_fresh {errand : Errand} (scheduled : Scheduled slots held [errand] state) :
    state.withoutJob errand.number = state := by
  simp only [State.withoutJob]
  have others : state.jobs.filter (fun job => job.errand.number != errand.number) = state.jobs := by
    rw [List.filter_eq_self]
    intro job member
    rw [bne_iff_ne]
    intro same
    have distinct := scheduled.numbered.distinct
    rw [List.map_append, List.nodup_append] at distinct
    exact distinct.2.2 errand.number (by simp) job.errand.number
      (List.mem_map_of_mem (List.mem_map_of_mem member)) same.symm
  rw [others]

/-- What changes only the services keeps the schedule. -/
theorem of_services (scheduled : Scheduled slots held inHand state) (services : Services) :
    Scheduled slots held inHand { state with services } where
  numbered := scheduled.numbered
  full := scheduled.full
  total := scheduled.total
  planned := scheduled.planned

theorem beginErrand (setting : Setting) {errand : Errand}
    (scheduled : Scheduled slots 1 [errand] state) :
    Scheduled slots 0 [] (state.beginErrand setting errand) := by
  simp only [State.beginErrand]
  generalize state.services.beginDispatch errand.alert errand.event setting.defaultSecret
    setting.calendar 0 = begun
  rcases begun with ⟨dispatch, services⟩
  have begun := scheduled.of_services services
  cases dispatch with
  | none =>
      have reported : Calm (fun _ => False) { state with services }
          ({ state with services }.reportDispatch errand { duplicate := true }) :=
        reportDispatch_calm _ _ _
      have noted := begun.calm reported
      rw [← noted.withoutJob_of_fresh] at noted
      exact noted.endErrand
  | some dispatch =>
      rw [← begun.withoutJob_of_fresh] at begun
      exact begun.beginJob setting

theorem admitErrand (setting : Setting) {errand : Errand}
    (scheduled : Scheduled slots 0 [errand] state) :
    Scheduled slots 0 [] (state.admitErrand setting errand) := by
  simp only [State.admitErrand]
  split
  · rename_i full
    exact scheduled.wait full
  · rename_i free
    exact (scheduled.seize free).beginErrand setting

/-- Carrying a dispatch on takes in hand whatever has come up on the agenda for it. -/
theorem carryOnJob (setting : Setting) (scheduled : Scheduled slots 0 [] state)
    {before after : List (Nat × Task)} {due number place : Nat}
    (agenda : state.agenda = before ++ (due, .deliveryDue number place) :: after) {time : Nat}
    (reached : due ≤ time) :
    Scheduled slots 0 []
      ({ state with agenda := before ++ after, time }.carryOnJob setting number place) := by
  unfold State.carryOnJob
  split
  · rename_i absent
    rw [List.find?_eq_none] at absent
    apply scheduled.take agenda
    intro job member other same
    cases same
    exact absent job member (beq_self_eq_true _)
  · rename_i job isJob
    have member : job ∈ state.jobs := List.mem_of_find?_eq_some isJob
    have isNumber : job.errand.number = number := by
      have found := List.find?_some isJob
      exact beq_iff_eq.1 found
    subst isNumber
    have held : Scheduled slots 1 [job.errand] (State.withoutJob
        { state with agenda := before ++ after, time } job.errand.number) := by
      apply (scheduled.hold member).take agenda
      intro other listed otherPlace same
      have different := (List.mem_filter.1 listed).2
      rw [bne_iff_ne] at different
      exact different (Task.deliveryDue.inj same).1.symm
    have planned := scheduled.planned job member
    dsimp only
    generalize taken : ({ state with agenda := before ++ after, time } : State) = now at held ⊢
    have reachedNow : due ≤ now.time := by
      rw [← taken]
      exact reached
    have carries (delivery : WebhookTarget × DeliveryPhase)
        (get : job.deliveries[place]? = some delivery) (isDue : delivery.2.due? = some due) :=
      mem_placesToCarryOn get isDue reachedNow
    generalize (now.placesToCarryOn job place).filter (now.duePlaces job.deliveries).contains =
      places
      at carries ⊢
    have carry : Calm (fun id => id = job.eventId) now
        (carryOnAll setting job.dispatch.event places job.deliveries now).2 :=
      carryOnAll_calm setting (by rfl) _ _ _
    have carriedLives (deliveries : List (WebhookTarget × DeliveryPhase))
        (carried : (carryOnAll setting job.dispatch.event places job.deliveries now).1 =
          some deliveries) :=
      carryOnAll_lives setting job.dispatch.event places planned.lives carried
    generalize carryOnAll setting job.dispatch.event places job.deliveries now = result
      at carry carriedLives ⊢
    rcases result with ⟨carried, carriedState⟩
    have scheduledThen := held.calm (carry.withoutJob job.errand.number)
    cases carried with
    | none => exact scheduledThen.endErrand
    | some deliveries =>
        rcases carriedLives deliveries rfl with ⟨lives, same⟩
        apply settleJob setting { job with deliveries } scheduledThen lives
        intro other delivery whenDue absent get isDue
        dsimp only at get
        rw [same other absent] at get
        apply carry.agenda_subset
        rw [← taken]
        exact planned.listed_of_take agenda carries other delivery whenDue absent get isDue

end Scheduled

end State

end CandleAlerts.Simulation
