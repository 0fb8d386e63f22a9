import CandleAlerts.Simulation.Dispatches

/-!
What deliveries do to a state, whatever they do.

All that a delivery does is to make attempts and to follow what the policy says of them. What these
two keep is kept however far deliveries are carried on.
-/

namespace CandleAlerts.Simulation.State

/-- A relation between states that attempts for some targets keep, and the steps that follow. -/
structure DeliveryFrame (setting : Setting) (event : TriggerEvent) (serves : WebhookTarget → Prop)
    (frame : State → State → Prop) : Prop where
  refl : ∀ state, frame state state
  trans : ∀ {first second third}, frame first second → frame second third → frame first third
  attempt : ∀ {target}, serves target → ∀ state progress,
    frame state (state.attempt setting event target progress).2
  followStep : ∀ {target}, serves target → ∀ state step,
    frame state (state.followStep setting event target step).2

namespace DeliveryFrame

variable {setting : Setting} {event : TriggerEvent} {serves : WebhookTarget → Prop}
  {frame : State → State → Prop}

theorem carryOn (keeps : DeliveryFrame setting event serves frame) {target : WebhookTarget}
    (served : serves target) (moves : Nat) (phase : DeliveryPhase) (state : State) :
    frame state (State.carryOn setting event target moves phase state).2 := by
  induction moves generalizing phase state with
  | zero => exact keeps.refl state
  | succ moves induction =>
      cases phase with
      | pausing due progress =>
          unfold State.carryOn
          dsimp only
          split
          · exact keeps.refl state
          · exact keeps.trans (keeps.attempt served state progress) (induction _ _)
      | answering due progress result =>
          unfold State.carryOn
          dsimp only
          split
          · exact keeps.refl state
          · exact keeps.trans (keeps.followStep served state _) (induction _ _)
      | crashed => exact keeps.refl state
      | ended outcome => exact keeps.refl state

/-- What was served when deliveries were carried on is served still. -/
theorem carryOnAll_of_served (keeps : DeliveryFrame setting event serves frame)
    (places : List Nat) {deliveries : List (WebhookTarget × DeliveryPhase)}
    (served : ∀ delivery ∈ deliveries, serves delivery.1) (state : State) :
    frame state (State.carryOnAll setting event places deliveries state).2 ∧
      ∀ carried, (State.carryOnAll setting event places deliveries state).1 = some carried →
        ∀ delivery ∈ carried, serves delivery.1 := by
  induction places generalizing deliveries state with
  | nil =>
      refine ⟨keeps.refl state, ?_⟩
      intro carried same
      cases same
      exact served
  | cons place rest induction =>
      unfold State.carryOnAll
      split
      · exact induction served state
      · rename_i target phase isPlace
        have isServed : serves target := served _ (List.mem_of_getElem? isPlace)
        have carriedOn : frame state
            (State.carryOn setting event target (deliveryMoves setting) phase state).2 :=
          keeps.carryOn isServed (deliveryMoves setting) phase state
        dsimp only
        split
        · exact ⟨carriedOn, by simp⟩
        · generalize State.carryOn setting event target (deliveryMoves setting) phase state = moved
            at carriedOn ⊢
          have setServed : ∀ delivery ∈ deliveries.set place (target, moved.1),
              serves delivery.1 := by
            intro delivery member
            rcases List.mem_or_eq_of_mem_set member with before | rfl
            · exact served delivery before
            · exact isServed
          rcases induction setServed moved.2 with ⟨others, stillServed⟩
          exact ⟨keeps.trans carriedOn others, stillServed⟩

theorem carryOnAll (keeps : DeliveryFrame setting event (fun _ => True) frame)
    (places : List Nat) (deliveries : List (WebhookTarget × DeliveryPhase)) (state : State) :
    frame state (State.carryOnAll setting event places deliveries state).2 :=
  (keeps.carryOnAll_of_served places (fun _ _ => trivial) state).1

theorem foldl_startNext_of_served (keeps : DeliveryFrame setting event serves frame)
    {targets : List WebhookTarget} (served : ∀ target ∈ targets, serves target)
    (sofar : List (WebhookTarget × DeliveryPhase) × State)
    (begun : ∀ delivery ∈ sofar.1, serves delivery.1) :
    frame sofar.2 (targets.foldl (startNext setting event) sofar).2 ∧
      ∀ delivery ∈ (targets.foldl (startNext setting event) sofar).1, serves delivery.1 := by
  induction targets generalizing sofar with
  | nil => exact ⟨keeps.refl sofar.2, begun⟩
  | cons target rest induction =>
      have isServed := served target List.mem_cons_self
      rcases induction (fun other inRest => served other (List.mem_cons_of_mem _ inRest))
        (startNext setting event sofar target)
        (by
          intro delivery member
          rcases List.mem_append.1 member with before | new
          · exact begun delivery before
          · rw [List.mem_singleton.1 new]
            exact isServed) with ⟨others, allServed⟩
      exact ⟨keeps.trans (keeps.followStep isServed sofar.2 setting.policy.start) others,
        allServed⟩

theorem startDeliveries_of_served {dispatch : Dispatch}
    (keeps : DeliveryFrame setting dispatch.event serves frame)
    (served : ∀ target ∈ dispatch.webhooks, serves target) (state : State) :
    frame state (state.startDeliveries setting dispatch).2 ∧
      ∀ delivery ∈ (state.startDeliveries setting dispatch).1, serves delivery.1 :=
  keeps.foldl_startNext_of_served served ([], state) (by simp)

theorem startDeliveries {dispatch : Dispatch}
    (keeps : DeliveryFrame setting dispatch.event (fun _ => True) frame) (state : State) :
    frame state (state.startDeliveries setting dispatch).2 :=
  (keeps.startDeliveries_of_served (fun _ _ => trivial) state).1

end DeliveryFrame

end CandleAlerts.Simulation.State
