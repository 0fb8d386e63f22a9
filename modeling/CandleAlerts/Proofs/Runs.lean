import CandleAlerts.Api.Operations
import CandleAlerts.Proofs.SimulationFrames
import Mathlib.Logic.Relation

/-!
Runs of a simulation.

A run is made up of ticks, of tasks that come up on the agenda in whatever order, of alerts that are
activated, edited and deactivated in between, and of anything that leaves alerts, findings and
errands alone: markets that answer something else, routers, subscriptions, time that passes.
Whatever the scheduler and the API do is such a run.
-/

namespace CandleAlerts.Simulation.State

/-- What can happen to a simulation next. -/
inductive Happens (setting : Setting) : State → State → Prop
  | performed {state : State} {before after : List (Nat × Task)} {due : Nat} {task : Task}
      (agenda : state.agenda = before ++ (due, task) :: after) :
      Happens setting state
        ({ state with agenda := before ++ after, time := max state.time due }.perform setting task)
  | ticked (state : State) (now : Instant) : Happens setting state (state.beginTick setting now)
  | activated (state : State) (alert : Alert) :
      Happens setting state
        { state with services := { state.services with
            registry := (state.services.registry.activate alert none).2 } }
  | deactivated (state : State) (id : String) :
      Happens setting state
        { state with services := { state.services with
            registry := (state.services.registry.deactivate id).2 } }
  | elsewhere {state after : State} (calm : Calm (fun _ => False) state after) :
      Happens setting state after

/-- Whether a run leads from one state to another. -/
abbrev Reaches (setting : Setting) : State → State → Prop := Relation.ReflTransGen (Happens setting)


namespace Reaches

variable {setting : Setting}

theorem of_calm {state after : State} (calm : Calm (fun _ => False) state after) :
    Reaches setting state after := .single (.elsewhere calm)

theorem of_reports (state : State) (tickReports : List TickReport) :
    Reaches setting state { state with tickReports } :=
  of_calm (.of_same (.refl _) rfl rfl rfl rfl rfl (Nat.le_refl _) rfl rfl
    (fun _ evaluates => evaluates))

/-! ## The scheduler -/

theorem step? {until? : Option Nat} {state next : State}
    (steps : state.step? setting until? = some next) : Reaches setting state next := by
  rcases step?_cases steps with ⟨due, task, rest, agenda, rfl⟩
  rw [← List.nil_append ((due, task) :: rest)] at agenda
  have happens : Happens setting state _ := .performed agenda
  exact (Relation.ReflTransGen.single happens).trans (of_calm (runRouter_calm _))

theorem runUntil (until? : Option Nat) (happened : State → Bool) (steps : Nat) (state : State) :
    Reaches setting state (State.runUntil setting until? happened steps state) :=
  runUntil_joins (fun _ => .refl) .trans step? happened steps state

theorem advance (steps duration : Nat) (state : State) :
    Reaches setting state (state.advance setting steps duration) :=
  (runUntil _ _ steps state).trans (of_calm
    (.of_same (.refl _) rfl rfl rfl rfl rfl (Nat.le_refl _) rfl rfl (fun _ evaluates => evaluates)))

theorem tickOnce (steps : Nat) (now : Instant) (state : State) :
    Reaches setting state (state.tickOnce setting steps now).2 :=
  ((of_reports state []).tail (.ticked _ now)).trans
    ((runUntil _ _ steps _).trans (of_reports _ []))

theorem runScheduler (steps duration : Nat) (state : State) :
    Reaches setting state (state.runScheduler setting steps duration) :=
  (of_calm (startScheduler_calm setting state duration)).trans
    ((runUntil _ _ steps _).trans (of_reports _ []))

/-! ## The API -/

theorem of_services {state : State} {services : Services}
    (undisturbed : Services.Undisturbed (fun _ => False) state.services services) :
    Reaches setting state { state with services } := of_calm (.of_services state undisturbed)

theorem activate (settings : Api.Settings) (definition : Json) (state : State) :
    Reaches setting state
      { state with services := (Api.activate settings state.services definition).2 } := by
  unfold Api.activate
  split
  · exact .refl
  · rename_i alert _
    have stored : Services.Undisturbed (fun _ => False) state.services
        (state.services.changeStore .saveAlert
          (fun store => store.saveAlert { id := alert.id, definition })).2 :=
            .changeStore _ _ _ rfl rfl
    dsimp only
    generalize state.services.changeStore .saveAlert _ = result at stored ⊢
    rcases result with ⟨saved, services⟩
    cases saved with
    | false => exact of_services stored
    | true =>
        rw [if_pos rfl]
        dsimp only
        have activated : Reaches setting state
            { state with services := { services with
                registry := (services.registry.activate alert none).2 } } :=
          (of_services stored).tail (.activated _ alert)
        split
        · exact activated
        · exact activated.trans (of_services
            (.of_same_store rfl rfl rfl rfl rfl rfl rfl))

theorem deactivate (alertId : String) (state : State) :
    Reaches setting state { state with services := (Api.deactivate state.services alertId).2 } := by
  have triggers : (state.services.store.deactivateAlert alertId).2.triggers =
      state.services.store.triggers := by
    simp only [Store.deactivateAlert]
    split <;> rfl
  have deliveries : (state.services.store.deactivateAlert alertId).2.deliveries =
      state.services.store.deliveries := by
    simp only [Store.deactivateAlert]
    split <;> rfl
  have stored : Services.Undisturbed (fun _ => False) state.services
      (state.services.changeStore .deactivateAlert
        (fun store => (store.deactivateAlert alertId).2)).2 :=
          .changeStore _ _ _ triggers deliveries
  simp only [Api.deactivate]
  generalize state.services.changeStore .deactivateAlert _ = result at stored ⊢
  rcases result with ⟨saved, services⟩
  cases saved with
  | false => exact of_services stored
  | true => exact (of_services stored).tail (.deactivated _ alertId)

theorem subscribe (settings : Api.Settings) (subscriberId conditionId : String)
    (recipient : Recipient)
    (state : State) :
    Reaches setting state { state with services :=
      (Api.subscribe settings state.services subscriberId conditionId recipient).2 } := by
  apply of_services
  unfold Api.subscribe
  split
  · exact .refl _
  · dsimp only
    simp only [Services.changeStore]
    split
    · exact .of_same_store rfl rfl rfl rfl rfl rfl rfl
    · exact .refl _

theorem unsubscribe (subscriberId conditionId : String) (state : State) :
    Reaches setting state { state with services :=
      (Api.unsubscribe state.services subscriberId conditionId).2 } := by
  apply of_services
  have stored : Services.Undisturbed (fun _ => False) state.services
      (state.services.changeStore .deactivateSubscription
        (fun store => (store.deactivateSubscription subscriberId conditionId).2)).2 :=
    .changeStore _ _ _ rfl rfl
  simp only [Api.unsubscribe]
  generalize state.services.changeStore .deactivateSubscription _ = result at stored ⊢
  rcases result with ⟨saved, services⟩
  cases saved with
  | false => exact stored
  | true => exact stored.trans (.of_same_store rfl rfl rfl rfl rfl rfl rfl)

end Reaches

end CandleAlerts.Simulation.State
