/-!
Runs of steps taken by several parties.

Each step tells what it did. What one step keeps, as long as it does not do certain things, a run
keeps none of whose steps does them.
-/

namespace CandleAlerts

/-- Any number of steps, and what each of them did. -/
inductive StepRun {State : Type u} {Event : Type v} (step : State → Event → State → Prop)
    (start : State) : List Event → State → Prop
  | nil : StepRun step start [] start
  | snoc {events : List Event} {event : Event} {middle final : State} :
      StepRun step start events middle → step middle event final →
      StepRun step start (events ++ [event]) final

namespace StepRun

variable {State : Type u} {Event : Type v} {step : State → Event → State → Prop}
  {start middle final : State} {events more : List Event}

theorem single {event : Event} (taken : step start event final) :
    StepRun step start [event] final :=
  .snoc .nil taken

theorem trans (run : StepRun step start events middle) (rest : StepRun step middle more final) :
    StepRun step start (events ++ more) final := by
  induction rest with
  | nil =>
      rw [List.append_nil]
      exact run
  | snoc rest taken induction =>
      rw [← List.append_assoc]
      exact induction.snoc taken

/-- What each of its steps keeps, a run keeps. -/
theorem keeps (run : StepRun step start events final) (holds : State → Prop)
    (begins : holds start)
    (kept : ∀ event ∈ events, ∀ state next, step state event next → holds state → holds next) :
    holds final := by
  induction run with
  | nil => exact begins
  | snoc rest taken induction =>
      apply kept _ (List.mem_append_right _ List.mem_cons_self) _ _ taken
      exact induction (fun event member => kept event (List.mem_append_left _ member))

/-- A run of some steps is one of any steps that they are among. -/
theorem mono {wider : State → Event → State → Prop} (run : StepRun step start events final)
    (among : ∀ state event next, step state event next → wider state event next) :
    StepRun wider start events final := by
  induction run with
  | nil => exact .nil
  | snoc rest taken induction => exact induction.snoc (among _ _ _ taken)

end StepRun

/-- What is left when one of several things has been done was there before. -/
theorem mem_of_mem_rest {α : Type u} {all before after : List α} {done rest : α}
    (split : all = before ++ done :: after) (member : rest ∈ before ++ after) : rest ∈ all := by
  rw [split]
  rcases List.mem_append.1 member with earlier | later
  · exact List.mem_append_left _ earlier
  · exact List.mem_append_right _ (List.mem_cons_of_mem _ later)

end CandleAlerts
