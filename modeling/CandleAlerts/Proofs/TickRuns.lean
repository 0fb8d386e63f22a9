import CandleAlerts.Proofs.StepRuns
import CandleAlerts.Proofs.TickStates

/-!
How a tick runs.

Everything that is due while a tick is under way either takes the tick further or leaves it as it
is, and in each case something less is left to be done. So the tick ends.
-/

namespace CandleAlerts.Simulation

namespace Ticking

variable {basis : TickBasis} {book : TickBook} {left : Nat} {done : List Task} {tick : Tick}
  {state : State} {place : Nat} {group : Group}

/-! ## Tasks of groups -/

/-- A group in hand that has a permit asks the market. -/
theorem beginFetch
    (ticking : Ticking basis book { place? := some place, permits := 1 } left done tick state)
    (found : tick.groups[place]? = some (group, .waiting))
    (records : book.Records basis place group .waiting) :
    Continues basis (left + 1) done (state.beginFetch basis.setting basis.number place) := by
  simp only [State.beginFetch]
  rw [ticking.onTick, found]
  dsimp only
  let fetch : Fetch := ⟨state.time, group.key, basis.setting.scheduler.candleLimit⟩
  have key : fetch.key = group.key := rfl
  rcases ticking.hear found records key with ⟨heard, recorded⟩
  generalize State.marketReply _ group.key = answer at heard recorded ⊢
  rcases answer with ⟨reply, asked⟩
  dsimp only at heard recorded ⊢
  split
  · rcases heard.receiveFetch found recorded with ended | ⟨book, tick, less, within, goesOn⟩
    · exact .inl ended
    · exact .inr ⟨book, tick, less, Nat.le_succ_of_le within, goesOn⟩
  · have now := Tick.groups_inPhase_self found (.fetching (basis.learned reply))
    exact .inr ⟨_, _, _, Nat.le_refl _, ⟨place, group, _, now, nofun⟩,
      heard.fetch found recorded _⟩

/-- A group in hand is evaluated if there is a permit, and otherwise waits in the queue. -/
theorem admitGroup (ticking : Ticking basis book { place? := some place } left done tick state)
    (found : tick.groups[place]? = some (group, .waiting))
    (records : book.Records basis place group .waiting) :
    (∃ next, next.GoesOn ∧ Ticking basis book {} (left + 2) done next
        (state.admitGroup basis.setting basis.number place) ∧
      state.admitGroup basis.setting basis.number place = { state with tick := some next }) ∨
    Continues basis (left + 1) done (state.admitGroup basis.setting basis.number place) := by
  simp only [State.admitGroup]
  rw [ticking.onTick]
  split
  · rename_i noPermit
    exact .inl ⟨{ tick with queue := tick.queue ++ [place] }, ⟨place, group, _, found, nofun⟩,
      ticking.enqueue found records noPermit, rfl⟩
  · rename_i permit
    exact .inr ((ticking.takePermit permit).beginFetch found records)

/-- A group in hand whose answer has come goes on. -/
theorem finishFetch {result : FetchResult}
    (ticking : Ticking basis book { place? := some place, permits := 1 } left done tick state)
    (found : tick.groups[place]? = some (group, .fetching result))
    (records : book.Records basis place group (.fetching result)) :
    Continues basis left done (state.finishFetch basis.setting basis.number place) := by
  simp only [State.finishFetch]
  rw [ticking.onTick, found]
  exact ticking.receiveFetch found records

/-- A group that waits for its dispatches comes in hand. -/
theorem bring (ticking : Ticking basis book {} left done tick state) {ahead count : Nat}
    (found : tick.groups[place]? = some (group, .dispatching ahead count)) :
    Ticking basis book { place? := some place } left done tick state ∧
      book.Records basis place group (.dispatching ahead count) := by
  refine ⟨?_, ticking.records found⟩
  refine { ticking with
    phases := fun _ _ _ _ isOther => ticking.records isOther
    staged := ticking.staged.bring ?_ ?_ }
  · intro another isWaiting
    rw [found] at isWaiting
    cases isWaiting
  · intro another result isFetching
    rw [found] at isFetching
    cases isFetching

/-- What does not concern a group leaves all as it is. -/
theorem stays (ticking : Ticking basis book {} left done tick state) (goesOn : tick.GoesOn) :
    Settles basis left done state state :=
  .inr ⟨book, tick, state.services, by rw [← ticking.isTick], goesOn, ticking⟩

/-- A group is told that one of its dispatches has ended. -/
theorem noteErrandDone (ticking : Ticking basis book {} left done tick state)
    (goesOn : tick.GoesOn) (place : Nat) :
    Settles basis left done state (state.noteErrandDone basis.number place) := by
  simp only [State.noteErrandDone]
  rw [ticking.onTick]
  split
  · rename_i group ahead count found
    rcases ticking.bring found with ⟨inHand, records⟩
    split
    · exact inHand.completeGroup found records
    · have limited := (ticking.staged.stands place).limited group ahead count found
      have fewer : book.Records basis place group (.dispatching (ahead - 1) count) := records
      rcases inHand.putDown found fewer limited with ⟨waits, goesOn⟩
      exact .inr ⟨book, _, state.services, rfl, goesOn, waits⟩
  · exact ticking.stays goesOn

end Ticking

/-! ## What is left to be done -/

/-- How much is left to be done: calls and answers of groups, errands that are to begin, moves of
dispatches under way, and tasks. -/
def State.workLeft (setting : Setting) (left : Nat) (state : State) : Nat × Nat × Nat × Nat :=
  (left, state.pending.length, State.jobsLeft setting state.jobs, state.agenda.length)

/-- Whether there is less work, where what comes first counts first. -/
def LessWork : Nat × Nat × Nat × Nat → Nat × Nat × Nat × Nat → Prop :=
  Prod.Lex (· < ·) (Prod.Lex (· < ·) (Prod.Lex (· < ·) (· < ·)))

/-- Whether a tick has ended, or goes on with less left to be done. -/
def Proceeds (basis : TickBasis) (left : Nat) (done : List Task) (before after : State) : Prop :=
  (∃ heard, TickEnded basis heard done after) ∨
    ∃ book tick fewer, tick.GoesOn ∧ Ticking basis book {} fewer done tick after ∧
      LessWork (after.workLeft basis.setting fewer) (before.workLeft basis.setting left)

section Steps

variable {basis : TickBasis} {book : TickBook} {left bound : Nat} {done : List Task} {tick : Tick}
  {state before after : State} {due time : Nat} {task : Task} {rest : List (Nat × Task)}

theorem Continues.proceeds (continues : Continues basis bound done after) (less : bound < left) :
    Proceeds basis left done before after := by
  rcases continues with ended | ⟨book, tick, fewer, within, goesOn, ticking⟩
  · exact .inl ended
  · exact .inr ⟨book, tick, fewer, goesOn, ticking, .left _ _ (Nat.lt_of_le_of_lt within less)⟩

theorem Ticking.proceeds (ticking : Ticking basis book {} left done tick after)
    (goesOn : tick.GoesOn)
    (less : after.pending.length < before.pending.length ∨
      after.pending.length ≤ before.pending.length ∧
        (State.jobsLeft basis.setting after.jobs < State.jobsLeft basis.setting before.jobs ∨
          State.jobsLeft basis.setting after.jobs ≤ State.jobsLeft basis.setting before.jobs ∧
            after.agenda.length < before.agenda.length)) :
    Proceeds basis left done before after := by
  refine .inr ⟨book, tick, left, goesOn, ticking, ?_⟩
  simp only [LessWork, State.workLeft, Prod.lex_def, true_and]
  omega

/-- When a task is taken its errand, if it has one, is not pending any more. -/
theorem State.length_pending_take (agenda : state.agenda = (due, task) :: rest) (time : Nat) :
    state.pending.length =
      task.errand?.toList.length + { state with agenda := rest, time }.pending.length := by
  rw [← List.length_append]
  have taken : state.agenda = [] ++ (due, task) :: rest := agenda
  exact (State.pending_take taken).length_eq

/-- A task that changes the tick at most is one less. -/
theorem Settles.proceeds
    (settles : Settles basis left done { state with agenda := rest, time } after)
    (agenda : state.agenda = (due, task) :: rest) : Proceeds basis left done state after := by
  rcases settles with ended | ⟨book, tick, services, same, goesOn, ticking⟩
  · exact .inl ended
  · have pending := state.length_pending_take agenda time
    subst same
    refine ticking.proceeds goesOn (.inr ⟨?_, .inr ⟨Nat.le_refl _, ?_⟩⟩)
    · rw [pending]
      exact Nat.le_add_left _ _
    · rw [agenda]
      exact Nat.lt_succ_self _

namespace Ticking

/-- A task that is of no concern to the stages is taken from the agenda. -/
theorem takeOther (ticking : Ticking basis book {} left done tick state)
    (agenda : state.agenda = (due, task) :: rest) (unstaged : task.Unstaged basis.number)
    (spares : ∀ place, task = .groupBudgetSpent basis.number place → ∀ group ahead count,
      tick.groups[place]? ≠ some (group, .dispatching ahead count)) (time : Nat) :
    Ticking basis book {} left (done ++ [task]) tick { state with agenda := rest, time } := by
  have staged := ticking.staged
  rw [agenda] at staged
  exact ticking.take agenda (staged.take_unstaged unstaged
    (fun place group ahead count _ found same => spares place same group ahead count found)) time

/-! ## Steps -/

theorem perform_groupReady (ticking : Ticking basis book {} left done tick state)
    (goesOn : tick.GoesOn) {number place : Nat}
    (agenda : state.agenda = (due, .groupReady number place) :: rest) :
    Proceeds basis left (done ++ [.groupReady number place]) state
      (State.admitGroup basis.setting { state with agenda := rest, time } number place) := by
  by_cases own : number = basis.number
  · subst own
    have staged := ticking.staged
    rw [agenda] at staged
    rcases staged.take_called (if_pos rfl) with ⟨⟨group, found⟩, fewer, less, taken⟩
    have records := ticking.records found
    rcases (ticking.take agenda taken time).admitGroup found records with
      ⟨next, goesOn, waits, same⟩ | continues
    · have pending := state.length_pending_take agenda time
      rw [less] at waits
      refine waits.proceeds goesOn (.inr ⟨?_, .inr ⟨?_, ?_⟩⟩)
      · rw [same, pending]
        exact Nat.le_add_left _ _
      · rw [same]
      · rw [same, agenda]
        exact Nat.lt_succ_self _
    · exact continues.proceeds (by omega)
  · have taken := ticking.takeOther agenda ⟨if_neg own, rfl, rfl⟩ (fun _ same => Task.noConfusion same) time
    rw [State.admitGroup, taken.onTick_of_ne own]
    exact (taken.stays goesOn).proceeds agenda

theorem perform_groupAdmitted (ticking : Ticking basis book {} left done tick state)
    (goesOn : tick.GoesOn) {number place : Nat}
    (agenda : state.agenda = (due, .groupAdmitted number place) :: rest) :
    Proceeds basis left (done ++ [.groupAdmitted number place]) state
      (State.beginFetch basis.setting { state with agenda := rest, time } number place) := by
  by_cases own : number = basis.number
  · subst own
    have staged := ticking.staged
    rw [agenda] at staged
    rcases staged.take_called (if_pos rfl) with ⟨⟨group, found⟩, fewer, less, taken⟩
    have records := ticking.records found
    simp only [Task.holdsPermit, beq_self_eq_true, Bool.toNat_true] at taken
    exact ((ticking.take agenda taken time).beginFetch found records).proceeds (by omega)
  · have noPermit : (Task.groupAdmitted number place).holdsPermit basis.number = false :=
      beq_eq_false_iff_ne.2 own
    have taken := ticking.takeOther agenda ⟨if_neg own, rfl, noPermit⟩ (fun _ same => Task.noConfusion same) time
    rw [State.beginFetch, taken.onTick_of_ne own]
    exact (taken.stays goesOn).proceeds agenda

theorem perform_groupFetched (ticking : Ticking basis book {} left done tick state)
    (goesOn : tick.GoesOn) {number place : Nat}
    (agenda : state.agenda = (due, .groupFetched number place) :: rest) :
    Proceeds basis left (done ++ [.groupFetched number place]) state
      (State.finishFetch basis.setting { state with agenda := rest, time } number place) := by
  by_cases own : number = basis.number
  · subst own
    have staged := ticking.staged
    rw [agenda] at staged
    rcases staged.take_answered (if_pos rfl) with ⟨⟨group, result, found⟩, fewer, less, taken⟩
    have records := ticking.records found
    simp only [Task.holdsPermit, beq_self_eq_true, Bool.toNat_true] at taken
    exact ((ticking.take agenda taken time).finishFetch found records).proceeds (by omega)
  · have noPermit : (Task.groupFetched number place).holdsPermit basis.number = false :=
      beq_eq_false_iff_ne.2 own
    have taken := ticking.takeOther agenda ⟨rfl, if_neg own, noPermit⟩ (fun _ same => Task.noConfusion same) time
    rw [State.finishFetch, taken.onTick_of_ne own]
    exact (taken.stays goesOn).proceeds agenda

theorem perform_groupErrandDone (ticking : Ticking basis book {} left done tick state)
    (goesOn : tick.GoesOn) {number place : Nat}
    (agenda : state.agenda = (due, .groupErrandDone number place) :: rest) :
    Proceeds basis left (done ++ [.groupErrandDone number place]) state
      (State.noteErrandDone { state with agenda := rest, time } number place) := by
  have taken := ticking.takeOther agenda ⟨rfl, rfl, rfl⟩ (fun _ same => Task.noConfusion same) time
  by_cases own : number = basis.number
  · subst own
    exact (taken.noteErrandDone goesOn place).proceeds agenda
  · rw [State.noteErrandDone, taken.onTick_of_ne own]
    exact (taken.stays goesOn).proceeds agenda

theorem perform_groupBudgetSpent (ticking : Ticking basis book {} left done tick state)
    (goesOn : tick.GoesOn) {number place : Nat}
    (agenda : state.agenda = (due, .groupBudgetSpent number place) :: rest) :
    Proceeds basis left (done ++ [.groupBudgetSpent number place]) state
      (State.spendBudget basis.setting { state with agenda := rest, time } number place) := by
  by_cases waits : number = basis.number ∧
      ∃ group ahead count, tick.groups[place]? = some (group, .dispatching ahead count)
  · rcases waits with ⟨rfl, group, ahead, count, found⟩
    rcases ticking.bring found with ⟨inHand, records⟩
    have staged := inHand.staged
    rw [agenda] at staged
    have taken := ticking.take agenda (staged.take_unstaged ⟨rfl, rfl, rfl⟩ (by
      rintro other another ahead count notInHand - same
      cases same
      exact notInHand rfl)) time
    simp only [State.spendBudget]
    rw [taken.onTick, found]
    exact (taken.detachGroup found records).proceeds agenda
  · have taken := ticking.takeOther agenda ⟨rfl, rfl, rfl⟩ (by
      intro other same group ahead count found
      cases same
      exact waits ⟨rfl, group, ahead, count, found⟩) time
    have nothing : State.spendBudget basis.setting { state with agenda := rest, time } number place =
        { state with agenda := rest, time } := by
      simp only [State.spendBudget]
      by_cases own : number = basis.number
      · subst own
        rw [taken.onTick]
        split
        · rename_i group ahead count found
          exact absurd ⟨rfl, group, ahead, count, found⟩ waits
        · rfl
      · exact taken.onTick_of_ne own _
    rw [nothing]
    exact (taken.stays goesOn).proceeds agenda

/-- An errand that begins is not pending any more. -/
theorem beginErrand_proceeds (ticking : Ticking basis book {} left done tick before)
    (goesOn : tick.GoesOn) {errand : Errand}
    (known : errand.Known (fun tick => tick ≤ basis.number))
    (pending : before.pending.length < state.pending.length) :
    Proceeds basis left done state (before.beginErrand basis.setting errand) := by
  have aside := State.beginErrand_aside basis.setting before known
  refine (ticking.aside aside).proceeds goesOn (.inl ?_)
  rw [aside.pending.length_eq]
  exact pending

theorem perform_errandReady (ticking : Ticking basis book {} left done tick state)
    (goesOn : tick.GoesOn) {errand : Errand}
    (agenda : state.agenda = (due, .errandReady errand) :: rest) :
    Proceeds basis left (done ++ [.errandReady errand]) state
      (State.admitErrand basis.setting { state with agenda := rest, time } errand) := by
  have known : errand.Known (fun tick => tick ≤ basis.number) :=
    ticking.knows.agenda (due, .errandReady errand) (by
      rw [agenda]
      exact List.mem_cons_self)
  have taken := ticking.takeOther agenda ⟨rfl, rfl, rfl⟩ (fun _ same => Task.noConfusion same) time
  have pending := state.length_pending_take agenda time
  simp only [State.admitErrand]
  split
  · have waits : Ticking basis book {} left (done ++ [.errandReady errand]) tick
        { state with agenda := rest, time, waiting := state.waiting ++ [errand] } := by
      refine { taken with knows := ⟨taken.knows.agenda, ?_, taken.knows.jobs⟩ }
      intro other among
      rcases List.mem_append.1 among with earlier | last
      · exact taken.knows.waiting other earlier
      · rw [List.mem_singleton.1 last]
        exact known
    refine waits.proceeds goesOn (.inr ⟨?_, .inr ⟨Nat.le_refl _, ?_⟩⟩)
    · rw [pending]
      simp only [State.pending, Task.errand?, List.length_append, Option.toList_some,
        List.length_singleton]
      omega
    · rw [agenda]
      exact Nat.lt_succ_self _
  · have freed : Ticking basis book {} left (done ++ [.errandReady errand]) tick
        { state with agenda := rest, time, slots := state.slots - 1 } :=
      taken.aside (.of_same rfl rfl rfl rfl rfl rfl rfl rfl rfl rfl rfl)
    refine freed.beginErrand_proceeds goesOn known ?_
    rw [pending]
    exact Nat.lt_add_of_pos_left Nat.one_pos

theorem perform_errandAdmitted (ticking : Ticking basis book {} left done tick state)
    (goesOn : tick.GoesOn) {errand : Errand}
    (agenda : state.agenda = (due, .errandAdmitted errand) :: rest) :
    Proceeds basis left (done ++ [.errandAdmitted errand]) state
      (State.beginErrand basis.setting { state with agenda := rest, time } errand) := by
  have known : errand.Known (fun tick => tick ≤ basis.number) :=
    ticking.knows.agenda (due, .errandAdmitted errand) (by
      rw [agenda]
      exact List.mem_cons_self)
  have taken := ticking.takeOther agenda ⟨rfl, rfl, rfl⟩ (fun _ same => Task.noConfusion same) time
  refine taken.beginErrand_proceeds goesOn known ?_
  rw [state.length_pending_take agenda time]
  exact Nat.lt_add_of_pos_left Nat.one_pos

theorem perform_deliveryDue (ticking : Ticking basis book {} left done tick state)
    (goesOn : tick.GoesOn) {number place : Nat}
    (agenda : state.agenda = (due, .deliveryDue number place) :: rest) :
    Proceeds basis left (done ++ [.deliveryDue number place]) state
      (State.carryOnJob basis.setting { state with agenda := rest, time } number place) := by
  have taken := ticking.takeOther agenda ⟨rfl, rfl, rfl⟩ (fun _ same => Task.noConfusion same) time
  have aside := State.carryOnJob_aside basis.setting taken.knows number place
  have moves := State.carryOnJob_jobsLeft basis.setting { state with agenda := rest, time } number
    place
  have pending := state.length_pending_take agenda time
  refine (taken.aside aside).proceeds goesOn (.inr ⟨?_, ?_⟩)
  · rw [aside.pending.length_eq, pending]
    exact Nat.le_add_left _ _
  · rcases moves with fewer | ⟨noMore, same⟩
    · exact .inl fewer
    · refine .inr ⟨noMore, ?_⟩
      rw [same, agenda]
      exact Nat.lt_succ_self _

theorem perform_tickDue (ticking : Ticking basis book {} left done tick state)
    (goesOn : tick.GoesOn) (agenda : state.agenda = (due, .tickDue) :: rest) :
    Proceeds basis left (done ++ [.tickDue]) state
      (State.beginDueTick basis.setting { state with agenda := rest, time }) := by
  have taken := ticking.takeOther agenda ⟨rfl, rfl, rfl⟩ (fun _ same => Task.noConfusion same) time
  have nothing : State.beginDueTick basis.setting { state with agenda := rest, time } =
      { state with agenda := rest, time } := by
    simp only [State.beginDueTick]
    rw [ticking.isTick]
    cases state.schedule <;> rfl
  rw [nothing]
  exact (taken.stays goesOn).proceeds agenda

/-- Whatever is due takes the tick further. -/
theorem perform (ticking : Ticking basis book {} left done tick state) (goesOn : tick.GoesOn)
    (agenda : state.agenda = (due, task) :: rest) :
    Proceeds basis left (done ++ [task]) state
      (State.perform basis.setting { state with agenda := rest, time } task) := by
  cases task with
  | groupReady => exact ticking.perform_groupReady goesOn agenda
  | groupAdmitted => exact ticking.perform_groupAdmitted goesOn agenda
  | groupFetched => exact ticking.perform_groupFetched goesOn agenda
  | groupErrandDone => exact ticking.perform_groupErrandDone goesOn agenda
  | groupBudgetSpent => exact ticking.perform_groupBudgetSpent goesOn agenda
  | errandReady => exact ticking.perform_errandReady goesOn agenda
  | errandAdmitted => exact ticking.perform_errandAdmitted goesOn agenda
  | deliveryDue => exact ticking.perform_deliveryDue goesOn agenda
  | tickDue => exact ticking.perform_tickDue goesOn agenda
  | schedulerStops =>
      have known := ticking.knows.agenda (due, .schedulerStops) (by
        rw [agenda]
        exact List.mem_cons_self)
      cases known

end Ticking

end Steps

/-! ## Runs -/

/-- Whether a task is the one that is due, and what doing it comes to. -/
def State.Performs (setting : Setting) (state : State) (task : Task) (next : State) : Prop :=
  ∃ due rest, state.agenda = (due, task) :: rest ∧
    next = (State.perform setting { state with agenda := rest, time := max state.time due }
      task).runRouter

theorem State.Performs.step? {setting : Setting} {state next : State} {task : Task}
    (performs : state.Performs setting task next) : state.step? setting none = some next := by
  rcases performs with ⟨due, rest, agenda, rfl⟩
  simp only [State.step?]
  rw [agenda]
  rfl

section Runs

variable {basis : TickBasis} {book : TickBook} {left : Nat} {done : List Task} {tick : Tick}
  {state before after : State}

/-- The router changes nothing but the services. -/
theorem Proceeds.runRouter (proceeds : Proceeds basis left done before after) :
    Proceeds basis left done before after.runRouter := by
  have aside : State.Aside (fun tick => tick ≤ basis.number) after after.runRouter :=
    after.runRouter_aside
  rcases proceeds with ⟨heard, ended⟩ | ⟨book, tick, fewer, goesOn, ticking, less⟩
  · exact .inl ⟨heard, ended.aside aside⟩
  · refine .inr ⟨book, tick, fewer, goesOn, ticking.aside aside, ?_⟩
    rcases after.runRouter_eq with ⟨router, services, same, -⟩
    rw [same]
    exact less

/-- While a tick is under way something is on the agenda, and whatever is due takes it further. -/
theorem Ticking.step (ticking : Ticking basis book {} left done tick state)
    (goesOn : tick.GoesOn) :
    ∃ task next, state.Performs basis.setting task next ∧
      Proceeds basis left (done ++ [task]) state next := by
  have occupied : state.agenda ≠ [] := by
    intro nothing
    have staged := ticking.staged
    rw [nothing] at staged
    rcases goesOn with ⟨place, group, phase, found, notEnded⟩
    exact notEnded (staged.ended_of_nil found)
  rcases List.exists_cons_of_ne_nil occupied with ⟨⟨due, task⟩, rest, agenda⟩
  exact ⟨task, _, ⟨due, rest, agenda, rfl⟩, (ticking.perform goesOn agenda).runRouter⟩

/-- Whether the tick that was under way has been reported. -/
def State.isTicked (state : State) : Bool := !state.tickReports.isEmpty

theorem TickEnded.isTicked {heard : List Hearing} (ended : TickEnded basis heard done state) :
    state.isTicked = true := by
  rcases ended.report with ⟨report, reports, -⟩
  rw [State.isTicked, reports]
  rfl

theorem Ticking.isTicked {hand : TickHand} (ticking : Ticking basis book hand left done tick state) :
    state.isTicked = false := by
  rw [State.isTicked, ticking.noReport]
  rfl

/-- A tick under way ends, and then nothing more is done. -/
theorem Ticking.ends {book : TickBook} {left : Nat} {done : List Task} {tick : Tick} {state : State}
    (ticking : Ticking basis book {} left done tick state) (goesOn : tick.GoesOn) :
    ∃ heard more final needed, StepRun (State.Performs basis.setting) state more final ∧
      TickEnded basis heard (done ++ more) final ∧
      ∀ steps, needed ≤ steps →
        State.runUntil basis.setting none State.isTicked steps state = final := by
  rcases ticking.step goesOn with ⟨task, next, performs, proceeds⟩
  rcases proceeds with ⟨heard, ended⟩ | ⟨book, tick, fewer, goesOn, goes, less⟩
  · refine ⟨heard, [task], next, 1, .single performs, ended, ?_⟩
    intro steps enough
    rcases Nat.exists_eq_add_of_le' enough with ⟨fewer, rfl⟩
    rw [State.runUntil_of_step ticking.isTicked performs.step?,
      State.runUntil_of_happened ended.isTicked]
  · rcases goes.ends goesOn with ⟨heard, more, final, needed, run, ended, reaches⟩
    rw [List.append_assoc] at ended
    refine ⟨heard, task :: more, final, needed + 1, (StepRun.single performs).trans run, ended, ?_⟩
    intro steps enough
    rcases Nat.exists_eq_add_of_le' enough with ⟨fewer, rfl⟩
    rw [← Nat.add_assoc, State.runUntil_of_step ticking.isTicked performs.step?]
    exact reaches _ (Nat.le_add_left _ _)
termination_by state.workLeft basis.setting left
decreasing_by exact less

end Runs

/-! ## The beginning -/

theorem Task.Known.unstaged {task : Task} {number : Nat}
    (known : task.Known (fun tick => tick < number)) : task.Unstaged number := by
  cases task with
  | groupReady tick place => exact ⟨if_neg (Nat.ne_of_lt known), rfl, rfl⟩
  | groupAdmitted tick place =>
      exact ⟨if_neg (Nat.ne_of_lt known), rfl, beq_eq_false_iff_ne.2 (Nat.ne_of_lt known)⟩
  | groupFetched tick place =>
      exact ⟨rfl, if_neg (Nat.ne_of_lt known), beq_eq_false_iff_ne.2 (Nat.ne_of_lt known)⟩
  | _ => exact ⟨rfl, rfl, rfl⟩

theorem Task.Known.handed? {task : Task} {number : Nat}
    (known : task.Known (fun tick => tick < number)) : task.handed? number = none := by
  cases task with
  | errandReady errand =>
      apply if_neg
      intro own
      rcases Option.map_eq_some_iff.1 own with ⟨⟨tick, place⟩, group, same⟩
      exact Nat.ne_of_lt (known tick place group) same
  | _ => rfl

namespace TickBasis

variable (basis : TickBasis)

/-- The tasks that call so many groups. -/
def calls (count : Nat) : List (Nat × Task) :=
  (List.range count).map (fun place => (basis.start.time, .groupReady basis.number place))

/-- A tick that some groups have entered. -/
structure Entered (entered : List Group) (tick : Tick) (state : State) : Prop where
  number : tick.number = basis.number
  now : tick.now = basis.now
  permits : tick.permits = basis.setting.scheduler.maxConcurrentGroups
  queue : tick.queue = []
  groups : tick.groups.toList =
    (entered.filter basis.scans).map (fun group => (group, .waiting))
  report : tick.report = { groups := (entered.filter basis.scans).length, skippedAlerts :=
    ((entered.filter (fun group => !basis.scans group)).map
      (fun group => group.members.length)).sum }
  changed : ∃ services agenda unscanned, state = { basis.start with
    services, agenda, unscanned, numbers := basis.number + 1, tickReports := [] }
  registry : state.services.registry = basis.origin
  agenda : state.agenda.Perm
    (basis.calls (entered.filter basis.scans).length ++ basis.start.agenda)

variable {basis}

theorem calls_succ (count : Nat) : basis.calls (count + 1) =
    basis.calls count ++ [(basis.start.time, .groupReady basis.number count)] := by
  simp [calls, List.range_succ]

theorem Entered.enterGroup {entered : List Group} {tick : Tick} {state : State}
    (soFar : basis.Entered entered tick state) (group : Group) :
    basis.Entered (entered ++ [group]) (State.enterGroup basis.setting (tick, state) group).1
      (State.enterGroup basis.setting (tick, state) group).2 := by
  rcases soFar with ⟨number, now, permits, queue, groups, report,
    ⟨services, agenda, unscanned, rfl⟩, registry, planned⟩
  simp only [State.enterGroup]
  split
  · rename_i isScanned
    have scans : basis.scans group = true := isScanned
    have size : tick.groups.size = (entered.filter basis.scans).length := by
      rw [← Array.length_toList, groups, List.length_map]
    refine ⟨number, now, permits, queue, ?_, ?_, ⟨services, _, unscanned, rfl⟩, registry, ?_⟩
    · rw [Array.toList_push, groups]
      simp [List.filter_append, scans]
    · rw [report]
      simp [List.filter_append, scans]
    · have called : (entered ++ [group]).filter basis.scans =
          entered.filter basis.scans ++ [group] := by
        simp [List.filter_append, scans]
      rw [called, List.length_append, List.length_singleton, calls_succ, number, size]
      refine (State.plan_agenda _ _ _).trans ?_
      refine (planned.cons _).trans ?_
      rw [List.append_assoc]
      exact List.perm_middle.symm
  · rename_i notScanned
    have skips : basis.scans group = false := Bool.eq_false_iff.2 notScanned
    have same : (entered ++ [group]).filter basis.scans = entered.filter basis.scans := by
      simp [List.filter_append, skips]
    have skipped : { tick.report with
          skippedAlerts := tick.report.skippedAlerts + group.members.length } =
        ({ groups := (entered.filter basis.scans).length, skippedAlerts :=
          (((entered ++ [group]).filter (fun group => !basis.scans group)).map
            (fun group => group.members.length)).sum } : TickReport) := by
      rw [report]
      simp [List.filter_append, skips]
    rw [← same] at groups planned
    rw [← same] at skipped
    split
    · exact ⟨number, now, permits, queue, groups, skipped, ⟨services, agenda, unscanned, rfl⟩,
        registry, planned⟩
    · exact ⟨number, now, permits, queue, groups, skipped, ⟨_, agenda, _, rfl⟩, registry, planned⟩

theorem Entered.foldl {entered : List Group} {tick : Tick} {state : State}
    (begun : basis.Entered entered tick state) (groups : List Group) :
    basis.Entered (entered ++ groups)
      (groups.foldl (State.enterGroup basis.setting) (tick, state)).1
      (groups.foldl (State.enterGroup basis.setting) (tick, state)).2 := by
  induction groups generalizing entered tick state with
  | nil =>
      rw [List.append_nil]
      exact begun
  | cons first rest induction =>
      have later := induction (begun.enterGroup first)
      rw [List.append_assoc] at later
      exact later

section Begun

variable {tick : Tick} {state : State}

theorem Entered.found_iff (entered : basis.Entered basis.origin.groups tick state) {place : Nat}
    {group : Group} {phase : GroupPhase} : tick.groups[place]? = some (group, phase) ↔
      basis.scanned[place]? = some group ∧ phase = .waiting := by
  rw [← Array.getElem?_toList, entered.groups, List.getElem?_map, Option.map_eq_some_iff]
  constructor
  · rintro ⟨other, found, same⟩
    cases same
    exact ⟨found, rfl⟩
  · rintro ⟨found, rfl⟩
    exact ⟨group, found, rfl⟩

/-- Each group that is scanned has been called. -/
theorem Entered.staged (entered : basis.Entered basis.origin.groups tick state) :
    Staged basis state.agenda tick {} (2 * basis.scanned.length) := by
  have isCalled : called basis.number (basis.calls basis.scanned.length) tick.queue =
      List.range basis.scanned.length := by
    rw [entered.queue]
    simp [called, calls, List.filterMap_map, Task.called?]
  have unanswered : answered basis.number (basis.calls basis.scanned.length) = [] := by
    simp [answered, calls, Task.answered?]
  have noPermit : permitsHeld basis.number (basis.calls basis.scanned.length) = 0 := by
    simp [permitsHeld, calls, Task.holdsPermit]
  have standing (place : Nat) : Standing basis (basis.calls basis.scanned.length) tick place := by
    constructor
    · rw [isCalled, List.mem_range]
      simp only [entered.found_iff, and_true]
      refine ⟨fun within => ⟨_, List.getElem?_eq_getElem within⟩, ?_⟩
      rintro ⟨group, found⟩
      exact (List.getElem?_eq_some_iff.1 found).1
    · rw [unanswered]
      refine ⟨fun listed => absurd listed List.not_mem_nil, ?_⟩
      rintro ⟨group, result, found⟩
      cases (entered.found_iff.1 found).2
    · intro group ahead count found
      cases (entered.found_iff.1 found).2
  have staged : Staged basis (basis.calls basis.scanned.length) tick {}
      (2 * basis.scanned.length) := by
    refine ⟨?_, ?_, fun place _ => standing place, ?_, ?_, absurd entered.queue, ?_⟩
    · rw [isCalled]
      exact List.nodup_range
    · rw [unanswered]
      exact List.nodup_nil
    · intro place isInHand
      cases isInHand
    · rw [noPermit]
      exact entered.permits
    · rw [isCalled, unanswered, List.length_range]
      rfl
  refine staged.more (entered.agenda.trans List.perm_append_comm) ?_
  intro entry among
  exact (basis.between.knows.agenda entry among).unstaged

/-- A tick that all groups have entered is under way. -/
theorem Entered.ticking (entered : basis.Entered basis.origin.groups tick state) :
    Ticking basis {} {} (2 * basis.scanned.length) [] tick { state with tick := some tick } := by
  have called (entry : Nat × Task) (among : entry ∈ basis.calls basis.scanned.length) :
      entry.2.handed? basis.number = none ∧
        entry.2.Known (fun tick => tick ≤ basis.number) := by
    rcases List.mem_map.1 among with ⟨place, -, rfl⟩
    exact ⟨rfl, Nat.le_refl _⟩
  have staged := entered.staged
  have knows := basis.between.knows.mono (fun tick before => Nat.le_of_lt before)
  have waits (place : Nat) (group : Group) (phase : GroupPhase)
      (found : tick.groups[place]? = some (group, phase)) : phase = .waiting :=
    (entered.found_iff.1 found).2
  rcases entered with ⟨number, now, permits, queue, groups, report,
    ⟨services, agenda, unscanned, rfl⟩, registry, planned⟩
  have fromStart (entry : Nat × Task) (among : entry ∈ agenda) :
      entry.2.handed? basis.number = none ∧
        entry.2.Known (fun tick => tick ≤ basis.number) := by
    rcases List.mem_append.1 (planned.mem_iff.1 among) with new | earlier
    · exact called entry new
    · exact ⟨(basis.between.knows.agenda entry earlier).handed?, knows.agenda entry earlier⟩
  constructor
  · rfl
  · exact number
  · exact now
  · rfl
  · rfl
  · exact ⟨fun entry among => (fromStart entry among).2, knows.waiting, knows.jobs⟩
  · exact .nil basis
  · dsimp only at registry ⊢
    rw [registry]
    exact .nil basis
  · have nothing : Handed basis [] [] [] (basis.number + 1) := ⟨.refl _, rfl⟩
    have same : (agenda.map Prod.snd).Perm (agenda.map Prod.snd ++ []) :=
      .of_eq (List.append_nil _).symm
    refine nothing.more same ?_
    intro task among
    rcases List.mem_map.1 among with ⟨entry, isEntry, rfl⟩
    exact (fromStart entry isEntry).1
  · rw [report]
    exact ⟨rfl, rfl, rfl, rfl⟩
  · rw [groups, List.map_map]
    exact List.map_id _
  · intro place group phase _ isFound
    rw [waits place group phase isFound]
    exact ⟨nofun, nofun, nofun⟩
  · exact staged

end Begun

/-- A tick that begins has ended, if it has no groups, or is under way. -/
theorem begins (basis : TickBasis) : Continues basis (2 * basis.scanned.length) []
    ({ basis.start with tickReports := [] }.beginTick basis.setting basis.now) := by
  have begun : basis.Entered []
      { number := basis.number, now := basis.now,
        permits := basis.setting.scheduler.maxConcurrentGroups }
      { basis.start with
        tickReports := []
        numbers := basis.number + 1
        services := basis.start.services.count .ticks 1 } :=
    ⟨rfl, rfl, rfl, rfl, rfl, rfl, ⟨_, _, _, rfl⟩, rfl, .refl _⟩
  have all := begun.foldl basis.origin.groups
  rw [List.nil_append] at all
  exact all.ticking.settle.continues (Nat.le_refl _)

/-- A tick that begins ends, and then nothing more is done. -/
theorem ends (basis : TickBasis) :
    ∃ heard tasks final needed,
      StepRun (State.Performs basis.setting)
        ({ basis.start with tickReports := [] }.beginTick basis.setting basis.now) tasks final ∧
      TickEnded basis heard tasks final ∧
      ∀ steps, needed ≤ steps →
        State.runUntil basis.setting none State.isTicked steps
          ({ basis.start with tickReports := [] }.beginTick basis.setting basis.now) = final := by
  rcases basis.begins with ⟨heard, ended⟩ | ⟨book, tick, left, -, goesOn, ticking⟩
  · exact ⟨heard, [], _, 0, .nil, ended,
      fun steps _ => State.runUntil_of_happened ended.isTicked steps⟩
  · exact ticking.ends goesOn

end TickBasis

end CandleAlerts.Simulation
