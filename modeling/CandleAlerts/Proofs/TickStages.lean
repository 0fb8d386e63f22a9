import CandleAlerts.Proofs.TickBooks

/-!
The stages of the groups of a tick.

A group that waits has been called: it is on the agenda or in the queue. A group that asks the market
has a permit, and so has one that was called from the queue; its answer is on the agenda. A group
that waits for its dispatches has a time limit on the agenda. So something is on the agenda until
all groups have ended.
-/

namespace CandleAlerts.Simulation

/-! ## Phases -/

/-- A tick of which the group at a place has come to a phase. -/
def Tick.inPhase (tick : Tick) (place : Nat) (phase : GroupPhase) : Tick :=
  { tick with groups := tick.groups.modify place (fun entry => (entry.1, phase)) }

namespace Tick

variable {tick : Tick} {place : Nat}

theorem groups_inPhase_self {group : Group} {before : GroupPhase}
    (isAt : tick.groups[place]? = some (group, before)) (phase : GroupPhase) :
    (tick.inPhase place phase).groups[place]? = some (group, phase) := by
  simp [inPhase, Array.getElem?_modify, isAt]

theorem groups_inPhase_of_ne {other : Nat} (different : other ≠ place) (phase : GroupPhase) :
    (tick.inPhase place phase).groups[other]? = tick.groups[other]? := by
  simp [inPhase, Array.getElem?_modify, Ne.symm different]

theorem map_groups_inPhase (tick : Tick) (place : Nat) (phase : GroupPhase) :
    (tick.inPhase place phase).groups.toList.map Prod.fst = tick.groups.toList.map Prod.fst := by
  apply List.ext_getElem?
  intro index
  simp only [inPhase, List.getElem?_map, Array.getElem?_toList, Array.getElem?_modify]
  split
  · cases tick.groups[index]? <;> rfl
  · rfl

end Tick

/-! ## Tasks of groups -/

/-- The place of the group that a task calls to be evaluated. -/
def Task.called? (tick : Nat) : Task → Option Nat
  | .groupReady number place | .groupAdmitted number place =>
      if number = tick then some place else none
  | .groupFetched _ _ | .groupErrandDone _ _ | .groupBudgetSpent _ _ | .errandReady _
  | .errandAdmitted _ | .deliveryDue _ _ | .tickDue | .schedulerStops => none

/-- The place of the group for which a task brings the answer of the market. -/
def Task.answered? (tick : Nat) : Task → Option Nat
  | .groupFetched number place => if number = tick then some place else none
  | .groupReady _ _ | .groupAdmitted _ _ | .groupErrandDone _ _ | .groupBudgetSpent _ _
  | .errandReady _ | .errandAdmitted _ | .deliveryDue _ _ | .tickDue | .schedulerStops => none

/-- Whether a task holds a permit to evaluate a group. -/
def Task.holdsPermit (tick : Nat) : Task → Bool
  | .groupAdmitted number _ | .groupFetched number _ => number == tick
  | .groupReady _ _ | .groupErrandDone _ _ | .groupBudgetSpent _ _ | .errandReady _
  | .errandAdmitted _ | .deliveryDue _ _ | .tickDue | .schedulerStops => false

/-- Whether a task neither calls a group of a tick nor brings it an answer. -/
structure Task.Unstaged (tick : Nat) (task : Task) : Prop where
  called : task.called? tick = none
  answered : task.answered? tick = none
  permit : task.holdsPermit tick = false

/-- The places of the groups that have been called and have not begun to be evaluated. -/
def called (tick : Nat) (agenda : List (Nat × Task)) (queue : List Nat) : List Nat :=
  agenda.filterMap (fun entry => entry.2.called? tick) ++ queue

/-- The places of the groups that wait for an answer. -/
def answered (tick : Nat) (agenda : List (Nat × Task)) : List Nat :=
  agenda.filterMap (fun entry => entry.2.answered? tick)

/-- How many permits are held by tasks. -/
def permitsHeld (tick : Nat) (agenda : List (Nat × Task)) : Nat :=
  agenda.countP (fun entry => entry.2.holdsPermit tick)

section Agendas

variable {due : Nat} {task : Task} {agenda after : List (Nat × Task)}

theorem called_cons (number : Nat) (same : after.Perm ((due, task) :: agenda)) (queue : List Nat) :
    (called number after queue).Perm
      ((task.called? number).toList ++ called number agenda queue) := by
  have split := same.filterMap (fun entry => entry.2.called? number)
  refine (split.append_right queue).trans (.of_eq ?_)
  rw [List.filterMap_cons]
  cases task.called? number <;> rfl

theorem answered_cons (number : Nat) (same : after.Perm ((due, task) :: agenda)) :
    (answered number after).Perm ((task.answered? number).toList ++ answered number agenda) := by
  refine (same.filterMap (fun entry => entry.2.answered? number)).trans (.of_eq ?_)
  rw [List.filterMap_cons]
  cases task.answered? number <;> rfl

theorem permitsHeld_cons (number : Nat) (same : after.Perm ((due, task) :: agenda)) :
    permitsHeld number after = permitsHeld number agenda + (task.holdsPermit number).toNat := by
  rw [permitsHeld, same.countP_eq, List.countP_cons]
  cases task.holdsPermit number <;> rfl

end Agendas

/-- What is in hand while a task is done: the place of a group, so many permits, and events that are
still to be handed over. -/
structure TickHand where
  place? : Option Nat := none
  permits : Nat := 0
  fired : List Fired := []

/-- Whether a group is where its phase says: called if it waits, to be answered if it asks the
market, and within a time limit if it waits for its dispatches. -/
structure Standing (basis : TickBasis) (agenda : List (Nat × Task)) (tick : Tick) (place : Nat) :
    Prop where
  waits : place ∈ called basis.number agenda tick.queue ↔
    ∃ group, tick.groups[place]? = some (group, .waiting)
  fetches : place ∈ answered basis.number agenda ↔
    ∃ group result, tick.groups[place]? = some (group, .fetching result)
  limited : ∀ group ahead count, tick.groups[place]? = some (group, .dispatching ahead count) →
    ∃ due, (due, Task.groupBudgetSpent basis.number place) ∈ agenda

theorem Standing.of_same {basis : TickBasis} {agenda after : List (Nat × Task)} {tick next : Tick}
    {place : Nat} (standing : Standing basis agenda tick place)
    (groups : next.groups[place]? = tick.groups[place]?)
    (calls : place ∈ called basis.number after next.queue ↔
      place ∈ called basis.number agenda tick.queue)
    (answers : place ∈ answered basis.number after ↔ place ∈ answered basis.number agenda)
    (limits : ∀ group ahead count due,
      tick.groups[place]? = some (group, .dispatching ahead count) →
        (due, .groupBudgetSpent basis.number place) ∈ agenda →
          (due, .groupBudgetSpent basis.number place) ∈ after) :
    Standing basis after next place := by
  constructor
  · rw [calls, groups]
    exact standing.waits
  · rw [answers, groups]
    exact standing.fetches
  · intro group ahead count found
    rw [groups] at found
    rcases standing.limited group ahead count found with ⟨due, listed⟩
    exact ⟨due, limits group ahead count due found listed⟩

/-- Whether the groups of a tick, but for one in hand, are where their phases say, and so many
calls and answers are left. -/
structure Staged (basis : TickBasis) (agenda : List (Nat × Task)) (tick : Tick) (hand : TickHand)
    (left : Nat) : Prop where
  calledOnce : (called basis.number agenda tick.queue).Nodup
  answeredOnce : (answered basis.number agenda).Nodup
  standing : ∀ place, hand.place? ≠ some place → Standing basis agenda tick place
  inHand : ∀ place, hand.place? = some place →
    place ∉ called basis.number agenda tick.queue ∧ place ∉ answered basis.number agenda
  permits : tick.permits + permitsHeld basis.number agenda + hand.permits =
    basis.setting.scheduler.maxConcurrentGroups
  full : tick.queue ≠ [] → tick.permits = 0
  left : 2 * (called basis.number agenda tick.queue).length +
    (answered basis.number agenda).length = left

namespace Staged

variable {basis : TickBasis} {agenda after : List (Nat × Task)} {tick : Tick} {hand : TickHand}
  {left : Nat}

theorem elsewhere {place other permits : Nat} {fired : List Fired} (different : other ≠ place) :
    ({ place? := some place, permits, fired } : TickHand).place? ≠ some other :=
  fun same => different (Option.some.inj same).symm

/-- When no group is in hand all are where their phases say. -/
theorem stands (staged : Staged basis agenda tick {} left) (place : Nat) :
    Standing basis agenda tick place :=
  staged.standing place (Option.some_ne_none place).symm

/-- What matters on the agenda are calls, answers, permits, and the time limits of groups that wait
for their dispatches. -/
theorem of_perm (staged : Staged basis agenda tick hand left)
    (calls : (called basis.number after tick.queue).Perm (called basis.number agenda tick.queue))
    (answers : (answered basis.number after).Perm (answered basis.number agenda))
    (held : permitsHeld basis.number after = permitsHeld basis.number agenda)
    (limits : ∀ place group ahead count due, hand.place? ≠ some place →
      tick.groups[place]? = some (group, .dispatching ahead count) →
        (due, .groupBudgetSpent basis.number place) ∈ agenda →
          (due, .groupBudgetSpent basis.number place) ∈ after) :
    Staged basis after tick hand left := by
  constructor
  · exact calls.nodup_iff.2 staged.calledOnce
  · exact answers.nodup_iff.2 staged.answeredOnce
  · intro place other
    exact (staged.standing place other).of_same rfl calls.mem_iff answers.mem_iff
      (fun group ahead count due => limits place group ahead count due other)
  · intro place isInHand
    rw [calls.mem_iff, answers.mem_iff]
    exact staged.inHand place isInHand
  · rw [held]
    exact staged.permits
  · exact staged.full
  · rw [calls.length_eq, answers.length_eq]
    exact staged.left

/-- A task that neither calls a group nor brings it an answer may be put on the agenda. -/
theorem put {due : Nat} {task : Task} (staged : Staged basis agenda tick hand left)
    (same : after.Perm ((due, task) :: agenda)) (unstaged : task.Unstaged basis.number) :
    Staged basis after tick hand left := by
  have calls := called_cons basis.number same tick.queue
  have answers := answered_cons basis.number same
  have held := permitsHeld_cons basis.number same
  rw [unstaged.called] at calls
  rw [unstaged.answered] at answers
  rw [unstaged.permit] at held
  exact staged.of_perm calls answers held
    (fun _ _ _ _ _ _ _ listed => same.mem_iff.2 (List.mem_cons_of_mem _ listed))

/-- Other tasks may be put on the agenda. -/
theorem more (staged : Staged basis agenda tick hand left) {others : List (Nat × Task)}
    (same : after.Perm (others ++ agenda))
    (unstaged : ∀ entry ∈ others, entry.2.Unstaged basis.number) :
    Staged basis after tick hand left := by
  induction others generalizing after with
  | nil =>
      exact staged.of_perm ((same.filterMap _).append_right _) (same.filterMap _)
        (same.countP_eq _) (fun _ _ _ _ _ _ _ listed => same.mem_iff.2 listed)
  | cons first rest induction =>
      have later := induction (.refl _) (fun entry among =>
        unstaged entry (List.mem_cons_of_mem _ among))
      exact later.put same (unstaged first List.mem_cons_self)

/-! ### Taking tasks -/

/-- A task that neither calls a group nor brings it an answer may be taken from the agenda, if it is
not the time limit of a group that waits for its dispatches. -/
theorem take_unstaged {due : Nat} {task : Task} {rest : List (Nat × Task)}
    (staged : Staged basis ((due, task) :: rest) tick hand left)
    (unstaged : task.Unstaged basis.number)
    (spares : ∀ place group ahead count, hand.place? ≠ some place →
      tick.groups[place]? = some (group, .dispatching ahead count) →
        task ≠ .groupBudgetSpent basis.number place) :
    Staged basis rest tick hand left := by
  have calls := called_cons basis.number (.refl ((due, task) :: rest)) tick.queue
  have answers := answered_cons basis.number (.refl ((due, task) :: rest))
  have held := permitsHeld_cons basis.number (.refl ((due, task) :: rest))
  rw [unstaged.called] at calls
  rw [unstaged.answered] at answers
  rw [unstaged.permit] at held
  refine staged.of_perm calls.symm answers.symm held.symm ?_
  intro place group ahead count whenDue other found listed
  rcases List.mem_cons.1 listed with same | later
  · exact absurd (Prod.mk.inj same).2.symm (spares place group ahead count other found)
  · exact later

/-- A task that concerns one group is taken from the agenda, and the group comes in hand, with a
permit if the task holds one. -/
theorem take_own {due place : Nat} {task : Task} {rest : List (Nat × Task)}
    (staged : Staged basis ((due, task) :: rest) tick {} left)
    (own : ∀ other, other ≠ place → task.called? basis.number ≠ some other ∧
      task.answered? basis.number ≠ some other ∧ task ≠ .groupBudgetSpent basis.number other)
    (uncalled : place ∉ called basis.number rest tick.queue)
    (unanswered : place ∉ answered basis.number rest) :
    Staged basis rest tick
      { place? := some place, permits := (task.holdsPermit basis.number).toNat }
      (2 * (called basis.number rest tick.queue).length + (answered basis.number rest).length) := by
  have calls := called_cons basis.number (.refl ((due, task) :: rest)) tick.queue
  have answers := answered_cons basis.number (.refl ((due, task) :: rest))
  have held := permitsHeld_cons basis.number (.refl ((due, task) :: rest))
  have permits := staged.permits
  refine ⟨?_, ?_, ?_, ?_, ?_, staged.full, rfl⟩
  · exact (List.nodup_append.1 (calls.nodup_iff.1 staged.calledOnce)).2.1
  · exact (List.nodup_append.1 (answers.nodup_iff.1 staged.answeredOnce)).2.1
  · intro other different
    rcases own other (fun same => different (same ▸ rfl)) with ⟨notCalled, notAnswered, spares⟩
    refine (staged.stands other).of_same rfl ?_ ?_ ?_
    · rw [calls.mem_iff, List.mem_append, Option.mem_toList, or_iff_right notCalled]
    · rw [answers.mem_iff, List.mem_append, Option.mem_toList, or_iff_right notAnswered]
    · intro group ahead count whenDue _ listed
      rcases List.mem_cons.1 listed with same | later
      · exact absurd (Prod.mk.inj same).2.symm spares
      · exact later
  · rintro _ ⟨⟩
    exact ⟨uncalled, unanswered⟩
  · dsimp only at permits ⊢
    omega

/-- A group that is called comes in hand. -/
theorem take_called {due place : Nat} {task : Task} {rest : List (Nat × Task)}
    (staged : Staged basis ((due, task) :: rest) tick {} left)
    (isCall : task.called? basis.number = some place) :
    (∃ group, tick.groups[place]? = some (group, .waiting)) ∧
      ∃ fewer, fewer + 2 = left ∧ Staged basis rest tick
        { place? := some place, permits := (task.holdsPermit basis.number).toNat } fewer := by
  have noAnswer : task.answered? basis.number = none := by
    cases task <;> first | rfl | cases isCall
  have calls := called_cons basis.number (.refl ((due, task) :: rest)) tick.queue
  have answers := answered_cons basis.number (.refl ((due, task) :: rest))
  rw [isCall, Option.toList_some, List.singleton_append] at calls
  rw [noAnswer, Option.toList_none, List.nil_append] at answers
  have standing := staged.stands place
  have isWaiting := standing.waits.1 (calls.mem_iff.2 List.mem_cons_self)
  have own : ∀ other, other ≠ place → task.called? basis.number ≠ some other ∧
      task.answered? basis.number ≠ some other ∧ task ≠ .groupBudgetSpent basis.number other := by
    intro other different
    rw [isCall, noAnswer]
    refine ⟨fun same => different (Option.some.inj same).symm, nofun, ?_⟩
    rintro rfl
    cases isCall
  have unanswered : place ∉ answered basis.number rest := by
    intro listed
    rcases standing.fetches.1 (answers.mem_iff.2 listed) with ⟨group, result, isFetching⟩
    rcases isWaiting with ⟨other, isWaiting⟩
    cases isWaiting.symm.trans isFetching
  have uncalled := (List.nodup_cons.1 (calls.nodup_iff.1 staged.calledOnce)).1
  refine ⟨isWaiting, _, ?_, staged.take_own own uncalled unanswered⟩
  rw [← staged.left, calls.length_eq, answers.length_eq, List.length_cons]
  omega

/-- A group that has its answer comes in hand. -/
theorem take_answered {due place : Nat} {task : Task} {rest : List (Nat × Task)}
    (staged : Staged basis ((due, task) :: rest) tick {} left)
    (isAnswer : task.answered? basis.number = some place) :
    (∃ group result, tick.groups[place]? = some (group, .fetching result)) ∧
      ∃ fewer, fewer + 1 = left ∧ Staged basis rest tick
        { place? := some place, permits := (task.holdsPermit basis.number).toNat } fewer := by
  have noCall : task.called? basis.number = none := by
    cases task <;> first | rfl | cases isAnswer
  have calls := called_cons basis.number (.refl ((due, task) :: rest)) tick.queue
  have answers := answered_cons basis.number (.refl ((due, task) :: rest))
  rw [noCall, Option.toList_none, List.nil_append] at calls
  rw [isAnswer, Option.toList_some, List.singleton_append] at answers
  have standing := staged.stands place
  have isFetching := standing.fetches.1 (answers.mem_iff.2 List.mem_cons_self)
  have own : ∀ other, other ≠ place → task.called? basis.number ≠ some other ∧
      task.answered? basis.number ≠ some other ∧ task ≠ .groupBudgetSpent basis.number other := by
    intro other different
    rw [noCall, isAnswer]
    refine ⟨nofun, fun same => different (Option.some.inj same).symm, ?_⟩
    rintro rfl
    cases isAnswer
  have uncalled : place ∉ called basis.number rest tick.queue := by
    intro listed
    rcases standing.waits.1 (calls.mem_iff.2 listed) with ⟨group, isWaiting⟩
    rcases isFetching with ⟨other, result, isFetching⟩
    cases isWaiting.symm.trans isFetching
  have unanswered := (List.nodup_cons.1 (answers.nodup_iff.1 staged.answeredOnce)).1
  refine ⟨isFetching, _, ?_, staged.take_own own uncalled unanswered⟩
  rw [← staged.left, calls.length_eq, answers.length_eq, List.length_cons]
  omega

/-! ### Queue and permits -/

/-- A group in hand waits in the queue when there is no permit. -/
theorem enqueue {place : Nat} (staged : Staged basis agenda tick { place? := some place } left)
    (noPermit : tick.permits = 0) {group : Group}
    (isAt : tick.groups[place]? = some (group, .waiting)) :
    Staged basis agenda { tick with queue := tick.queue ++ [place] } {} (left + 2) := by
  have isCalled : called basis.number agenda (tick.queue ++ [place]) =
      called basis.number agenda tick.queue ++ [place] := by
    simp only [called, List.append_assoc]
  rcases staged.inHand place rfl with ⟨uncalled, unanswered⟩
  refine ⟨?_, staged.answeredOnce, ?_, nofun, staged.permits, fun _ => noPermit, ?_⟩
  · rw [isCalled]
    exact List.nodup_append_comm.1 (List.nodup_cons.2 ⟨uncalled, staged.calledOnce⟩)
  · intro other _
    by_cases same : other = place
    · subst same
      constructor
      · rw [isCalled]
        exact ⟨fun _ => ⟨group, isAt⟩, fun _ => List.mem_append_right _ List.mem_cons_self⟩
      · refine ⟨fun listed => absurd listed unanswered, ?_⟩
        rintro ⟨another, result, isFetching⟩
        cases isAt.symm.trans isFetching
      · intro another ahead count isDispatching
        cases isAt.symm.trans isDispatching
    · refine (staged.standing other (elsewhere same)).of_same rfl ?_ .rfl
        (fun _ _ _ _ _ listed => listed)
      rw [isCalled, List.mem_append, List.mem_singleton, or_iff_left same]
  · rw [isCalled, List.length_append, List.length_singleton, ← staged.left]
    omega

theorem takePermit {place? : Option Nat} {fired : List Fired}
    (staged : Staged basis agenda tick { place?, fired } left) (permit : tick.permits ≠ 0) :
    Staged basis agenda { tick with permits := tick.permits - 1 }
      { place?, permits := 1, fired } left := by
  have permits := staged.permits
  refine { staged with standing := ?_, permits := ?_, full := ?_ }
  · intro place other
    exact { staged.standing place other with }
  · dsimp only at permits ⊢
    omega
  · intro queued
    exact absurd (staged.full queued) permit

/-- A permit goes to the group that waits first. -/
theorem callNext {place? : Option Nat} {fired : List Fired} {next : Nat} {rest : List Nat}
    (staged : Staged basis agenda tick { place?, permits := 1, fired } left)
    (queued : tick.queue = next :: rest) {due : Nat}
    (same : after.Perm ((due, .groupAdmitted basis.number next) :: agenda)) :
    Staged basis after { tick with queue := rest } { place?, fired } left := by
  have calls : (called basis.number after rest).Perm (called basis.number agenda tick.queue) := by
    have isCall : (Task.groupAdmitted basis.number next).called? basis.number = some next :=
      if_pos rfl
    have split := called_cons basis.number same rest
    rw [isCall, Option.toList_some, List.singleton_append] at split
    refine split.trans ?_
    simp only [called]
    rw [queued]
    exact List.perm_middle.symm
  have answers := answered_cons basis.number same
  have held := permitsHeld_cons basis.number same
  simp only [Task.holdsPermit, beq_self_eq_true, Bool.toNat_true] at held
  have permits := staged.permits
  have full := staged.full (by rw [queued]; exact List.cons_ne_nil _ _)
  refine ⟨calls.nodup_iff.2 staged.calledOnce, answers.nodup_iff.2 staged.answeredOnce, ?_, ?_, ?_,
    fun _ => full, ?_⟩
  · intro place other
    exact (staged.standing place other).of_same rfl calls.mem_iff answers.mem_iff
      (fun _ _ _ _ _ listed => same.mem_iff.2 (List.mem_cons_of_mem _ listed))
  · intro place isInHand
    rw [calls.mem_iff]
    exact ⟨(staged.inHand place isInHand).1, mt answers.mem_iff.1 (staged.inHand place isInHand).2⟩
  · dsimp only at permits ⊢
    omega
  · rw [calls.length_eq, answers.length_eq]
    exact staged.left

/-- A permit is there again when no group waits. -/
theorem returnPermit {place? : Option Nat} {fired : List Fired}
    (staged : Staged basis agenda tick { place?, permits := 1, fired } left)
    (queued : tick.queue = []) :
    Staged basis agenda { tick with permits := tick.permits + 1 } { place?, fired } left := by
  have permits := staged.permits
  refine { staged with standing := ?_, permits := ?_, full := ?_ }
  · intro place other
    exact { staged.standing place other with }
  · dsimp only at permits ⊢
    omega
  · intro isQueued
    exact absurd queued isQueued

/-! ### Phases -/

/-- A group that waits for dispatches or has ended may come in hand. -/
theorem bring {place : Nat} (staged : Staged basis agenda tick {} left)
    (notWaiting : ∀ group, tick.groups[place]? ≠ some (group, .waiting))
    (notFetching : ∀ group result, tick.groups[place]? ≠ some (group, .fetching result)) :
    Staged basis agenda tick { place? := some place } left := by
  refine { staged with standing := fun other _ => staged.stands other, inHand := ?_ }
  rintro _ ⟨⟩
  constructor
  · intro listed
    rcases (staged.stands place).waits.1 listed with ⟨group, found⟩
    exact notWaiting group found
  · intro listed
    rcases (staged.stands place).fetches.1 listed with ⟨group, result, found⟩
    exact notFetching group result found

/-- A group in hand that asks the market waits for the answer with its permit. -/
theorem fetch {place : Nat}
    (staged : Staged basis agenda tick { place? := some place, permits := 1 } left)
    {group : Group} {before : GroupPhase} (isAt : tick.groups[place]? = some (group, before))
    (result : FetchResult) {due : Nat}
    (same : after.Perm ((due, .groupFetched basis.number place) :: agenda)) :
    Staged basis after (tick.inPhase place (.fetching result)) {} (left + 1) := by
  have calls := called_cons basis.number same tick.queue
  have answers : (answered basis.number after).Perm (place :: answered basis.number agenda) := by
    have split := answered_cons basis.number same
    simp only [Task.answered?, if_true] at split
    exact split
  have held := permitsHeld_cons basis.number same
  simp only [Task.holdsPermit, beq_self_eq_true, Bool.toNat_true] at held
  have permits := staged.permits
  have now := Tick.groups_inPhase_self isAt (.fetching result)
  rcases staged.inHand place rfl with ⟨uncalled, unanswered⟩
  refine ⟨calls.nodup_iff.2 staged.calledOnce, answers.nodup_iff.2
    (List.nodup_cons.2 ⟨unanswered, staged.answeredOnce⟩), ?_, nofun, ?_, staged.full, ?_⟩
  · intro other _
    by_cases isPlace : other = place
    · subst isPlace
      constructor
      · refine ⟨fun listed => absurd (calls.mem_iff.1 listed) uncalled, ?_⟩
        rintro ⟨another, isWaiting⟩
        cases now.symm.trans isWaiting
      · exact ⟨fun _ => ⟨group, result, now⟩, fun _ => answers.mem_iff.2 List.mem_cons_self⟩
      · intro another ahead count isDispatching
        cases now.symm.trans isDispatching
    · refine (staged.standing other (elsewhere isPlace)).of_same
        (Tick.groups_inPhase_of_ne isPlace _) calls.mem_iff ?_
        (fun _ _ _ _ _ listed => same.mem_iff.2 (List.mem_cons_of_mem _ listed))
      rw [answers.mem_iff, List.mem_cons, or_iff_right isPlace]
  · dsimp only [Tick.inPhase] at permits ⊢
    omega
  · have answersLeft := answers.length_eq
    have callsLeft : (called basis.number after tick.queue).length =
        (called basis.number agenda tick.queue).length := calls.length_eq
    have before := staged.left
    rw [List.length_cons] at answersLeft
    dsimp only [Tick.inPhase]
    omega

/-- A group in hand that has been evaluated ends, or waits for its dispatches within a time limit. -/
theorem putDown {place : Nat} {fired : List Fired}
    (staged : Staged basis agenda tick { place? := some place, fired } left) {group : Group}
    {before : GroupPhase} (isAt : tick.groups[place]? = some (group, before)) {phase : GroupPhase}
    (evaluated : phase = .ended ∨ (∃ ahead count, phase = .dispatching ahead count) ∧
      ∃ due, (due, Task.groupBudgetSpent basis.number place) ∈ agenda) :
    Staged basis agenda (tick.inPhase place phase) { fired } left := by
  have now := Tick.groups_inPhase_self isAt phase
  rcases staged.inHand place rfl with ⟨uncalled, unanswered⟩
  refine { staged with standing := ?_, inHand := nofun }
  intro other _
  by_cases isPlace : other = place
  · subst isPlace
    constructor
    · refine ⟨fun listed => absurd listed uncalled, ?_⟩
      rintro ⟨another, isWaiting⟩
      rcases evaluated with rfl | ⟨⟨ahead, count, rfl⟩, -⟩
      · cases now.symm.trans isWaiting
      · cases now.symm.trans isWaiting
    · refine ⟨fun listed => absurd listed unanswered, ?_⟩
      rintro ⟨another, result, isFetching⟩
      rcases evaluated with rfl | ⟨⟨ahead, count, rfl⟩, -⟩
      · cases now.symm.trans isFetching
      · cases now.symm.trans isFetching
    · intro another ahead count isDispatching
      rcases evaluated with rfl | ⟨-, limited⟩
      · cases now.symm.trans isDispatching
      · exact limited
  · exact (staged.standing other (elsewhere isPlace)).of_same
      (Tick.groups_inPhase_of_ne isPlace phase) .rfl .rfl (fun _ _ _ _ _ listed => listed)

/-! ### The end -/

/-- When nothing is on the agenda all groups have ended. -/
theorem ended_of_nil (staged : Staged basis [] tick {} left) {place : Nat} {group : Group}
    {phase : GroupPhase} (isAt : tick.groups[place]? = some (group, phase)) : phase = .ended := by
  have standing := staged.stands place
  cases phase with
  | waiting =>
      have listed : place ∈ tick.queue := by
        have isCalled := standing.waits.2 ⟨group, isAt⟩
        simpa [called] using isCalled
      have noPermit := staged.full (List.ne_nil_of_mem listed)
      have permits := staged.permits
      rw [noPermit] at permits
      exact absurd permits (Nat.ne_of_lt basis.permits)
  | fetching result =>
      have isAnswered := standing.fetches.2 ⟨group, result, isAt⟩
      cases isAnswered
  | dispatching ahead count =>
      rcases standing.limited group ahead count isAt with ⟨due, listed⟩
      cases listed
  | ended => rfl

end Staged

end CandleAlerts.Simulation
