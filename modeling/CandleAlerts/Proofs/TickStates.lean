import CandleAlerts.Proofs.TickStages

/-!
A tick under way.

The book of a tick says which groups have asked, were evaluated and have ended. It fits the phases
of the groups, and with them the market, the cells, the agenda and the report. All that is done for
a group keeps it so, and so does what dispatches do meanwhile.
-/

namespace CandleAlerts.Simulation

/-! ## The book of a tick -/

/-- What the groups heard that have asked the market, and the places of those that were evaluated
and of those that have ended. -/
structure TickBook where
  heard : List Hearing := []
  evaluated : List Nat := []
  ended : List Nat := []

namespace TickBook

variable {basis : TickBasis} {book : TickBook} {place : Nat} {group : Group} {phase : GroupPhase}

/-- What the book records of a group in a phase. -/
def Records (book : TickBook) (basis : TickBasis) (place : Nat) (group : Group) : GroupPhase → Prop
  | .waiting =>
      (∀ hearing ∈ book.heard, hearing.place ≠ place) ∧ place ∉ book.evaluated ∧ place ∉ book.ended
  | .fetching result =>
      ⟨place, group, result⟩ ∈ book.heard ∧ place ∉ book.evaluated ∧ place ∉ book.ended
  | .dispatching _ count =>
      ∃ hearing ∈ book.heard, hearing.place = place ∧ place ∈ book.evaluated ∧
        place ∉ book.ended ∧ basis.fails hearing = false ∧
        count = (basis.events hearing).length
  | .ended =>
      ∃ hearing ∈ book.heard, hearing.place = place ∧ place ∈ book.evaluated ∧ place ∈ book.ended

/-- It does not matter what the book records of others. -/
theorem Records.of_same (records : book.Records basis place group phase) {other : TickBook}
    (heard : ∀ hearing : Hearing, hearing.place = place →
      (hearing ∈ other.heard ↔ hearing ∈ book.heard))
    (evaluated : place ∈ other.evaluated ↔ place ∈ book.evaluated)
    (ended : place ∈ other.ended ↔ place ∈ book.ended) : other.Records basis place group phase := by
  cases phase with
  | waiting =>
      rcases records with ⟨unheard, unevaluated, unended⟩
      refine ⟨?_, mt evaluated.1 unevaluated, mt ended.1 unended⟩
      intro hearing among same
      exact unheard hearing ((heard hearing same).1 among) same
  | fetching result =>
      rcases records with ⟨listed, unevaluated, unended⟩
      exact ⟨(heard _ rfl).2 listed, mt evaluated.1 unevaluated, mt ended.1 unended⟩
  | dispatching left count =>
      rcases records with ⟨hearing, listed, isPlace, isEvaluated, unended, succeeds, counted⟩
      exact ⟨hearing, (heard hearing isPlace).2 listed, isPlace, evaluated.2 isEvaluated,
        mt ended.1 unended, succeeds, counted⟩
  | ended =>
      rcases records with ⟨hearing, listed, isPlace, isEvaluated, isEnded⟩
      exact ⟨hearing, (heard hearing isPlace).2 listed, isPlace, evaluated.2 isEvaluated,
        ended.2 isEnded⟩

def hear (book : TickBook) (hearing : Hearing) : TickBook :=
  { book with heard := book.heard ++ [hearing] }

def evaluate (book : TickBook) (place : Nat) : TickBook :=
  { book with evaluated := place :: book.evaluated }

def finish (book : TickBook) (place : Nat) : TickBook :=
  { book with ended := place :: book.ended }

variable {other : Nat}

theorem Records.hear (records : book.Records basis place group phase) {hearing : Hearing}
    (different : place ≠ hearing.place) : (book.hear hearing).Records basis place group phase := by
  refine records.of_same ?_ .rfl .rfl
  intro another same
  have unlike : another ≠ hearing := fun equal => different (same ▸ congrArg Hearing.place equal)
  simp [TickBook.hear, unlike]

theorem Records.evaluate (records : book.Records basis place group phase)
    (different : place ≠ other) : (book.evaluate other).Records basis place group phase :=
  records.of_same (fun _ _ => .rfl) (by simp [TickBook.evaluate, different]) .rfl

theorem Records.finish (records : book.Records basis place group phase)
    (different : place ≠ other) : (book.finish other).Records basis place group phase :=
  records.of_same (fun _ _ => .rfl) .rfl (by simp [TickBook.finish, different])

end TickBook

/-! ## Ticks under way -/

/-- Whether some group of a tick has not ended. -/
def Tick.GoesOn (tick : Tick) : Prop :=
  ∃ (place : Nat) (group : Group) (phase : GroupPhase),
    tick.groups[place]? = some (group, phase) ∧ phase ≠ .ended

/-- A tick under way, what its book records, what is in hand and what has been done so far. -/
structure Ticking (basis : TickBasis) (book : TickBook) (hand : TickHand) (left : Nat)
    (done : List Task) (tick : Tick) (state : State) : Prop where
  isTick : state.tick = some tick
  number : tick.number = basis.number
  now : tick.now = basis.now
  noReport : state.tickReports = []
  indicators : state.indicators = basis.start.indicators
  knows : state.Knows (fun tick => tick ≤ basis.number)
  asked : Asked basis book.heard state.market state.fetches
  evaluated : Evaluated basis (heardAt book.evaluated book.heard) state.services.registry
  handed : Handed basis (heardAt book.evaluated book.heard)
    (done ++ state.agenda.map Prod.snd) hand.fired state.numbers
  reported : Reported basis (heardAt book.ended book.heard) tick.report
  groups : tick.groups.toList.map Prod.fst = basis.scanned
  phases : ∀ place group phase, hand.place? ≠ some place →
    tick.groups[place]? = some (group, phase) → book.Records basis place group phase
  staged : Staged basis state.agenda tick hand left

/-- A tick that has ended: every group asked the market, was evaluated by itself and is in the
report. -/
structure TickEnded (basis : TickBasis) (heard : List Hearing) (done : List Task) (state : State) :
    Prop where
  idle : state.tick = none
  report : ∃ report, state.tickReports = [report] ∧ Reported basis heard report
  knows : state.Knows (fun tick => tick ≤ basis.number)
  complete : ∀ place < basis.scanned.length, ∃ hearing ∈ heard, hearing.place = place
  asked : Asked basis heard state.market state.fetches
  evaluated : Evaluated basis heard state.services.registry
  handed : Handed basis heard (done ++ state.agenda.map Prod.snd) [] state.numbers

/-- Whether a tick has ended, or goes on with so many calls and answers left at most. -/
def Continues (basis : TickBasis) (bound : Nat) (done : List Task) (state : State) : Prop :=
  (∃ heard, TickEnded basis heard done state) ∨
    ∃ book tick left, left ≤ bound ∧ tick.GoesOn ∧ Ticking basis book {} left done tick state

/-- Whether a tick has ended, or goes on and nothing but the tick and the services changed. -/
def Settles (basis : TickBasis) (left : Nat) (done : List Task) (before after : State) : Prop :=
  (∃ heard, TickEnded basis heard done after) ∨
    ∃ book tick services, after = { before with services, tick := some tick } ∧
      tick.GoesOn ∧ Ticking basis book {} left done tick after

variable {basis : TickBasis} {book : TickBook} {hand : TickHand} {left bound : Nat}
  {done : List Task} {tick : Tick} {state before after : State} {place : Nat} {group : Group}

theorem Settles.continues (settles : Settles basis left done before after) (within : left ≤ bound) :
    Continues basis bound done after := by
  rcases settles with ended | ⟨book, tick, services, -, goesOn, ticking⟩
  · exact .inl ended
  · exact .inr ⟨book, tick, left, within, goesOn, ticking⟩

theorem Task.OfDispatch.unstaged {task : Task} (ofDispatch : task.OfDispatch) (tick : Nat) :
    task.Unstaged tick := by
  cases task with
  | groupErrandDone | errandAdmitted | deliveryDue => exact ⟨rfl, rfl, rfl⟩
  | _ => cases ofDispatch

theorem Task.OfDispatch.handed? {task : Task} (ofDispatch : task.OfDispatch) (tick : Nat) :
    task.handed? tick = none := by
  cases task with
  | groupErrandDone | errandAdmitted | deliveryDue => rfl
  | _ => cases ofDispatch

/-- Tasks without events may be put on the agenda. -/
theorem Handed.more_planned {evaluated : List Hearing} {inHand : List Fired} {numbers : Nat}
    {agenda planned more : List (Nat × Task)}
    (handed : Handed basis evaluated (done ++ agenda.map Prod.snd) inHand numbers)
    (same : planned.Perm (more ++ agenda))
    (noEvent : ∀ entry ∈ more, entry.2.handed? basis.number = none) :
    Handed basis evaluated (done ++ planned.map Prod.snd) inHand numbers := by
  have others : (done ++ planned.map Prod.snd).Perm
      (more.map Prod.snd ++ (done ++ agenda.map Prod.snd)) := by
    have mapped := same.map Prod.snd
    rw [List.map_append] at mapped
    refine (mapped.append_left done).trans ?_
    rw [← List.append_assoc, ← List.append_assoc]
    exact List.perm_append_comm.append_right _
  refine handed.more others ?_
  intro task among
  rcases List.mem_map.1 among with ⟨entry, inMore, rfl⟩
  exact noEvent entry inMore

namespace TickEnded

variable {heard : List Hearing}

/-- What dispatches do does not matter any more. -/
theorem aside (ended : TickEnded basis heard done state)
    (aside : State.Aside (fun tick => tick ≤ basis.number) state after) :
    TickEnded basis heard done after := by
  rcases aside.agenda with ⟨more, same, ofDispatch⟩
  constructor
  · exact aside.tick.trans ended.idle
  · rw [aside.reports]
    exact ended.report
  · exact aside.knows ended.knows
  · exact ended.complete
  · rw [aside.market, aside.fetches]
    exact ended.asked
  · exact ended.evaluated.of_same aside.alerts aside.cells
  · rw [aside.numbers]
    exact ended.handed.more_planned same (fun entry among => (ofDispatch entry among).handed? _)

/-- The next tick may be due then. -/
theorem planTick (ended : TickEnded basis heard done state) :
    TickEnded basis heard done state.planTick := by
  simp only [State.planTick]
  split
  · rename_i due _
    have same : (state.plan (max due state.time) .tickDue).agenda.Perm
        ([(max due state.time, .tickDue)] ++ state.agenda) := state.plan_agenda _ _
    exact { ended with
      knows := ended.knows.plan _ trivial
      handed := ended.handed.more_planned same (by simp [Task.handed?]) }
  · exact ended

end TickEnded

namespace Ticking

theorem isAt (ticking : Ticking basis book hand left done tick state) {phase : GroupPhase}
    (found : tick.groups[place]? = some (group, phase)) :
    basis.scanned[place]? = some group := by
  rw [← ticking.groups, List.getElem?_map, Array.getElem?_toList, found]
  rfl

/-- When no group is in hand the book records all of them. -/
theorem records (ticking : Ticking basis book {} left done tick state) {phase : GroupPhase}
    (found : tick.groups[place]? = some (group, phase)) : book.Records basis place group phase :=
  ticking.phases place group phase (Option.some_ne_none place).symm found

/-- A group in hand that has asked the market, as the book has it. -/
theorem heardIsAt (ticking : Ticking basis book hand left done tick state) {hearing : Hearing}
    (listed : hearing ∈ book.heard) : basis.scanned[hearing.place]? = some hearing.group :=
  ticking.asked.groups hearing listed

/-! ### The agenda -/

/-- What dispatches do does not matter. -/
theorem aside (ticking : Ticking basis book hand left done tick state)
    (aside : State.Aside (fun tick => tick ≤ basis.number) state after) :
    Ticking basis book hand left done tick after := by
  rcases aside.agenda with ⟨more, same, ofDispatch⟩
  constructor
  · exact aside.tick.trans ticking.isTick
  · exact ticking.number
  · exact ticking.now
  · exact aside.reports.trans ticking.noReport
  · exact aside.indicators.trans ticking.indicators
  · exact aside.knows ticking.knows
  · rw [aside.market, aside.fetches]
    exact ticking.asked
  · exact ticking.evaluated.of_same aside.alerts aside.cells
  · rw [aside.numbers]
    exact ticking.handed.more_planned same (fun entry among => (ofDispatch entry among).handed? _)
  · exact ticking.reported
  · exact ticking.groups
  · exact ticking.phases
  · exact ticking.staged.more same (fun entry among => (ofDispatch entry among).unstaged _)

/-- The task that is due is taken from the agenda. -/
theorem take {due : Nat} {task : Task} {rest : List (Nat × Task)}
    (ticking : Ticking basis book {} left done tick state)
    (agenda : state.agenda = (due, task) :: rest) {place? : Option Nat} {permits fewer : Nat}
    (staged : Staged basis rest tick { place?, permits } fewer) (time : Nat) :
    Ticking basis book { place?, permits } fewer (done ++ [task]) tick
      { state with agenda := rest, time } := by
  refine { ticking with knows := ?_, handed := ?_, phases := ?_, staged }
  · refine ⟨?_, ticking.knows.waiting, ticking.knows.jobs⟩
    intro entry among
    apply ticking.knows.agenda
    rw [agenda]
    exact List.mem_cons_of_mem _ among
  · have handed := ticking.handed
    rw [agenda, List.map_cons] at handed
    rw [List.append_assoc]
    exact handed
  · intro other another phase _ found
    exact ticking.records found

/-- A task that is of no concern to the stages may be put on the agenda. -/
theorem plan (ticking : Ticking basis book hand left done tick state) (due : Nat) {task : Task}
    (known : task.Known (fun tick => tick ≤ basis.number)) (unstaged : task.Unstaged basis.number)
    (noEvent : task.handed? basis.number = none) :
    Ticking basis book hand left done tick (state.plan due task) := by
  have same : (state.plan due task).agenda.Perm ([(due, task)] ++ state.agenda) :=
    state.plan_agenda due task
  exact { ticking with
    knows := ticking.knows.plan due known
    handed := ticking.handed.more_planned same (by simpa using noEvent)
    staged := ticking.staged.more same (by simpa using unstaged) }

theorem onTick (ticking : Ticking basis book hand left done tick state)
    (change : Tick → State → State) : state.onTick basis.number change = change tick state := by
  simp only [State.onTick]
  rw [ticking.isTick]
  exact if_pos ticking.number

/-- What is about other ticks does not matter. -/
theorem onTick_of_ne (ticking : Ticking basis book hand left done tick state) {number : Nat}
    (different : number ≠ basis.number) (change : Tick → State → State) :
    state.onTick number change = state := by
  simp only [State.onTick]
  rw [ticking.isTick]
  exact if_neg (fun same => different (same.symm.trans ticking.number))

/-! ### Queue and permits -/

theorem enqueue (ticking : Ticking basis book { place? := some place } left done tick state)
    (found : tick.groups[place]? = some (group, .waiting))
    (records : book.Records basis place group .waiting) (noPermit : tick.permits = 0) :
    Ticking basis book {} (left + 2) done { tick with queue := tick.queue ++ [place] }
      { state with tick := some { tick with queue := tick.queue ++ [place] } } := by
  refine { ticking with
    isTick := rfl
    knows := { ticking.knows with }
    phases := ?_
    staged := ticking.staged.enqueue noPermit found }
  intro other another phase _ isOther
  by_cases same : other = place
  · subst same
    rw [found] at isOther
    cases isOther
    exact records
  · exact ticking.phases other another phase
      (Staged.elsewhere same) isOther

theorem takePermit (ticking : Ticking basis book { place? := some place } left done tick state)
    (permit : tick.permits ≠ 0) :
    Ticking basis book { place? := some place, permits := 1 } left done
      { tick with permits := tick.permits - 1 }
      { state with tick := some { tick with permits := tick.permits - 1 } } :=
  { ticking with
    isTick := rfl
    knows := { ticking.knows with }
    staged := ticking.staged.takePermit permit }

/-- A permit that is in hand goes to the group that waits first, if there is one. -/
theorem releasePermit {place? : Option Nat} {fired : List Fired}
    (ticking : Ticking basis book { place?, permits := 1, fired } left done tick state) :
    ∃ next, next.groups = tick.groups ∧
      Ticking basis book { place?, fired } left done next state.releasePermit := by
  simp only [State.releasePermit]
  rw [ticking.isTick]
  dsimp only
  split
  · rename_i queued
    exact ⟨{ tick with permits := tick.permits + 1 }, rfl, { ticking with
      isTick := rfl
      knows := { ticking.knows with }
      staged := ticking.staged.returnPermit queued }⟩
  · rename_i next rest queued
    have known : (Task.groupAdmitted tick.number next).Known (fun tick => tick ≤ basis.number) :=
      Nat.le_of_eq ticking.number
    have planned := state.plan_agenda state.time (.groupAdmitted tick.number next)
    have same : (state.plan state.time (.groupAdmitted tick.number next)).agenda.Perm
        ([(state.time, .groupAdmitted tick.number next)] ++ state.agenda) := planned
    have called : (state.plan state.time (.groupAdmitted tick.number next)).agenda.Perm
        ((state.time, .groupAdmitted basis.number next) :: state.agenda) := by
      rw [← ticking.number]
      exact planned
    exact ⟨{ tick with queue := rest }, rfl, { ticking with
      isTick := rfl
      knows := { ticking.knows.plan state.time known with }
      handed := ticking.handed.more_planned same (by simp [Task.handed?])
      staged := ticking.staged.callNext queued called }⟩

/-! ### Phases -/

/-- When a group in hand comes to a phase, the book records all groups if it records this one. -/
theorem phases_inPhase {permits : Nat} {fired : List Fired} {before phase : GroupPhase}
    (ticking : Ticking basis book { place? := some place, permits, fired } left done tick state)
    (found : tick.groups[place]? = some (group, before)) {later : TickBook}
    (records : later.Records basis place group phase)
    (others : ∀ other another now, other ≠ place → book.Records basis other another now →
      later.Records basis other another now) (other : Nat) (another : Group) (now : GroupPhase)
    (isOther : (tick.inPhase place phase).groups[other]? = some (another, now)) :
    later.Records basis other another now := by
  by_cases same : other = place
  · subst same
    cases (Tick.groups_inPhase_self found phase).symm.trans isOther
    exact records
  · rw [Tick.groups_inPhase_of_ne same] at isOther
    exact others other another now same
      (ticking.phases other another now (Staged.elsewhere same) isOther)

/-! ### The market -/

/-- A group in hand that asks the market hears its next reply. -/
theorem hear {permits : Nat} {before : GroupPhase}
    (ticking : Ticking basis book { place? := some place, permits } left done tick state)
    (found : tick.groups[place]? = some (group, before))
    (records : book.Records basis place group .waiting) {fetch : Fetch} (key : fetch.key = group.key) :
    let asking : State := { state with fetches := state.fetches ++ [fetch] }
    let hearing : Hearing := ⟨place, group, basis.learned (asking.marketReply group.key).1⟩
    Ticking basis (book.hear hearing) { place? := some place, permits } left done tick
        (asking.marketReply group.key).2 ∧
      (book.hear hearing).Records basis place group (.fetching hearing.result) := by
  intro asking hearing
  rcases records with ⟨unheard, unevaluated, unended⟩
  have fresh : place ∉ book.heard.map Hearing.place := by
    intro listed
    rcases List.mem_map.1 listed with ⟨other, among, same⟩
    exact unheard other among same
  have asked := ticking.asked.ask (ticking.isAt found) fresh key
  have script : asking.market = state.market := rfl
  rcases State.marketReply_congr script group.key with ⟨reply, market⟩
  rw [← reply, ← market] at asked
  have evaluated : heardAt book.evaluated (book.heard ++ [hearing]) =
      heardAt book.evaluated book.heard := heardAt_concat unevaluated book.heard
  have ended : heardAt book.ended (book.heard ++ [hearing]) = heardAt book.ended book.heard :=
    heardAt_concat unended book.heard
  refine ⟨?_, List.mem_append_right _ List.mem_cons_self, unevaluated, unended⟩
  rcases asking.marketReply_eq group.key with ⟨used, changed⟩
  rw [changed] at asked ⊢
  refine { ticking with
    knows := { ticking.knows with }
    asked
    evaluated := ?_
    handed := ?_
    reported := ?_
    phases := ?_
    staged := { ticking.staged with } }
  · dsimp only [TickBook.hear]
    rw [evaluated]
    exact ticking.evaluated
  · dsimp only [TickBook.hear]
    rw [evaluated]
    exact ticking.handed
  · dsimp only [TickBook.hear]
    rw [ended]
    exact ticking.reported
  · intro other another phase notInHand isOther
    refine (ticking.phases other another phase notInHand isOther).hear ?_
    rintro rfl
    exact notInHand rfl

/-- A group in hand that has asked waits for the answer. -/
theorem fetch {before : GroupPhase} {result : FetchResult}
    (ticking : Ticking basis book { place? := some place, permits := 1 } left done tick state)
    (found : tick.groups[place]? = some (group, before))
    (records : book.Records basis place group (.fetching result)) (due : Nat) :
    Ticking basis book {} (left + 1) done (tick.inPhase place (.fetching result))
      ((state.setPhase tick place (.fetching result)).plan due
        (.groupFetched basis.number place)) := by
  have known : (Task.groupFetched basis.number place).Known (fun tick => tick ≤ basis.number) :=
    Nat.le_refl _
  have planned := state.plan_agenda due (.groupFetched basis.number place)
  have same : (state.plan due (.groupFetched basis.number place)).agenda.Perm
      ([(due, .groupFetched basis.number place)] ++ state.agenda) := planned
  exact { ticking with
    isTick := rfl
    knows := { ticking.knows.plan due known with }
    handed := ticking.handed.more_planned same (by simp [Task.handed?])
    groups := (tick.map_groups_inPhase place _).trans ticking.groups
    phases := fun other another phase _ => ticking.phases_inPhase found records
      (fun _ _ _ _ earlier => earlier) other another phase
    staged := ticking.staged.fetch found result planned }

/-! ### Evaluation -/

/-- A group in hand that is evaluated has its events in hand. -/
theorem evaluate {permits : Nat} {result : FetchResult}
    (ticking : Ticking basis book { place? := some place, permits } left done tick state)
    (records : book.Records basis place group (.fetching result)) {services : Services}
    (evaluated : Evaluated basis (⟨place, group, result⟩ :: heardAt book.evaluated book.heard)
      services.registry) (computations : List Computation) (found lost : List (String × Int)) :
    Ticking basis (book.evaluate place)
      { place? := some place, permits, fired := basis.events ⟨place, group, result⟩ } left done tick
      { state with services, computations, found, lost } := by
  rcases records with ⟨listed, unevaluated, -⟩
  have same := heardAt_cons_perm ticking.asked.once listed unevaluated
  refine { ticking with
    knows := { ticking.knows with }
    evaluated := evaluated.of_perm same
    handed := (ticking.handed.evaluate _).of_perm same
    phases := ?_
    staged := { ticking.staged with } }
  intro other another phase notInHand isOther
  refine (ticking.phases other another phase notInHand isOther).evaluate ?_
  rintro rfl
  exact notInHand rfl

/-- An event in hand is handed over. -/
theorem handOne {place? : Option Nat} {fired : Fired} {others : List Fired}
    (ticking : Ticking basis book { place?, fired := fired :: others } left done tick state)
    (place : Nat) :
    Ticking basis book { place?, fired := others } left done tick
      (State.handOne basis.number place state fired) := by
  let errand : Errand :=
    ⟨state.numbers, fired.alert, fired.event, some (basis.number, place)⟩
  have known : (Task.errandReady errand).Known (fun tick => tick ≤ basis.number) := by
    rintro _ _ ⟨⟩
    exact Nat.le_refl _
  have planned := state.plan_agenda state.time (.errandReady errand)
  have same : (state.plan state.time (.errandReady errand)).agenda.Perm
      ([(state.time, .errandReady errand)] ++ state.agenda) := planned
  have tasks := planned.map Prod.snd
  have hands : (Task.errandReady errand).handed? basis.number = some fired := if_pos rfl
  have unstaged : (Task.errandReady errand).Unstaged basis.number := ⟨rfl, rfl, rfl⟩
  have staged := ticking.staged.more same (by simpa using unstaged)
  exact { ticking with
    knows := { ticking.knows.plan state.time known with }
    handed := ticking.handed.hand hands ((tasks.append_left done).trans List.perm_middle)
    staged := { staged with } }

/-- All events in hand are handed over. -/
theorem handAll {place? : Option Nat} {fired : List Fired}
    (ticking : Ticking basis book { place?, fired } left done tick state) (place : Nat) :
    Ticking basis book { place? } left done tick
      (fired.foldl (State.handOne basis.number place) state) := by
  induction fired generalizing state with
  | nil => exact ticking
  | cons first rest induction => exact induction (ticking.handOne place)

/-! ### The end of a group -/

/-- When all groups have ended the tick has ended. -/
theorem close (ticking : Ticking basis book {} left done tick state) (allEnded : ¬ tick.GoesOn) :
    TickEnded basis book.heard done
      { state with tick := none, tickReports := state.tickReports ++ [tick.report] } := by
  have isFound (place : Nat) (within : place < basis.scanned.length) :
      ∃ hearing ∈ book.heard, hearing.place = place ∧ place ∈ book.evaluated ∧
        place ∈ book.ended := by
    rw [← ticking.groups, List.length_map, Array.length_toList] at within
    have found : tick.groups[place]? = some (tick.groups[place].1, tick.groups[place].2) :=
      Array.getElem?_eq_getElem within
    have records := ticking.records found
    have isEnded : tick.groups[place].2 = .ended := by
      by_contra notEnded
      exact allEnded ⟨place, _, _, found, notEnded⟩
    rw [isEnded] at records
    exact records
  have complete (hearing : Hearing) (among : hearing ∈ book.heard) :
      hearing.place ∈ book.evaluated ∧ hearing.place ∈ book.ended := by
    rcases isFound hearing.place (List.getElem?_eq_some_iff.1 (ticking.heardIsAt among)).1 with
      ⟨_, _, _, isEvaluated, isEnded⟩
    exact ⟨isEvaluated, isEnded⟩
  have allEvaluated : heardAt book.evaluated book.heard = book.heard :=
    List.filter_eq_self.2 (fun hearing among =>
      List.contains_iff_mem.2 (complete hearing among).1)
  have allInReport : heardAt book.ended book.heard = book.heard :=
    List.filter_eq_self.2 (fun hearing among =>
      List.contains_iff_mem.2 (complete hearing among).2)
  constructor
  · rfl
  · refine ⟨tick.report, ?_, ?_⟩
    · rw [ticking.noReport]
      rfl
    · rw [← allInReport]
      exact ticking.reported
  · exact { ticking.knows with }
  · intro place within
    rcases isFound place within with ⟨hearing, among, isPlace, -⟩
    exact ⟨hearing, among, isPlace⟩
  · exact ticking.asked
  · rw [← allEvaluated]
    exact ticking.evaluated
  · rw [← allEvaluated]
    exact ticking.handed

/-- A tick of which nothing is in hand ends if all its groups have ended. -/
theorem settle (ticking : Ticking basis book {} left done tick state) :
    Settles basis left done state state.settleTick := by
  simp only [State.settleTick]
  rw [ticking.isTick]
  dsimp only
  split
  · rename_i allEnded
    rw [Array.all_eq_true_iff_forall_mem] at allEnded
    refine .inl ⟨book.heard, (ticking.close ?_).planTick⟩
    rintro ⟨place, group, phase, found, notEnded⟩
    have isEnded := allEnded (group, phase) (Array.mem_of_getElem? found)
    cases phase with
    | ended => exact notEnded rfl
    | _ => cases isEnded
  · rename_i someLeft
    refine .inr ⟨book, tick, state.services, ?_, ?_, ticking⟩
    · rw [← ticking.isTick]
    · by_contra allEnded
      apply someLeft
      rw [Array.all_eq_true_iff_forall_mem]
      rintro ⟨group, phase⟩ among
      rcases Array.mem_iff_getElem?.1 among with ⟨place, found⟩
      by_contra notEnded
      refine allEnded ⟨place, group, phase, found, ?_⟩
      rintro rfl
      exact notEnded rfl

variable {phase : GroupPhase} {hearing : Hearing}

/-- A group in hand that was evaluated ends. -/
theorem endGroup (ticking : Ticking basis book { place? := some place } left done tick state)
    (found : tick.groups[place]? = some (group, phase)) (listed : hearing ∈ book.heard)
    (isPlace : hearing.place = place) (isEvaluated : place ∈ book.evaluated)
    (unended : place ∉ book.ended) {note : TickReport → TickReport}
    (reported : Reported basis (hearing :: heardAt book.ended book.heard) (note tick.report)) :
    Settles basis left done state (state.endGroup place note) := by
  subst isPlace
  have same := heardAt_cons_perm ticking.asked.once listed unended
  have ended : Ticking basis (book.finish hearing.place) {} left done
      (({ tick with report := note tick.report } : Tick).inPhase hearing.place .ended)
      (state.setPhase { tick with report := note tick.report } hearing.place .ended) := by
    have records : (book.finish hearing.place).Records basis hearing.place group .ended :=
      ⟨hearing, listed, rfl, isEvaluated, List.mem_cons_self⟩
    have staged := ticking.staged.putDown found (.inl rfl)
    exact { ticking with
      isTick := rfl
      knows := { ticking.knows with }
      reported := reported.of_perm same
      groups := (tick.map_groups_inPhase hearing.place .ended).trans ticking.groups
      phases := fun other another next _ => ticking.phases_inPhase found records
        (fun _ _ _ different earlier => earlier.finish different) other another next
      staged := { staged with
        standing := fun other different => { staged.standing other different with } } }
  simp only [State.endGroup]
  rw [ticking.isTick]
  exact ended.settle

/-- A group in hand that the market failed ends. -/
theorem failGroup (ticking : Ticking basis book { place? := some place } left done tick state)
    (found : tick.groups[place]? = some (group, phase)) (listed : hearing ∈ book.heard)
    (isPlace : hearing.place = place) (isEvaluated : place ∈ book.evaluated)
    (unended : place ∉ book.ended) (fails : basis.fails hearing = true)
    (silent : basis.events hearing = []) (reason : String) :
    Continues basis left done (state.failGroup place reason) := by
  have counted : Ticking basis book { place? := some place } left done tick
      { state with services := state.services.count (.groupFailures reason) 1 } :=
    ticking.aside (.of_services state rfl rfl)
  exact (counted.endGroup found listed isPlace isEvaluated unended
    (ticking.reported.fail fails silent)).continues (Nat.le_refl _)

/-- A group in hand of which all events have been dispatched ends. -/
theorem completeGroup (ticking : Ticking basis book { place? := some place } left done tick state)
    (found : tick.groups[place]? = some (group, phase)) {ahead count : Nat}
    (records : book.Records basis place group (.dispatching ahead count)) :
    Settles basis left done state (state.completeGroup place count) := by
  rcases records with ⟨hearing, listed, isPlace, isEvaluated, unended, succeeds, counted⟩
  exact ticking.endGroup found listed isPlace isEvaluated unended
    (ticking.reported.complete succeeds counted)

/-- A group in hand whose dispatches take too long ends without them. -/
theorem detachGroup (ticking : Ticking basis book { place? := some place } left done tick state)
    (found : tick.groups[place]? = some (group, phase)) {ahead count : Nat}
    (records : book.Records basis place group (.dispatching ahead count)) :
    Settles basis left done state (state.detachGroup basis.setting group place count) := by
  simp only [State.detachGroup, State.onServices]
  have noted (journal : Journal) : Ticking basis book { place? := some place } left done tick
      { state with services := state.services.note journal } :=
    ticking.aside (.of_services state rfl rfl)
  exact (noted _).completeGroup found records

/-- A group in hand that was evaluated waits for its dispatches, within a time limit. -/
theorem putDown (ticking : Ticking basis book { place? := some place } left done tick state)
    (found : tick.groups[place]? = some (group, phase)) {ahead count : Nat}
    (records : book.Records basis place group (.dispatching ahead count))
    (limited : ∃ due, (due, .groupBudgetSpent basis.number place) ∈ state.agenda) :
    Ticking basis book {} left done (tick.inPhase place (.dispatching ahead count))
        (state.setPhase tick place (.dispatching ahead count)) ∧
      (tick.inPhase place (.dispatching ahead count)).GoesOn := by
  refine ⟨?_, place, group, _, Tick.groups_inPhase_self found _, nofun⟩
  exact { ticking with
    isTick := rfl
    knows := { ticking.knows with }
    groups := (tick.map_groups_inPhase place _).trans ticking.groups
    phases := fun other another next _ => ticking.phases_inPhase found records
      (fun _ _ _ _ earlier => earlier) other another next
    staged := ticking.staged.putDown found (.inr ⟨⟨ahead, count, rfl⟩, limited⟩) }

/-! ### From the answer of the market to the dispatches -/

/-- The events of a group in hand are handed over, and it waits for their dispatch if there are
any. -/
theorem handOver {fired : List Fired}
    (ticking : Ticking basis book { place? := some place, fired } left done tick state)
    (found : tick.groups[place]? = some (group, phase)) (listed : hearing ∈ book.heard)
    (isPlace : hearing.place = place) (isEvaluated : place ∈ book.evaluated)
    (unended : place ∉ book.ended) (succeeds : basis.fails hearing = false)
    (events : fired = basis.events hearing) :
    Continues basis left done
      (state.handOver basis.setting basis.number group place fired) := by
  have handed := ticking.handAll place
  have records (ahead : Nat) :
      book.Records basis place group (.dispatching ahead fired.length) :=
    ⟨hearing, listed, isPlace, isEvaluated, unended, succeeds, congrArg List.length events⟩
  simp only [State.handOver]
  generalize fired.foldl (State.handOne basis.number place) state = now at handed ⊢
  split
  · rename_i isEmpty
    rw [List.isEmpty_iff.1 isEmpty] at records
    exact (handed.completeGroup found (records 0)).continues (Nat.le_refl _)
  · split
    · exact (handed.detachGroup found (records 0)).continues (Nat.le_refl _)
    · rw [handed.onTick]
      generalize now.time + basis.setting.timer basis.setting.scheduler.groupTimeout = due
      have limited : Ticking basis book { place? := some place } left done tick
          (now.plan due (.groupBudgetSpent basis.number place)) :=
        handed.plan due (Nat.le_refl _) ⟨rfl, rfl, rfl⟩ rfl
      have onAgenda :=
        (now.plan_agenda due (.groupBudgetSpent basis.number place)).mem_iff.2 List.mem_cons_self
      rcases limited.putDown found (records fired.length) ⟨_, onAgenda⟩ with ⟨waits, goesOn⟩
      exact .inr ⟨book, _, left, Nat.le_refl _, goesOn, waits⟩

/-- What a group in hand that has asked the market makes of the answer. -/
theorem receiveFetch {result : FetchResult}
    (ticking : Ticking basis book { place? := some place, permits := 1 } left done tick state)
    (found : tick.groups[place]? = some (group, phase))
    (records : book.Records basis place group (.fetching result)) :
    Continues basis left done (state.receiveFetch basis.setting tick group place result) := by
  rcases records with ⟨listed, unevaluated, unended⟩
  have groups : ∀ other ∈ heardAt book.evaluated book.heard,
      basis.scanned[other.place]? = some other.group :=
    fun other among => ticking.heardIsAt (mem_heardAt.1 among).1
  have isAt : basis.scanned[(⟨place, group, result⟩ : Hearing).place]? = some group :=
    ticking.isAt found
  have fresh : (⟨place, group, result⟩ : Hearing).place ∉
      (heardAt book.evaluated book.heard).map Hearing.place := by
    intro among
    rcases List.mem_map.1 among with ⟨other, isOther, same⟩
    have isPlace : other.place = place := same
    exact unevaluated (isPlace ▸ (mem_heardAt.1 isOther).2)
  cases result with
  | crash =>
      have failed := ticking.evaluated.fail
        (show basis.view? (⟨place, group, .crash⟩ : Hearing) = none from rfl)
      have evaluated := ticking.evaluate ⟨listed, unevaluated, unended⟩ failed state.computations
        state.found state.lost
      rcases evaluated.releasePermit with ⟨next, same, released⟩
      rw [← same] at found
      exact released.failGroup found listed rfl List.mem_cons_self unended rfl rfl "panic"
  | fetched answer =>
      have passed := ticking.evaluated.passGroup groups isAt fresh rfl
      dsimp only at passed
      rw [← ticking.indicators, ← ticking.now, ← ticking.number] at passed
      simp only [State.receiveFetch, State.evaluateGroup]
      generalize state.services.registry.passGroup state.indicators group answer tick.now
        (basis.setting.reached tick.number place) = pass at passed ⊢
      rcases passed with ⟨evaluated, outcome⟩
      have evaluatedNow : Ticking basis (book.evaluate place)
          { place? := some place, permits := 1,
            fired := basis.events ⟨place, group, .fetched answer⟩ } left done tick
          { state with
            services := { state.services with registry := pass.registry }.note pass.journal
            computations := state.computations ++ pass.computations
            found := state.found ++ pass.found
            lost := state.lost ++ pass.lost } :=
        ticking.evaluate ⟨listed, unevaluated, unended⟩ evaluated _ _ _
      rcases evaluatedNow.releasePermit with ⟨next, same, released⟩
      rw [← same] at found
      generalize State.releasePermit _ = now at released ⊢
      rcases outcome with ⟨⟨failure, result⟩, fails, silent⟩ | ⟨result, succeeds⟩
      · rw [silent] at released
        rw [result]
        have noted (journal : Journal) : Ticking basis (book.evaluate place)
            { place? := some place } left done next
            { now with services := now.services.note journal } :=
          released.aside (.of_services now rfl rfl)
        exact (noted _).failGroup found listed rfl List.mem_cons_self unended fails silent _
      · rw [result, ticking.number]
        have counted : Ticking basis (book.evaluate place)
            { place? := some place, fired := basis.events ⟨place, group, .fetched answer⟩ } left
            done next { now with services := now.services.count .groupsEvaluated 1 } :=
          released.aside (.of_services now rfl rfl)
        exact counted.handOver found listed rfl List.mem_cons_self unended succeeds rfl

end Ticking

end CandleAlerts.Simulation
