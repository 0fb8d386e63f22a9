import CandleAlerts.Proofs.ErrandSchedule

/-!
What every run of a simulation keeps true.

The accounts and the schedule are kept by every task that comes up on the agenda, whichever it is,
and by every change of the registry.
-/

namespace CandleAlerts

namespace Simulation.State

/-- Whether the accounts of a state and its schedule are in order. -/
structure Sound (owner : Nat → String) (past : Past) (slots : Nat) (inHand : List TriggerEvent)
    (state : State) : Prop where
  accounts : Accounted owner past inHand state
  schedule : Scheduled slots 0 [] state

namespace Sound

variable {owner : Nat → String} {past : Past} {slots : Nat} {inHand : List TriggerEvent}
    {state : State}

/-- Whatever is about no event keeps a state sound. -/
theorem calm (sound : Sound owner past slots inHand state) {after : State}
    (calm : Calm (fun _ => False) state after) : Sound owner past slots inHand after :=
  ⟨sound.accounts.silent calm, sound.schedule.calm calm⟩

/-! ## Groups -/

theorem handOne {fired : Fired} (sound : Sound owner past slots (fired.event :: inHand) state)
    (tick place : Nat) : Sound owner past slots inHand (State.handOne tick place state fired) := by
  refine ⟨?_, sound.schedule.hand_over rfl rfl state.time⟩
  have numbered : Accounted owner past (fired.event :: inHand)
      { state with numbers := state.numbers + 1 } :=
    sound.accounts.of_same rfl rfl rfl rfl rfl (List.Sublist.refl _) (List.Perm.refl _)
  exact numbered.plan_errand state.time rfl

theorem handAll {fired : List Fired} (sound : Sound owner past slots (fired.map Fired.event) state)
    (tick place : Nat) :
    Sound owner past slots [] (fired.foldl (State.handOne tick place) state) := by
  induction fired generalizing state with
  | nil => exact sound
  | cons first rest induction =>
      rw [List.foldl_cons]
      exact induction (sound.handOne tick place)

theorem handOver (setting : Setting) {fired : List Fired}
    (sound : Sound owner past slots (fired.map Fired.event) state) (tick : Nat) (group : Group)
    (place : Nat) : Sound owner past slots [] (state.handOver setting tick group place fired) := by
  have after := sound.handAll tick place
  simp only [State.handOver]
  generalize fired.foldl (State.handOne tick place) state = now at after ⊢
  split
  · exact after.calm (completeGroup_calm _ _ _)
  · split
    · exact after.calm (detachGroup_calm _ _ _ _ _)
    · have dispatching : Calm (fun _ => False) now (now.onTick tick (fun current state =>
          state.setPhase current place (.dispatching fired.length fired.length))) :=
        onTick_calm tick (fun current under => setPhase_calm under current rfl place _)
      exact after.calm (dispatching.trans (plan_calm _ _ rfl))

def eventsOf (result : Except GroupFailure (List Fired)) : List TriggerEvent :=
  match result with
  | .error _ => []
  | .ok fired => fired.map Fired.event

/-- The evaluation of a group writes down what it found, and the events of that are in hand. -/
theorem evaluate (sound : Sound owner past slots [] state) {pass : GroupPass}
    (evaluated : GroupPass.Accounts state.services.registry owner (state.found ++ state.lost) pass)
    (computations : List Computation) :
    Sound owner past slots (eventsOf pass.result)
      { state with
        services := { state.services with registry := pass.registry }.note pass.journal
        computations
        found := state.found ++ pass.found
        lost := state.lost ++ pass.lost } := by
  have records : ({ state.services with registry := pass.registry }.note pass.journal).Records :=
    ⟨sound.accounts.books.records.claimsWork, sound.accounts.books.records.recordsWork,
      sound.accounts.books.records.distinct, sound.accounts.books.records.claimed,
      sound.accounts.books.records.published⟩
  have cells : CellsOwned owner pass.registry state.Evaluates
      ((state.found ++ pass.found) ++ (state.lost ++ pass.lost)) := by
    apply (sound.accounts.cells.evaluate evaluated).mono
    intro pair known
    simp only [List.mem_append] at known ⊢
    tauto
  refine ⟨⟨cells, sound.accounts.books.pass_over records rfl rfl, ?_⟩, ?_⟩
  · have findings := sound.accounts.findings
    rw [List.append_nil] at findings
    cases result : pass.result with
    | error failure =>
        simp only [eventsOf]
        rw [List.append_nil]
        exact findings.find_nothing evaluated result
    | ok fired => exact findings.find evaluated result
  · exact ⟨sound.schedule.numbered, sound.schedule.full, sound.schedule.total,
      sound.schedule.planned⟩

theorem evaluateGroup (setting : Setting) (sound : Sound owner past slots [] state) (tick : Tick)
    {group : Group} (owned : ∀ member ∈ group.members, owner member.cell = member.alert.id)
    (place : Nat) (fetched : Except MissingData (List Candle)) :
    Sound owner past slots [] (state.evaluateGroup setting tick group place fetched) := by
  have evaluated := state.services.registry.passGroup_accounts sound.accounts.cells.remembers
    state.indicators owned fetched tick.now (setting.reached tick.number place)
  unfold State.evaluateGroup
  generalize state.services.registry.passGroup state.indicators group fetched tick.now
    (setting.reached tick.number place) = pass at evaluated ⊢
  have after := (sound.evaluate evaluated (state.computations ++ pass.computations)).calm
    (releasePermit_calm _)
  dsimp only
  generalize State.releasePermit _ = now at after ⊢
  cases result : pass.result with
  | error failure =>
      rw [result] at after
      have skipped (services : Services) (same : Services.Undisturbed (fun _ => False) now.services
          services) : Calm (fun _ => False) now
            ({ now with services }.failGroup place failure.reason) :=
        (Calm.of_services now same).trans (failGroup_calm _ _ _)
      exact after.calm (skipped _ (.note _ _))
  | ok fired =>
      rw [result] at after
      have counted : Calm (fun _ => False) now
          { now with services := now.services.count .groupsEvaluated 1 } :=
        .of_services now (.count _ _ _)
      exact (after.calm counted).handOver setting tick.number group place

theorem receiveFetch (setting : Setting) (sound : Sound owner past slots [] state) (tick : Tick)
    {group : Group} (owned : ∀ member ∈ group.members, owner member.cell = member.alert.id)
    (place : Nat) (result : FetchResult) :
    Sound owner past slots [] (state.receiveFetch setting tick group place result) := by
  cases result with
  | crash => exact sound.calm ((releasePermit_calm state).trans (failGroup_calm _ _ _))
  | fetched candles => exact sound.evaluateGroup setting tick owned place candles

/-- A group of the tick under way has members with cells of their own. -/
theorem owned_of_group (sound : Sound owner past slots inHand state) {current : Tick}
    (under : state.tick = some current) {place : Nat} {group : Group} {phase : GroupPhase}
    (get : current.groups[place]? = some (group, phase)) :
    ∀ member ∈ group.members, owner member.cell = member.alert.id := by
  intro member isMember
  exact (sound.accounts.cells.evaluated member
    ⟨current, under, (group, phase), Array.mem_of_getElem? get, isMember⟩).2

theorem onTick (sound : Sound owner past slots inHand state) (number : Nat)
    {change : Tick → State → State}
    (changes : ∀ tick, state.tick = some tick → Sound owner past slots inHand (change tick state)) :
    Sound owner past slots inHand (state.onTick number change) := by
  simp only [State.onTick]
  split
  · rename_i tick under
    split
    · exact changes tick under
    · exact sound
  · exact sound

theorem beginFetch (setting : Setting) (sound : Sound owner past slots [] state)
    (tick place : Nat) :
    Sound owner past slots [] (state.beginFetch setting tick place) := by
  apply sound.onTick
  intro current under
  split
  · exact sound
  · rename_i group phase get
    have owned := sound.owned_of_group under get
    dsimp only
    generalize asked : ({ state with fetches := state.fetches ++ [_] } : State) = asking
    have listed : Calm (fun _ => False) state asking := by
      rw [← asked]
      exact .of_same (.refl _) rfl rfl rfl rfl rfl (Nat.le_refl _) rfl rfl
        (fun _ evaluates => evaluates)
    have after := sound.calm (listed.trans (marketReply_calm asking group.key))
    have still : (asking.marketReply group.key).2.tick = some current := by
      rw [marketReply_tick, ← asked]
      exact under
    generalize asking.marketReply group.key = replied at after still ⊢
    rcases replied with ⟨reply, now⟩
    split
    · exact after.receiveFetch setting current owned place _
    · exact after.calm ((setPhase_calm still current rfl place _).trans (plan_calm _ _ rfl))

theorem admitGroup (setting : Setting) (sound : Sound owner past slots [] state)
    (tick place : Nat) :
    Sound owner past slots [] (state.admitGroup setting tick place) := by
  apply sound.onTick
  intro current under
  have same (changed : Tick) (groups : changed.groups = current.groups) :
      Calm (fun _ => False) state { state with tick := some changed } := by
    apply Calm.of_tick
    intro other member equal evaluated
    cases equal
    exact evaluates_of_groups under groups evaluated
  split
  · exact sound.calm (same _ rfl)
  · exact (sound.calm (same { current with permits := current.permits - 1 } rfl)).beginFetch setting
      tick place

theorem finishFetch (setting : Setting) (sound : Sound owner past slots [] state)
    (tick place : Nat) :
    Sound owner past slots [] (state.finishFetch setting tick place) := by
  apply sound.onTick
  intro current under
  split
  · rename_i group result get
    exact sound.receiveFetch setting current (sound.owned_of_group under get) place result
  · exact sound

/-! ## Ticks -/

theorem enterGroup_calm (setting : Setting) (entered : Tick × State) (group : Group) :
    Calm (fun _ => False) entered.2 (enterGroup setting entered group).2 := by
  rcases entered with ⟨tick, state⟩
  simp only [enterGroup]
  split
  · exact plan_calm _ _ rfl
  · split
    · exact .refl _
    · exact .of_same (.note _ _) rfl rfl rfl rfl rfl (Nat.le_refl _) rfl rfl
        (fun _ evaluates => evaluates)

/-- A tick evaluates nothing but the members of the groups that it has taken in. -/
theorem enterGroup_evaluates (setting : Setting) (entered : Tick × State) (group : Group)
    {member : Registered} (evaluated : (enterGroup setting entered group).1.Evaluates member) :
    entered.1.Evaluates member ∨ member ∈ group.members := by
  rcases entered with ⟨tick, state⟩
  simp only [enterGroup] at evaluated
  split at evaluated
  · rcases evaluated with ⟨entry, listed, isMember⟩
    rcases Array.mem_push.1 listed with earlier | last
    · exact .inl ⟨entry, earlier, isMember⟩
    · rw [last] at isMember
      exact .inr isMember
  · split at evaluated
    · exact .inl evaluated
    · exact .inl evaluated

/-- What a tick takes in is registered, and taking it in changes nothing that matters. -/
theorem enterGroups (setting : Setting) {registered : Registered → Prop} (groups : List Group)
    (members : ∀ group ∈ groups, ∀ member ∈ group.members, registered member)
    (entered : Tick × State) (sofar : ∀ member, entered.1.Evaluates member → registered member) :
    (∀ member, (groups.foldl (enterGroup setting) entered).1.Evaluates member → registered member) ∧
      Calm (fun _ => False) entered.2 (groups.foldl (enterGroup setting) entered).2 := by
  induction groups generalizing entered with
  | nil => exact ⟨sofar, .refl _⟩
  | cons group rest induction =>
      have step : ∀ member, (enterGroup setting entered group).1.Evaluates member →
          registered member := by
        intro member evaluated
        rcases enterGroup_evaluates setting entered group evaluated with earlier | isMember
        · exact sofar member earlier
        · exact members group List.mem_cons_self member isMember
      rcases induction (fun other inRest => members other (List.mem_cons_of_mem _ inRest))
        (enterGroup setting entered group) step with ⟨evaluates, calm⟩
      exact ⟨evaluates, (enterGroup_calm setting entered group).trans calm⟩

theorem beginTick (setting : Setting) (sound : Sound owner past slots [] state) (now : Instant) :
    Sound owner past slots [] (state.beginTick setting now) := by
  have begun : Calm (fun _ => False) state
      { state with
        numbers := state.numbers + 1
        services := state.services.count .ticks 1 } :=
    .of_same (.count _ _ _) rfl rfl rfl rfl rfl (Nat.le_succ _) rfl rfl (fun _ evaluates => evaluates)
  have entered := enterGroups setting state.services.registry.groups
    (fun group listed member isMember => Registry.get?_of_mem_groups listed isMember)
    ({ number := state.numbers, now, permits := setting.scheduler.maxConcurrentGroups },
      { state with
        numbers := state.numbers + 1
        services := state.services.count .ticks 1 })
    (by
      rintro member ⟨entry, listed, -⟩
      simp at listed)
  simp only [State.beginTick, State.takeNumber]
  dsimp only at entered ⊢
  change Sound owner past slots [] (State.settleTick
    { (state.services.registry.groups.foldl (enterGroup setting) _).2 with
      tick := some (state.services.registry.groups.foldl (enterGroup setting) _).1 })
  generalize state.services.registry.groups.foldl (enterGroup setting) _ = result at entered ⊢
  rcases result with ⟨tick, after⟩
  rcases entered with ⟨evaluates, enter⟩
  dsimp only at evaluates enter ⊢
  have calm := begun.trans enter
  have taken := sound.calm calm
  have ticking : Sound owner past slots [] { after with tick := some tick } := by
    refine ⟨⟨?_, taken.accounts.books, taken.accounts.findings⟩, ?_⟩
    · apply taken.accounts.cells.evaluate_registered
      rintro member ⟨current, under, evaluated⟩
      cases under
      rcases evaluates member evaluated with ⟨id, get⟩
      refine ⟨id, ?_⟩
      simp only [Registry.get?]
      rw [calm.services.alerts]
      exact get
    · exact ⟨taken.schedule.numbered, taken.schedule.full, taken.schedule.total,
        taken.schedule.planned⟩
  exact ticking.calm (settleTick_calm _)

theorem beginDueTick (setting : Setting) (sound : Sound owner past slots [] state) :
    Sound owner past slots [] (state.beginDueTick setting) := by
  simp only [State.beginDueTick]
  split
  · split
    · rename_i due _ _ _
      have scheduled : Calm (fun _ => False) state
          { state with schedule := some (nextDue setting.scheduler.interval due state.time) } :=
        .of_same (.refl _) rfl rfl rfl rfl rfl (Nat.le_refl _) rfl rfl (fun _ evaluates => evaluates)
      exact (sound.calm scheduled).beginTick setting setting.calendar
    · exact sound
  · exact sound

/-! ## Tasks -/

/-- A task that is no errand and no delivery may be taken from the agenda. -/
theorem take_other (sound : Sound owner past slots [] state) {before after : List (Nat × Task)}
    {due : Nat} {task : Task} (agenda : state.agenda = before ++ (due, task) :: after)
    (noErrand : task.errand? = none)
    (noDelivery : ∀ number place, task ≠ .deliveryDue number place) (time : Nat) :
    Sound owner past slots [] { state with agenda := before ++ after, time } := by
  have accounts := sound.accounts.take agenda time
  have schedule := sound.schedule.take agenda (fun job _ place =>
    noDelivery job.errand.number place) time
  rw [noErrand] at accounts schedule
  rw [Task.hasSlot_of_errand?_eq_none noErrand] at schedule
  exact ⟨accounts, schedule⟩

/-- Whatever comes up on the agenda keeps a state sound, whichever it is. -/
theorem perform (setting : Setting) (sound : Sound owner past slots [] state)
    {before after : List (Nat × Task)} {due : Nat} {task : Task}
    (agenda : state.agenda = before ++ (due, task) :: after) {time : Nat} (reached : due ≤ time) :
    Sound owner past slots []
      ({ state with agenda := before ++ after, time }.perform setting task) := by
  cases task with
  | groupReady tick place =>
      exact (sound.take_other agenda rfl (fun _ _ => Task.noConfusion) time).admitGroup
        setting tick place
  | groupAdmitted tick place =>
      exact (sound.take_other agenda rfl (fun _ _ => Task.noConfusion) time).beginFetch
        setting tick place
  | groupFetched tick place =>
      exact (sound.take_other agenda rfl (fun _ _ => Task.noConfusion) time).finishFetch setting
        tick
        place
  | groupErrandDone tick place =>
      exact (sound.take_other agenda rfl (fun _ _ => Task.noConfusion) time).calm
        (noteErrandDone_calm _ tick place)
  | groupBudgetSpent tick place =>
      exact (sound.take_other agenda rfl (fun _ _ => Task.noConfusion) time).calm
        (spendBudget_calm setting _ tick place)
  | errandReady errand =>
      have schedule := sound.schedule.take agenda (fun _ _ _ => Task.noConfusion) time
      exact ⟨(sound.accounts.take agenda time).admitErrand setting, schedule.admitErrand setting⟩
  | errandAdmitted errand =>
      have schedule := sound.schedule.take agenda (fun _ _ _ => Task.noConfusion) time
      exact ⟨(sound.accounts.take agenda time).beginErrand setting, schedule.beginErrand setting⟩
  | deliveryDue number place =>
      exact ⟨(sound.accounts.take agenda time).carryOnJob setting number place,
        sound.schedule.carryOnJob setting agenda reached⟩
  | tickDue =>
      exact (sound.take_other agenda rfl (fun _ _ => Task.noConfusion) time).beginDueTick setting
  | schedulerStops =>
      exact (sound.take_other agenda rfl (fun _ _ => Task.noConfusion) time).calm
        (stopScheduler_calm _)

/-! ## The registry -/

theorem of_registry (sound : Sound owner past slots [] state) {next : Nat → String}
    {registry : Registry}
    (owned : CellsOwned next registry state.Evaluates (state.found ++ state.lost)) :
    Sound next past slots []
      { state with services := { state.services with registry } } := by
  have records : ({ state.services with registry } : Services).Records :=
    ⟨sound.accounts.books.records.claimsWork, sound.accounts.books.records.recordsWork,
      sound.accounts.books.records.distinct, sound.accounts.books.records.claimed,
      sound.accounts.books.records.published⟩
  exact ⟨⟨owned, sound.accounts.books.pass_over records rfl rfl, sound.accounts.findings⟩,
    sound.schedule.of_services _⟩

theorem activate (sound : Sound owner past slots [] state) (alert : Alert) :
    ∃ owner, Sound owner past slots []
      { state with services := { state.services with
          registry := (state.services.registry.activate alert none).2 } } := by
  rcases sound.accounts.cells.activate alert with ⟨next, owned⟩
  exact ⟨next, sound.of_registry owned⟩

theorem deactivate (sound : Sound owner past slots [] state) (id : String) :
    Sound owner past slots []
      { state with services := { state.services with
          registry := (state.services.registry.deactivate id).2 } } :=
  sound.of_registry (sound.accounts.cells.deactivate id)

end Sound

end Simulation.State

end CandleAlerts
