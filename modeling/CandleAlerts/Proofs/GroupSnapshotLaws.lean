import CandleAlerts.Proofs.SnapshotLaws

/-!
What the snapshot of a group holds.

It has a frame for every timeframe that the candles make up, and on each frame the columns of every
request that an alert needs there. Each need is computed once.
-/

namespace CandleAlerts

/-! ## Distinct needs -/

theorem nodup_eraseDups {α : Type} [BEq α] [LawfulBEq α] : (list : List α) → list.eraseDups.Nodup
  | [] => by simp
  | head :: rest => by
      rw [List.eraseDups_cons, List.nodup_cons]
      refine ⟨?_, nodup_eraseDups _⟩
      simp [List.mem_eraseDups]
termination_by list => list.length
decreasing_by exact Nat.lt_succ_of_le (List.length_filter_le _ rest)

/-- The needs of some alerts before any is dropped. -/
def allNeeds (alerts : List Alert) : List IndicatorNeed := alerts.flatMap Alert.requiredIndicators

theorem neededIndicators_eq (alerts : List Alert) :
    neededIndicators alerts = (allNeeds alerts).eraseDups := by
  have same : IndicatorNeed.same = (fun first second => first == second) := by
    funext first second
    rw [Bool.eq_iff_iff, IndicatorNeed.same_iff, beq_iff_eq]
  simp only [neededIndicators]
  rw [same]
  rfl

theorem mem_neededIndicators {alerts : List Alert} {need : IndicatorNeed} :
    need ∈ neededIndicators alerts ↔ need ∈ allNeeds alerts := by
  rw [neededIndicators_eq, List.mem_eraseDups]

theorem nodup_neededIndicators (alerts : List Alert) : (neededIndicators alerts).Nodup := by
  rw [neededIndicators_eq]
  exact nodup_eraseDups _

theorem mem_allNeeds {alerts : List Alert} {alert : Alert} (member : alert ∈ alerts)
    {condition : Condition} (belongs : condition ∈ alert.conditions) {spec : IndicatorSpec}
    (reads : spec ∈ condition.indicators) :
    (condition.timeframe.resolve alert.timeframe, spec) ∈ allNeeds alerts := by
  refine List.mem_flatMap.2 ⟨alert, member, ?_⟩
  exact List.mem_flatMap.2 ⟨condition, belongs, List.mem_map.2 ⟨spec, reads, rfl⟩⟩

theorem mem_neededTimeframes {alerts : List Alert} {alert : Alert} (member : alert ∈ alerts)
    {condition : Condition} (belongs : condition ∈ alert.conditions) :
    condition.timeframe.resolve alert.timeframe ∈ neededTimeframes alerts := by
  simp only [neededTimeframes]
  rw [List.mem_eraseDups]
  refine List.mem_flatMap.2 ⟨alert, member, ?_⟩
  exact List.mem_cons_of_mem _ (List.mem_map_of_mem belongs)

/-- Every timeframe that an indicator is needed on is read. -/
theorem timeframe_mem_of_mem_allNeeds {alerts : List Alert} {need : IndicatorNeed}
    (needed : need ∈ allNeeds alerts) : need.1 ∈ neededTimeframes alerts := by
  rcases List.mem_flatMap.1 needed with ⟨alert, member, required⟩
  rcases List.mem_flatMap.1 required with ⟨condition, belongs, listed⟩
  rcases List.mem_map.1 listed with ⟨spec, -, same⟩
  rw [← same]
  exact mem_neededTimeframes member belongs

namespace Snapshot

/-! ## Frames -/

theorem resample?_self (timeframe : Timeframe) (candles : List Candle) :
    resample? timeframe timeframe candles = some candles := by
  simp [resample?]

/-- The frame that candles make up for a timeframe, without indicators. -/
def bareFrame? (key : GroupKey) (candles : List Candle) (timeframe : Timeframe) : Option Frame :=
  (resample? key.timeframe timeframe candles).map (fun bars => { timeframe, candles := bars })

theorem bareFrame?_base (key : GroupKey) (candles : List Candle) :
    bareFrame? key candles key.timeframe = some { timeframe := key.timeframe, candles } := by
  simp [bareFrame?, resample?_self]

/-- A snapshot that has the frames of the base and of the timeframes visited, as far as the candles
make them up. -/
structure Covers (key : GroupKey) (candles : List Candle) (visited : List Timeframe)
    (snapshot : Snapshot) : Prop where
  base : snapshot.base = key.timeframe
  frames : ∀ timeframe, snapshot.frame? timeframe =
    if timeframe = key.timeframe ∨ timeframe ∈ visited then bareFrame? key candles timeframe
    else none

theorem Covers.ofFrame (key : GroupKey) (candles : List Candle) :
    Covers key candles [] (.ofFrame key.symbol { timeframe := key.timeframe, candles }) where
  base := rfl
  frames timeframe := by
    rw [frame?_ofFrame]
    by_cases isBase : timeframe = key.timeframe
    · subst isBase
      simp [bareFrame?_base]
    · simp [isBase, Ne.symm isBase]

theorem Covers.withTimeframe {key : GroupKey} {candles : List Candle} {visited : List Timeframe}
    {snapshot : Snapshot} (covers : Covers key candles visited snapshot) (added : Timeframe) :
    Covers key candles (visited ++ [added]) (snapshot.withTimeframe key candles added) := by
  simp only [Snapshot.withTimeframe]
  by_cases isBase : added = key.timeframe
  · rw [if_pos isBase]
    refine ⟨covers.base, ?_⟩
    intro timeframe
    rw [covers.frames timeframe]
    by_cases same : timeframe = key.timeframe
    · simp [same]
    · have other : timeframe ≠ added := fun equal => same (equal.trans isBase)
      simp [same, other]
  · rw [if_neg isBase]
    cases bars : resample? key.timeframe added candles with
    | some bars =>
        refine ⟨covers.base, ?_⟩
        intro timeframe
        rw [frame?_withFrame]
        by_cases same : added = timeframe
        · subst same
          simp [bareFrame?, bars]
        · simp [same, Ne.symm same, covers.frames timeframe]
    | none =>
        refine ⟨covers.base, ?_⟩
        intro timeframe
        rw [covers.frames timeframe]
        by_cases same : timeframe = added
        · subst same
          simp [bareFrame?, bars]
        · simp [same]

theorem Covers.foldl {key : GroupKey} {candles : List Candle} (timeframes : List Timeframe)
    {visited : List Timeframe} {snapshot : Snapshot}
    (covers : Covers key candles visited snapshot) :
    Covers key candles (visited ++ timeframes)
      (timeframes.foldl (Snapshot.withTimeframe key candles) snapshot) := by
  induction timeframes generalizing visited snapshot with
  | nil => simpa using covers
  | cons added rest induction =>
      have next := induction (covers.withTimeframe added)
      rw [List.append_assoc] at next
      exact next

theorem framesOf_covers (key : GroupKey) (timeframes : List Timeframe) (candles : List Candle) :
    Covers key candles timeframes (framesOf key timeframes candles) := by
  have covers := (Covers.ofFrame key candles).foldl timeframes
  rw [List.nil_append] at covers
  exact covers

theorem Covers.indicators_nil {key : GroupKey} {candles : List Candle} {visited : List Timeframe}
    {snapshot : Snapshot} (covers : Covers key candles visited snapshot) {timeframe : Timeframe}
    {frame : Frame} (found : snapshot.frame? timeframe = some frame) : frame.indicators = [] := by
  rw [covers.frames timeframe] at found
  split at found
  · rcases Option.map_eq_some_iff.1 found with ⟨bars, -, made⟩
    rw [← made]
  · cases found

/-! ## Computations -/

theorem mem_compute {frames : Snapshot} {engine : IndicatorEngine} {needs : List IndicatorNeed}
    {computation : Computation} :
    computation ∈ frames.compute engine needs ↔
      computation.need ∈ needs ∧ ∃ frame, frames.frame? computation.need.1 = some frame ∧
        computation.candleCount = frame.candles.length ∧
        computation.columns = engine frame.candles computation.need.2 := by
  simp only [compute]
  rw [List.mem_filterMap]
  constructor
  · rintro ⟨need, member, made⟩
    rcases Option.map_eq_some_iff.1 made with ⟨frame, found, rfl⟩
    exact ⟨member, frame, found, rfl, rfl⟩
  · rintro ⟨member, frame, found, counted, computed⟩
    refine ⟨computation.need, member, Option.map_eq_some_iff.2 ⟨frame, found, ?_⟩⟩
    rw [← counted, ← computed]

/-- The needs that computations were made for are those whose timeframe has a frame. -/
theorem map_need_compute (frames : Snapshot) (engine : IndicatorEngine)
    (needs : List IndicatorNeed) :
    (frames.compute engine needs).map Computation.need =
      needs.filter (fun need => (frames.frame? need.1).isSome) := by
  simp only [compute]
  rw [List.map_filterMap, ← List.filterMap_eq_filter]
  congr 1
  funext need
  cases found : frames.frame? need.1 with
  | none => simp [Option.guard, found]
  | some frame => simp [Option.guard, found]

/-- A snapshot that has the frames of another, and on each of them the columns of the computations
made. -/
structure Answers (engine : IndicatorEngine) (frames : Snapshot) (made : List Computation)
    (snapshot : Snapshot) : Prop where
  base : snapshot.base = frames.base
  absent : ∀ timeframe, frames.frame? timeframe = none → snapshot.frame? timeframe = none
  present : ∀ timeframe bare, frames.frame? timeframe = some bare →
    ∃ frame, snapshot.frame? timeframe = some frame ∧ frame.candles = bare.candles ∧
      ∀ spec, frame.columns? spec =
        if (timeframe, spec) ∈ made.map Computation.need then engine bare.candles spec else none

variable {engine : IndicatorEngine} {frames snapshot : Snapshot} {made : List Computation}

theorem Answers.start (bare : ∀ timeframe frame, frames.frame? timeframe = some frame →
    frame.indicators = []) : Answers engine frames [] frames where
  base := rfl
  absent _ absent := absent
  present timeframe frame found := by
    refine ⟨frame, found, rfl, ?_⟩
    intro spec
    simp [Frame.columns?, bare timeframe frame found]

theorem Answers.withComputation (answers : Answers engine frames made snapshot)
    {computation : Computation} {needs : List IndicatorNeed}
    (computed : computation ∈ frames.compute engine needs) :
    Answers engine frames (made ++ [computation]) (snapshot.withComputation computation) := by
  rcases mem_compute.1 computed with ⟨-, ownBare, ownFound, -, ownColumns⟩
  rcases answers.present _ _ ownFound with ⟨ownFrame, ownPresent, ownCandles, ownAnswers⟩
  have ownTimeframe := frame?_timeframe ownPresent
  simp only [Snapshot.withComputation]
  cases columns : computation.columns with
  | none =>
      refine ⟨answers.base, answers.absent, ?_⟩
      intro timeframe bare found
      rcases answers.present timeframe bare found with ⟨frame, present, candles, lookups⟩
      refine ⟨frame, present, candles, ?_⟩
      intro spec
      rw [lookups spec]
      by_cases own : (timeframe, spec) = computation.need
      · have unanswered : engine bare.candles spec = none := by
          rw [← own] at ownFound ownColumns
          have sameBare : ownBare = bare := Option.some.inj (ownFound.symm.trans found)
          rw [← sameBare, ← ownColumns, columns]
        simp [unanswered]
      · simp [own]
  | some columns' =>
      simp only [ownPresent]
      refine ⟨answers.base, ?_, ?_⟩
      · intro timeframe absent
        have different : ownFrame.timeframe ≠ timeframe := by
          intro same
          rw [← same, ownTimeframe, ownFound] at absent
          cases absent
        simp [frame?_withFrame, answers.absent timeframe absent, different]
      · intro timeframe bare found
        rw [frame?_withFrame, Frame.withIndicator_timeframe, ownTimeframe]
        by_cases own : computation.need.1 = timeframe
        · subst own
          have sameBare : ownBare = bare := Option.some.inj (ownFound.symm.trans found)
          subst sameBare
          refine ⟨ownFrame.withIndicator computation.need.2 columns', if_pos rfl, ownCandles, ?_⟩
          intro spec
          rw [Frame.columns?_withIndicator, ownAnswers spec]
          by_cases same : computation.need.2 = spec
          · subst same
            simp [← ownColumns, columns]
          · have other : (computation.need.1, spec) ≠ computation.need :=
              fun equal => same (congrArg Prod.snd equal).symm
            simp [same, other]
        · rcases answers.present timeframe bare found with ⟨frame, present, candles, lookups⟩
          refine ⟨frame, (if_neg own).trans present, candles, ?_⟩
          intro spec
          have other : (timeframe, spec) ≠ computation.need :=
            fun equal => own (congrArg Prod.fst equal).symm
          simp [lookups spec, other]

theorem Answers.foldl {needs : List IndicatorNeed} (computations : List Computation)
    (computed : ∀ computation ∈ computations, computation ∈ frames.compute engine needs)
    (answers : Answers engine frames made snapshot) :
    Answers engine frames (made ++ computations)
      (computations.foldl Snapshot.withComputation snapshot) := by
  induction computations generalizing made snapshot with
  | nil => simpa using answers
  | cons computation rest induction =>
      have step := answers.withComputation (computed computation List.mem_cons_self)
      have next := induction
        (fun other member => computed other (List.mem_cons_of_mem _ member)) step
      rw [List.append_assoc] at next
      exact next

end Snapshot

end CandleAlerts
