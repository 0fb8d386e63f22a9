import CandleAlerts.Indicator.Builtin
import CandleAlerts.Proofs.ConditionAnswers
import CandleAlerts.Proofs.GroupSnapshotLaws

/-!
Sharing a snapshot changes no outcome.

An alert can be evaluated by itself, every condition on its own frame with nothing but its own
indicators. On the snapshot of a group it comes to the same outcome, whoever else belongs to the
group.
-/

namespace CandleAlerts

/-! ## Evaluating a condition by itself -/

namespace Condition

/-- The indicators of a condition computed on bars. -/
def columnsAlone (condition : Condition) (engine : IndicatorEngine) (bars : List Candle) :
    List (IndicatorSpec × Columns) :=
  condition.indicators.filterMap (fun spec =>
    (engine bars spec).map (fun columns => (spec, columns)))

/-- Whether a condition is satisfied on bars made for it alone, or what is missing. -/
def satisfiedAlone (condition : Condition) (engine : IndicatorEngine) (base : Timeframe)
    (candles : List Candle) : Except MissingValue Bool :=
  let timeframe := condition.timeframe.resolve base
  match resample? base timeframe candles with
  | none => .error (.frame timeframe)
  | some bars =>
      let frame : Frame :=
        { timeframe, candles := bars, indicators := condition.columnsAlone engine bars }
      frame.satisfies condition

def evaluateAlone (condition : Condition) (engine : IndicatorEngine) (base : Timeframe)
    (candles : List Candle) : Evaluation :=
  match condition.satisfiedAlone engine base candles with
  | .ok satisfied => { satisfied, missing := none }
  | .error missing => { satisfied := false, missing := some missing }

end Condition

/-- Evaluate an alert by itself, every condition alone. -/
def Alert.evaluateAlone (alert : Alert) (engine : IndicatorEngine) (candles : List Candle)
    (latches : Latches) (now : Instant) : LogicOutcome :=
  alert.join (fun condition => condition.evaluateAlone engine alert.timeframe candles) latches
    (.of (.ofFrame alert.symbol { timeframe := alert.timeframe, candles }) now)

namespace Frame

theorem indicatorValue_congr {first second : Frame} {spec : IndicatorSpec}
    (columns : first.columns? spec = second.columns? spec) (component : String) :
    first.indicatorValue spec component = second.indicatorValue spec component := by
  simp only [indicatorValue]
  rw [columns]

/-- Frames with the same candles answer a condition alike if they do so for its indicators. -/
theorem satisfies_congr {first second : Frame} {condition : Condition}
    (candles : first.candles = second.candles)
    (columns : ∀ spec ∈ condition.indicators, first.columns? spec = second.columns? spec) :
    first.satisfies condition = second.satisfies condition := by
  have last : first.last? = second.last? := by rw [last?, last?, candles]
  have previous : first.previous? = second.previous? := by rw [previous?, previous?, candles]
  have subject : first.subjectValue condition.subject = second.subjectValue condition.subject := by
    simp only [subjectValue]
    rw [last]
    cases read : condition.subject with
    | indicator spec component =>
        have computed := columns spec (by simp [Condition.indicators, read])
        simp only [indicatorValue_congr computed]
    | price field => rfl
    | volume => rfl
  have comparand : first.comparandValue condition = second.comparandValue condition := by
    simp only [comparandValue]
    rw [last, previous]
    cases read : condition.comparand with
    | indicator spec component =>
        have computed := columns spec (by simp [Condition.indicators, read])
        simp only [indicatorValue_congr computed]
    | price field bar => cases bar <;> rfl
    | literal value => rfl
    | range low high => rfl
    | absent => rfl
  simp only [satisfies]
  rw [subject, comparand]

/-- What a frame lacks when it cannot answer for some requests. -/
def Lacks (frame : Frame) (specs : List IndicatorSpec) : MissingValue → Prop
  | .frame _ => False
  | .indicator spec => spec ∈ specs ∧ frame.columns? spec = none
  | .noBars | .previousBar | .component _ _ => True

theorem lacks_of_requireFinite (frame : Frame) (specs : List IndicatorSpec) {label : String}
    {value : Float} {reason : MissingValue} (failed : requireFinite label value = .error reason) :
    frame.Lacks specs reason := by
  simp only [requireFinite] at failed
  split at failed
  · cases failed
  · cases failed
    trivial

theorem lacks_of_indicatorValue {frame : Frame} {specs : List IndicatorSpec} {spec : IndicatorSpec}
    (reads : spec ∈ specs) {component : String} {reason : MissingValue}
    (failed : frame.indicatorValue spec component = .error reason) : frame.Lacks specs reason := by
  simp only [indicatorValue] at failed
  cases columns : frame.columns? spec with
  | none =>
      simp only [columns] at failed
      cases failed
      exact ⟨reads, columns⟩
  | some found =>
      simp only [columns] at failed
      split at failed
      · cases failed
        trivial
      · cases failed

theorem lacks_of_subjectValue {frame : Frame} {subject : Subject} {specs : List IndicatorSpec}
    (reads : ∀ spec component, subject = .indicator spec component → spec ∈ specs)
    {reason : MissingValue} (failed : frame.subjectValue subject = .error reason) :
    frame.Lacks specs reason := by
  simp only [subjectValue] at failed
  cases last : frame.last? with
  | none =>
      simp only [last] at failed
      cases failed
      trivial
  | some bar =>
      simp only [last] at failed
      cases subject with
      | indicator spec component =>
          cases value : frame.indicatorValue spec component with
          | error missing =>
              simp only [value] at failed
              cases failed
              exact lacks_of_indicatorValue (reads spec component rfl) value
          | ok value' =>
              simp only [value] at failed
              exact lacks_of_requireFinite frame specs failed
      | price field => exact lacks_of_requireFinite frame specs failed
      | volume => exact lacks_of_requireFinite frame specs failed

theorem lacks_of_comparandValue {frame : Frame} {condition : Condition} {reason : MissingValue}
    (failed : frame.comparandValue condition = .error reason) :
    frame.Lacks condition.indicators reason := by
  simp only [comparandValue] at failed
  cases read : condition.comparand with
  | indicator spec component =>
      have reads : spec ∈ condition.indicators := by simp [Condition.indicators, read]
      simp only [read] at failed
      cases value : frame.indicatorValue spec component with
      | error missing =>
          simp only [value] at failed
          cases failed
          exact lacks_of_indicatorValue reads value
      | ok value' =>
          simp only [value] at failed
          cases finite : requireFinite spec.name value' with
          | error missing =>
              simp only [finite, bind, Except.bind] at failed
              cases failed
              exact lacks_of_requireFinite frame _ finite
          | ok value'' =>
              simp only [finite, bind, Except.bind] at failed
              cases failed
  | price field bar =>
      cases bar with
      | current =>
          simp only [read] at failed
          split at failed
          · cases failed
            trivial
          · cases failed
      | previous =>
          simp only [read] at failed
          split at failed
          · cases failed
            trivial
          · cases failed
  | literal value =>
      simp only [read] at failed
      cases failed
  | range low high =>
      simp only [read] at failed
      cases failed
  | absent =>
      simp only [read] at failed
      cases failed

/-- A frame that cannot answer a condition lacks an indicator of the condition, or a bar, or a
component. -/
theorem lacks_of_satisfies {frame : Frame} {condition : Condition} {reason : MissingValue}
    (failed : frame.satisfies condition = .error reason) :
    frame.Lacks condition.indicators reason := by
  simp only [satisfies] at failed
  cases left : frame.subjectValue condition.subject with
  | error missing =>
      simp only [left, bind, Except.bind] at failed
      cases failed
      apply lacks_of_subjectValue _ left
      intro spec component read
      simp [Condition.indicators, read]
  | ok value =>
      simp only [left, bind, Except.bind] at failed
      split at failed
      · cases failed
      · split at failed
        · cases failed
        · cases right : frame.comparandValue condition with
          | error missing =>
              simp only [right] at failed
              cases failed
              exact lacks_of_comparandValue right
          | ok value' =>
              simp only [right] at failed
              cases failed

end Frame

/-! ## The snapshot of a group -/

section Group

variable (engine : IndicatorEngine)

theorem find?_computed (bars : List Candle) (asked : IndicatorSpec) (specs : List IndicatorSpec) :
    ((specs.filterMap (fun spec => (engine bars spec).map (fun columns => (spec, columns)))).find?
      (fun entry => entry.1.same asked)).map Prod.snd =
      if asked ∈ specs then engine bars asked else none := by
  induction specs with
  | nil => rfl
  | cons spec rest induction =>
      rw [List.filterMap_cons]
      by_cases same : asked = spec
      · subst same
        cases computed : engine bars asked with
        | none =>
            rw [Option.map_none]
            simp only [induction, computed, ite_self]
        | some columns => simp [(IndicatorSpec.same_iff asked asked).2 rfl]
      · have different : spec.same asked = false := by
          rw [Bool.eq_false_iff]
          exact fun answers => same ((IndicatorSpec.same_iff spec asked).1 answers).symm
        cases engine bars spec with
        | none => simpa [same] using induction
        | some columns => simpa [same, different] using induction

/-- On the frame made for a condition alone its indicators are as the engine computes them. -/
theorem Condition.columns?_alone (condition : Condition) (timeframe : Timeframe)
    (bars : List Candle) {spec : IndicatorSpec} (reads : spec ∈ condition.indicators) :
    ({ timeframe, candles := bars, indicators := condition.columnsAlone engine bars } :
      Frame).columns? spec = engine bars spec := by
  have found := find?_computed engine bars spec condition.indicators
  rw [if_pos reads] at found
  exact found

namespace Snapshot

theorem ofGroup_answers (key : GroupKey) (alerts : List Alert) (candles : List Candle) :
    Answers engine (framesOf key (neededTimeframes alerts) candles)
      (ofGroup engine key alerts candles).2 (ofGroup engine key alerts candles).1 := by
  have covers := framesOf_covers key (neededTimeframes alerts) candles
  have start : Answers engine _ [] _ := Answers.start (fun _ _ => covers.indicators_nil)
  have folded := start.foldl (ofGroup engine key alerts candles).2
    (fun computation member => member)
  exact folded

theorem ofGroup_base (key : GroupKey) (alerts : List Alert) (candles : List Candle) :
    (ofGroup engine key alerts candles).1.base = key.timeframe :=
  (ofGroup_answers engine key alerts candles).base.trans
    (framesOf_covers key (neededTimeframes alerts) candles).base

theorem ofGroup_baseFrame? (key : GroupKey) (alerts : List Alert) (candles : List Candle) :
    ∃ frame, (ofGroup engine key alerts candles).1.baseFrame? = some frame ∧
      frame.candles = candles := by
  have bare : (framesOf key (neededTimeframes alerts) candles).frame? key.timeframe =
      some { timeframe := key.timeframe, candles } := by
    rw [(framesOf_covers key (neededTimeframes alerts) candles).frames, if_pos (.inl rfl),
      bareFrame?_base]
  rcases (ofGroup_answers engine key alerts candles).present _ _ bare with ⟨frame, found, same, -⟩
  rw [baseFrame?, ofGroup_base]
  exact ⟨frame, found, same⟩

/-- The moment of a pass depends on the candles of a group only. -/
theorem moment_ofGroup (key : GroupKey) (alerts : List Alert) (candles : List Candle)
    (symbol : String) (now : Instant) :
    PassMoment.of (ofGroup engine key alerts candles).1 now =
      PassMoment.of (.ofFrame symbol { timeframe := key.timeframe, candles }) now := by
  rcases ofGroup_baseFrame? engine key alerts candles with ⟨frame, found, same⟩
  have alone : (ofFrame symbol { timeframe := key.timeframe, candles }).baseFrame? =
      some { timeframe := key.timeframe, candles } := by
    rw [baseFrame?, frame?_ofFrame]
    exact if_pos rfl
  have barTime : (ofGroup engine key alerts candles).1.barTime? =
      (ofFrame symbol { timeframe := key.timeframe, candles }).barTime? := by
    simp [barTime?, lastCandle?, found, alone, Frame.last?, same]
  have barIndex : (ofGroup engine key alerts candles).1.barIndex? =
      (ofFrame symbol { timeframe := key.timeframe, candles }).barIndex? := by
    rw [barIndex?, barIndex?, barTime, ofGroup_base]
    rfl
  simp only [PassMoment.of]
  rw [barTime, barIndex]

/-- On the snapshot of a group a condition of a member is answered as it is alone. -/
theorem satisfies_ofGroup {key : GroupKey} {alerts : List Alert} {alert : Alert}
    (member : alert ∈ alerts) (grouped : GroupKey.of alert = key) {condition : Condition}
    (belongs : condition ∈ alert.conditions) (candles : List Candle) :
    (ofGroup engine key alerts candles).1.satisfies condition =
      condition.satisfiedAlone engine key.timeframe candles := by
  have answers := ofGroup_answers engine key alerts candles
  have timeframes : alert.timeframe = key.timeframe := by rw [← grouped]; rfl
  have needed := mem_neededTimeframes member belongs
  rw [timeframes] at needed
  have bare := (framesOf_covers key (neededTimeframes alerts) candles).frames
    (condition.timeframe.resolve key.timeframe)
  rw [if_pos (.inr needed), bareFrame?] at bare
  unfold satisfies Condition.satisfiedAlone
  rw [ofGroup_base]
  cases bars : resample? key.timeframe (condition.timeframe.resolve key.timeframe) candles with
  | none =>
      rw [bars, Option.map_none] at bare
      simp only [answers.absent _ bare, bars]
  | some bars' =>
      rw [bars, Option.map_some] at bare
      rcases answers.present _ _ bare with ⟨frame, found, same, columns⟩
      simp only [found, bars]
      have sameBars : frame.candles = bars' := same
      refine Frame.satisfies_congr sameBars ?_
      intro spec reads
      rw [condition.columns?_alone engine _ bars' reads, columns spec, if_pos]
      have need := mem_allNeeds member belongs reads
      rw [timeframes] at need
      refine List.mem_map.2
        ⟨⟨(condition.timeframe.resolve key.timeframe, spec), bars'.length, engine bars' spec⟩, ?_,
          rfl⟩
      exact mem_compute.2 ⟨mem_neededIndicators.2 need, _, bare, rfl, rfl⟩

end Snapshot

/-- A member of a group comes to the outcome it comes to by itself. -/
theorem Alert.evaluate_ofGroup {key : GroupKey} {alerts : List Alert} {alert : Alert}
    (member : alert ∈ alerts) (grouped : GroupKey.of alert = key) (candles : List Candle)
    (latches : Latches) (now : Instant) :
    alert.evaluate (Snapshot.ofGroup engine key alerts candles).1 latches now =
      alert.evaluateAlone engine candles latches now := by
  have timeframes : alert.timeframe = key.timeframe := by rw [← grouped]; rfl
  simp only [Alert.evaluate, Alert.evaluateAlone]
  rw [Snapshot.moment_ofGroup engine key alerts candles alert.symbol now, timeframes]
  apply alert.join_congr
  intro condition belongs
  simp only [Condition.evaluateAlone]
  rw [← Snapshot.satisfies_ofGroup engine member grouped belongs candles]
  rfl

end Group

/-! ## Missing values -/

/-- What a condition may miss when it is evaluated by itself: a frame that its timeframe's bars
cannot be made for, or an indicator of its own that the engine does not compute on them. -/
def Condition.MissesAlone (condition : Condition) (engine : IndicatorEngine) (base : Timeframe)
    (candles : List Candle) : MissingValue → Prop
  | .frame timeframe =>
      timeframe = condition.timeframe.resolve base ∧ resample? base timeframe candles = none
  | .indicator spec =>
      spec ∈ condition.indicators ∧
        ∃ bars, resample? base (condition.timeframe.resolve base) candles = some bars ∧
          engine bars spec = none
  | .noBars | .previousBar | .component _ _ => True

theorem Condition.missesAlone {condition : Condition} {engine : IndicatorEngine} {base : Timeframe}
    {candles : List Candle} {reason : MissingValue}
    (missing : (condition.evaluateAlone engine base candles).missing = some reason) :
    condition.MissesAlone engine base candles reason := by
  have failed : condition.satisfiedAlone engine base candles = .error reason := by
    simp only [evaluateAlone] at missing
    split at missing
    · cases missing
    · rename_i other failed
      rw [failed, Option.some.inj missing]
  simp only [satisfiedAlone] at failed
  cases bars : resample? base (condition.timeframe.resolve base) candles with
  | none =>
      simp only [bars] at failed
      cases failed
      exact ⟨rfl, bars⟩
  | some bars' =>
      simp only [bars] at failed
      have lacks := Frame.lacks_of_satisfies failed
      cases reason with
      | frame timeframe => cases lacks
      | indicator spec =>
          refine ⟨lacks.1, bars', bars, ?_⟩
          rw [← condition.columns?_alone engine _ bars' lacks.1]
          exact lacks.2
      | noBars => trivial
      | previousBar => trivial
      | component owner part => trivial

/-! ## Computations -/

theorem Snapshot.frame?_framesOf_of_needed (key : GroupKey) {alerts : List Alert}
    (candles : List Candle) {need : IndicatorNeed} (needed : need ∈ allNeeds alerts) :
    (framesOf key (neededTimeframes alerts) candles).frame? need.1 =
      bareFrame? key candles need.1 := by
  rw [(framesOf_covers key (neededTimeframes alerts) candles).frames]
  exact if_pos (.inr (timeframe_mem_of_mem_allNeeds needed))

theorem Snapshot.nodup_computations (engine : IndicatorEngine) (key : GroupKey)
    (alerts : List Alert) (candles : List Candle) :
    ((ofGroup engine key alerts candles).2.map Computation.need).Nodup := by
  have needs := map_need_compute (framesOf key (neededTimeframes alerts) candles) engine
    (neededIndicators alerts)
  simp only [ofGroup]
  rw [needs]
  exact (nodup_neededIndicators alerts).sublist List.filter_sublist

/-- Every computation is one that an alert needs, made on the bars of its timeframe. -/
theorem Snapshot.mem_computations (engine : IndicatorEngine) (key : GroupKey)
    (alerts : List Alert) (candles : List Candle) (need : IndicatorNeed) :
    need ∈ (ofGroup engine key alerts candles).2.map Computation.need ↔
      need ∈ allNeeds alerts ∧ (resample? key.timeframe need.1 candles).isSome := by
  have needs := map_need_compute (framesOf key (neededTimeframes alerts) candles) engine
    (neededIndicators alerts)
  simp only [ofGroup]
  rw [needs, List.mem_filter, mem_neededIndicators]
  apply and_congr_right
  intro needed
  rw [frame?_framesOf_of_needed key candles needed, bareFrame?, Option.isSome_map]

theorem Snapshot.computation_ofGroup (engine : IndicatorEngine) (key : GroupKey)
    (alerts : List Alert) (candles : List Candle) {computation : Computation}
    (made : computation ∈ (ofGroup engine key alerts candles).2) :
    ∃ bars, resample? key.timeframe computation.need.1 candles = some bars ∧
      computation.candleCount = bars.length ∧
      computation.columns = engine bars computation.need.2 := by
  rcases mem_compute.1 made with ⟨kept, frame, found, counted, computed⟩
  rw [frame?_framesOf_of_needed key candles (mem_neededIndicators.1 kept)] at found
  rcases Option.map_eq_some_iff.1 found with ⟨bars, resampled, rfl⟩
  exact ⟨bars, resampled, counted, computed⟩

/-! ## Groups -/

/-- Evaluating a group on one snapshot is evaluating each alert by itself. What an alert comes to
does not depend on the others or on their order; a missing frame is one that the candles do not make
up, and a missing indicator one that the engine does not compute; and the engine is asked once for
each distinct need whose timeframe has bars, with these bars. -/
theorem Snapshot.shared_evaluation_eq_alone (engine : IndicatorEngine) (key : GroupKey)
    (alerts : List Alert) (grouped : ∀ alert ∈ alerts, GroupKey.of alert = key)
    (candles : List Candle) :
    (∀ alert ∈ alerts, ∀ latches now,
      alert.evaluate (ofGroup engine key alerts candles).1 latches now =
        alert.evaluateAlone engine candles latches now) ∧
    (∀ others : List Alert, (∀ other ∈ others, GroupKey.of other = key) →
      ∀ alert ∈ alerts, alert ∈ others → ∀ latches now,
        alert.evaluate (ofGroup engine key alerts candles).1 latches now =
          alert.evaluate (ofGroup engine key others candles).1 latches now) ∧
    (∀ alert ∈ alerts, ∀ latches now,
      ∀ entry ∈ (alert.evaluate (ofGroup engine key alerts candles).1 latches now).missing,
        ∃ condition ∈ alert.conditions,
          condition.MissesAlone engine key.timeframe candles entry.2) ∧
    (∀ need, ((ofGroup engine key alerts candles).2.map Computation.need).count need =
      if need ∈ allNeeds alerts ∧ (resample? key.timeframe need.1 candles).isSome then 1 else 0) ∧
    (∀ computation ∈ (ofGroup engine key alerts candles).2,
      ∃ bars, resample? key.timeframe computation.need.1 candles = some bars ∧
        computation.candleCount = bars.length ∧
        computation.columns = engine bars computation.need.2) := by
  refine ⟨?_, ?_, ?_, ?_, ?_⟩
  · intro alert member latches now
    exact Alert.evaluate_ofGroup engine member (grouped alert member) candles latches now
  · intro others othersGrouped alert member otherMember latches now
    rw [Alert.evaluate_ofGroup engine member (grouped alert member) candles,
      Alert.evaluate_ofGroup engine otherMember (othersGrouped alert otherMember) candles]
  · intro alert member latches now entry listed
    rw [Alert.evaluate_ofGroup engine member (grouped alert member) candles] at listed
    rcases alert.join_missing _ _ _ entry listed with ⟨condition, belongs, missing⟩
    have timeframes : alert.timeframe = key.timeframe := by rw [← grouped alert member]; rfl
    rw [timeframes] at missing
    exact ⟨condition, belongs, Condition.missesAlone missing⟩
  · intro need
    rw [(nodup_computations engine key alerts candles).count]
    simp only [mem_computations]
  · intro computation made
    exact computation_ofGroup engine key alerts candles made

/-! Three alerts on hourly candles: the same average on the hours, on two hours, and on an hour and
a half, which hours do not make up. -/

def hourKey : GroupKey := { symbol := "X", timeframe := .hour }

def averageAlert (id : String) (timeframe : TimeframeChoice) : Alert :=
  { id, ownerId := "owner", symbol := "X", timeframe := hourKey.timeframe
    logic := .conditions
      [{ subject := .price .close, operator := .greater
         comparand := .indicator (.named "SMA") "value", timeframe, percentage := none }] .all
    fireMode := .perBar, action := .nothing }

def everyHour : Alert := averageAlert "hour" .same
def everyTwoHours : Alert := averageAlert "two" (.specific ⟨7200, by decide, by decide⟩)
def everyNinetyMinutes : Alert := averageAlert "ninety" (.specific ⟨5400, by decide, by decide⟩)

def risingCandles : List Candle :=
  [⟨0, 1, 1, 1, 1, 1⟩, ⟨3600, 2, 2, 2, 2, 1⟩, ⟨7200, 5, 5, 5, 5, 1⟩]

theorem three_timeframes_share_one_snapshot :
    let alerts := [everyHour, everyTwoHours, everyNinetyMinutes]
    let shared := Snapshot.ofGroup builtinIndicators hourKey alerts risingCandles
    (∀ alert ∈ alerts, GroupKey.of alert = hourKey) ∧
      (everyTwoHours.evaluate shared.1 Table.empty ⟨7300, 0⟩).triggered = true ∧
      (everyNinetyMinutes.evaluate shared.1 Table.empty ⟨7300, 0⟩).triggered = false ∧
      (shared.2.map Computation.need).count (⟨7200, by decide, by decide⟩, .named "SMA") = 1 ∧
      (shared.2.map Computation.need).count (⟨5400, by decide, by decide⟩, .named "SMA") = 0 := by
  intro alerts shared
  have grouped : ∀ alert ∈ alerts, GroupKey.of alert = hourKey := by decide
  rcases Snapshot.shared_evaluation_eq_alone builtinIndicators hourKey alerts grouped
    risingCandles with ⟨alone, -, -, counts, -⟩
  have two : everyTwoHours ∈ alerts := by simp [alerts]
  have ninety : everyNinetyMinutes ∈ alerts := by simp [alerts]
  refine ⟨grouped, ?_, ?_, ?_, ?_⟩
  · rw [alone everyTwoHours two]
    decide +kernel
  · rw [alone everyNinetyMinutes ninety]
    decide
  · rw [counts]
    decide
  · rw [counts]
    decide

end CandleAlerts
