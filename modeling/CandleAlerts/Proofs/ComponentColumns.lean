import CandleAlerts.Indicator.Builtin
import CandleAlerts.Indicator.Component
import CandleAlerts.Proofs.LetterCase
import CandleAlerts.Proofs.TableLaws

/-!
Which column a component is read from.

A component is read from the first of its candidates that is a column. Where only one of the
candidates is a column, the order of the candidates does not matter: that column is read. The
columns of the built-in indicators are named so that this is the case for every way to spell a
component. The zero line has no names besides its own, so without a column of its own it is read
from the indicator's bare column, and is constant only when that is missing too.
-/

namespace CandleAlerts

/-! ## Candidates -/

/-- A spelling of a component without blanks at the ends, in lower case, and with underscores for
spaces and hyphens. -/
def componentSpelling (component : String) : String :=
  Text.replaceChars (Text.asciiLower (Text.trim component)) [' ', '-'] '_'

/-- The other names of the component that is spelled in a given way. -/
def spellingAliases (indicator spelling : String) : List String :=
  match ComponentFamily.ofIndicator? indicator with
  | none => []
  | some family =>
      match family.components.find? (fun entry => entry.1.contains spelling) with
      | some entry => entry.2
      | none => []

theorem componentAliases_eq (indicator component : String) :
    componentAliases indicator component =
      spellingAliases indicator (componentSpelling component) := rfl

theorem mem_columnNames {indicator component name : String} :
    name ∈ columnNames indicator component ↔
      name = indicator ++ "_" ++ component ∨ name = indicator ++ "_" ++ Text.lower component ∨
        name = component := by
  simp [columnNames]

theorem mem_componentCandidates {indicator component name : String} :
    name ∈ componentCandidates indicator component ↔
      (name ∈ columnNames indicator component ∨
        (∃ other ∈ componentAliases indicator component, name ∈ columnNames indicator other) ∨
        name = indicator) ∧ name ≠ "" := by
  simp only [componentCandidates, List.mem_eraseDups, List.mem_filter, List.mem_append,
    List.flatMap_cons, List.mem_flatMap, List.mem_singleton, Bool.not_eq_true', or_assoc]
  refine and_congr_right fun _ => ?_
  rw [← Bool.not_eq_true, String.isEmpty_iff]

/-- Names of which only one can be a column are looked up as that one is. -/
theorem findSome?_get?_eq {columns : Columns} {names : List String} {column : String}
    (among : column ∈ names)
    (alone : ∀ name ∈ names, columns.contains name = true → name = column) :
    names.findSome? columns.get? = columns.get? column := by
  cases found : names.findSome? columns.get? with
  | none => exact (List.findSome?_eq_none_iff.1 found column among).symm
  | some value =>
      obtain ⟨name, member, answered⟩ := List.exists_of_findSome?_eq_some found
      have same := alone name member (Option.isSome_of_eq_some answered)
      rw [← same, answered]

/-- A component is read from `column`: that column is there, and it is the only one among the
candidates. -/
structure Columns.ReadsFrom (columns : Columns) (indicator component column : String) : Prop where
  present : columns.contains column = true
  alone : ∀ name ∈ componentCandidates indicator component,
    columns.contains name = true → name = column
  resolves : resolveComponent? columns indicator component = columns.get? column

theorem Columns.ReadsFrom.of_alone {columns : Columns} {indicator component column : String}
    (present : columns.contains column = true)
    (among : column ∈ componentCandidates indicator component)
    (alone : ∀ name ∈ componentCandidates indicator component,
      columns.contains name = true → name = column) :
    columns.ReadsFrom indicator component column := by
  refine ⟨present, alone, ?_⟩
  obtain ⟨value, answered⟩ := Option.isSome_iff_exists.1 present
  rw [resolveComponent?, findSome?_get?_eq among alone, answered]

/-! ## The zero line -/

/-- Where replacing spaces leaves no hyphen, there were no hyphens to be replaced. -/
theorem replaceChars_hyphen {text spelling : String}
    (replaced : Text.replaceChars text [' '] '_' = spelling) (noHyphen : '-' ∉ spelling.toList) :
    Text.replaceChars text [' ', '-'] '_' = spelling := by
  rw [← replaced] at noHyphen ⊢
  rw [Text.replaceChars, String.toList_ofList] at noHyphen
  refine congrArg String.ofList (List.map_congr_left fun character member => ?_)
  have different : character ≠ '-' := by
    rintro rfl
    exact noHyphen (List.mem_map.2 ⟨'-', member, by decide⟩)
  simp [different]

theorem isZeroLine_iff {indicator component : String} :
    isZeroLine indicator component = true ↔
      Text.startsWith (Text.asciiUpper indicator) "MACD" = true ∧
        (Text.replaceChars (Text.asciiLower (Text.trim component)) [' '] '_' = "zero_line" ∨
          Text.replaceChars (Text.asciiLower (Text.trim component)) [' '] '_' = "zero") := by
  simp [isZeroLine]

theorem componentAliases_of_isZeroLine {indicator component : String}
    (zeroLine : isZeroLine indicator component = true) :
    componentAliases indicator component = [] := by
  rcases isZeroLine_iff.1 zeroLine with ⟨family, spelling⟩
  have spelled : componentSpelling component = "zero_line" ∨ componentSpelling component = "zero" :=
    spelling.imp (replaceChars_hyphen · (by decide)) (replaceChars_hyphen · (by decide))
  have convergence : ComponentFamily.ofIndicator? indicator = some .convergence := if_pos family
  rw [componentAliases_eq, spellingAliases, convergence]
  rcases spelled with same | same <;> rw [same] <;> rfl

theorem ne_empty_of_isZeroLine {indicator component : String}
    (zeroLine : isZeroLine indicator component = true) : indicator ≠ "" := by
  rintro rfl
  cases (isZeroLine_iff.1 zeroLine).1

/-- Without a column of its own, the zero line is what the indicator's bare column says, and zero
when there is no such column. -/
theorem zeroLine_resolves {columns : Columns} {indicator component : String}
    (zeroLine : isZeroLine indicator component = true)
    (absent : ∀ name ∈ columnNames indicator component, columns.contains name = false) :
    resolveComponent? columns indicator component =
      some ((columns.get? indicator).getD 0.0) := by
  have candidate (name : String) : name ∈ componentCandidates indicator component ↔
      (name ∈ columnNames indicator component ∨ name = indicator) ∧ name ≠ "" := by
    rw [mem_componentCandidates, componentAliases_of_isZeroLine zeroLine]
    simp
  have among : indicator ∈ componentCandidates indicator component :=
    (candidate indicator).2 ⟨.inr rfl, ne_empty_of_isZeroLine zeroLine⟩
  have alone : ∀ name ∈ componentCandidates indicator component,
      columns.contains name = true → name = indicator := by
    intro name member there
    rcases ((candidate name).1 member).1 with own | bare
    · rw [absent name own] at there
      cases there
    · exact bare
  rw [resolveComponent?, findSome?_get?_eq among alone]
  cases columns.get? indicator with
  | none => exact if_pos zeroLine
  | some value => rfl

/-- Another component's column does not move the zero line. -/
theorem spaced_zero_line_is_zero :
    isZeroLine "Macd" " Zero Line" = true ∧
    (∀ name ∈ columnNames "Macd" " Zero Line",
      (Table.empty.insert "MACD_Signal" 1.25 : Columns).contains name = false) ∧
    resolveComponent? (Table.empty.insert "MACD_Signal" 1.25) "Macd" " Zero Line" = some 0.0 := by
  have zeroLine : isZeroLine "Macd" " Zero Line" = true := by decide
  have absent : ∀ name ∈ columnNames "Macd" " Zero Line",
      (Table.empty.insert "MACD_Signal" 1.25 : Columns).contains name = false := by decide
  exact ⟨zeroLine, absent, zeroLine_resolves zeroLine absent⟩

/-- A column under the bare name of the indicator moves the zero line. -/
theorem zero_line_follows_bare_column :
    ¬ ∀ (columns : Columns) (indicator component : String), isZeroLine indicator component = true →
      (∀ name ∈ columnNames indicator component, columns.contains name = false) →
      resolveComponent? columns indicator component = some 0.0 := by
  intro constant
  have zero := constant (Table.empty.insert "MACD" 5.0) "MACD" "zero_line" (by decide) (by decide)
  have five : resolveComponent? (Table.empty.insert "MACD" 5.0) "MACD" "zero_line" = some 5.0 :=
    rfl
  rw [five] at zero
  have bits : (5.0 : Float).toBits = (0.0 : Float).toBits :=
    congrArg Float.toBits (Option.some.inj zero)
  revert bits
  decide

/-! ## The built-in indicators -/

/-- A component of a built-in indicator: its column and its spellings. -/
structure BuiltinComponent where
  column : String
  spellings : List String
deriving DecidableEq

def singleColumnIndicators : List String :=
  ["SMA", "MA", "EMA", "RSI", "ATR", "VWAP", "HAMMER", "DOJI", "BULLISH_ENGULFING",
    "BEARISH_ENGULFING"]

def manyColumnIndicators : List String := ["MACD", "BB", "BBANDS", "BOLLINGER", "MA_CROSS"]

/-- The components of a built-in indicator with several columns. -/
def builtinComponents (indicator : String) : List BuiltinComponent :=
  if indicator = "MACD" then
    [⟨"MACD_MACD", ["macd_line", "macd", "line", "value"]⟩,
     ⟨"MACD_Signal", ["signal_line", "signal"]⟩,
     ⟨"MACD_Histogram", ["histogram", "hist"]⟩]
  else if indicator = "MA_CROSS" then
    [⟨"fast_ma", ["fast", "fast_ma", "ma_fast"]⟩,
     ⟨"slow_ma", ["slow", "slow_ma", "ma_slow"]⟩]
  else
    [⟨indicator ++ "_Upper", ["upper", "upper_band"]⟩,
     ⟨indicator ++ "_Middle", ["middle", "middle_band", "basis"]⟩,
     ⟨indicator ++ "_Lower", ["lower", "lower_band"]⟩]

/-- What a column name says behind the indicator's name, if it continues that. -/
def columnEnding? (indicator name : String) : Option (List Char) :=
  name.toList.dropPrefix? (indicator.toList ++ ['_'])

theorem columnEnding?_eq (indicator component : String) :
    columnEnding? indicator (indicator ++ "_" ++ component) = some component.toList := by
  rw [columnEnding?, List.dropPrefix?_eq_some_iff]
  refine ⟨indicator.toList ++ ['_'], ?_, BEq.rfl⟩
  rw [String.toList_append, String.toList_append]
  rfl

/-- Whether the spellings of a component lead to its own column among `names` and to no other. A
name that continues the indicator's has a capital letter there, so that no component in lower case
finds it by chance. -/
structure ToldApart (indicator : String) (names : List String) (part : BuiltinComponent) :
    Prop where
  aliased : ∀ spelling ∈ part.spellings, ∃ other ∈ spellingAliases indicator spelling,
    part.column ∈ columnNames indicator other
  only : ∀ spelling ∈ part.spellings, ∀ other ∈ spellingAliases indicator spelling,
    ∀ name ∈ names, name ∈ columnNames indicator other → name = part.column
  bare : indicator ∉ names
  spelled : ∀ name ∈ names, componentSpelling name ∈ part.spellings → name = part.column
  ended : ∀ name ∈ names, ∀ ending ∈ columnEnding? indicator name,
    componentSpelling (String.ofList ending) ∈ part.spellings → name = part.column
  mixed : ∀ name ∈ names, ∀ ending ∈ columnEnding? indicator name,
    ending.any Char.isUpper = true

instance (indicator : String) (names : List String) (part : BuiltinComponent) :
    Decidable (ToldApart indicator names part) :=
  decidable_of_iff (_ ∧ _ ∧ _ ∧ _ ∧ _ ∧ _)
    ⟨fun ⟨aliased, only, bare, spelled, ended, mixed⟩ =>
        ⟨aliased, only, bare, spelled, ended, mixed⟩,
      fun ⟨aliased, only, bare, spelled, ended, mixed⟩ =>
        ⟨aliased, only, bare, spelled, ended, mixed⟩⟩

namespace ToldApart

variable {indicator component : String} {names : List String} {part : BuiltinComponent}

/-- The component as it is given, in lower case, and under its aliases finds one column at most. -/
theorem alone (apart : ToldApart indicator names part)
    (spelled : componentSpelling component ∈ part.spellings) :
    ∀ name ∈ componentCandidates indicator component, name ∈ names → name = part.column := by
  intro name candidate there
  rw [mem_componentCandidates, componentAliases_eq] at candidate
  rcases candidate.1 with own | ⟨other, listed, named⟩ | same
  · rcases mem_columnNames.1 own with same | same | same
    · have ending : columnEnding? indicator name = some component.toList := by
        rw [same, columnEnding?_eq]
      refine apart.ended name there component.toList ending ?_
      rw [String.ofList_toList]
      exact spelled
    · have ending : columnEnding? indicator name = some (Text.lower component).toList := by
        rw [same, columnEnding?_eq]
      obtain ⟨character, member, upper⟩ := List.any_eq_true.1 (apart.mixed name there _ ending)
      rw [Text.lower_isLower component character member] at upper
      cases upper
    · rw [← same] at spelled
      exact apart.spelled name there spelled
  · exact apart.only _ spelled other listed name there named
  · exact absurd (same ▸ there) apart.bare

theorem readsFrom (apart : ToldApart indicator names part) {columns : Columns}
    (named : ∀ name, columns.contains name = true ↔ name ∈ names) (listed : part.column ∈ names)
    (nonempty : part.column ≠ "") (spelled : componentSpelling component ∈ part.spellings) :
    columns.ReadsFrom indicator component part.column := by
  refine .of_alone ((named _).2 listed) ?_ fun name candidate there =>
    apart.alone spelled name candidate ((named name).1 there)
  rw [mem_componentCandidates, componentAliases_eq]
  exact ⟨.inr (.inl (apart.aliased _ spelled)), nonempty⟩

end ToldApart

theorem builtinComponents_toldApart : ∀ indicator ∈ manyColumnIndicators,
    ∀ part ∈ builtinComponents indicator, part.column ≠ "" ∧
      ToldApart indicator ((builtinComponents indicator).map BuiltinComponent.column) part := by
  decide +kernel

/-- The spellings are those of the indicator's family. -/
theorem builtinComponents_spellings : ∀ indicator ∈ manyColumnIndicators,
    (ComponentFamily.ofIndicator? indicator).map (fun family =>
        family.components.map Prod.fst) =
      some ((builtinComponents indicator).map BuiltinComponent.spellings) := by
  decide +kernel

/-- An only column, named like the indicator, is what every component is read from. -/
theorem Columns.ReadsFrom.of_single {columns : Columns} {name : String} (given : name ≠ "")
    (named : ∀ other, columns.contains other = true ↔ other = name) (component : String) :
    columns.ReadsFrom name component name := by
  refine .of_alone ((named name).2 rfl) ?_ fun other _ there => (named other).1 there
  rw [mem_componentCandidates]
  exact ⟨.inr (.inr rfl), given⟩

/-! ### Their columns -/

theorem contains_insert {columns : Columns} {key name : String} {value : Float} :
    (columns.insert key value).contains name = true ↔
      name = key ∨ columns.contains name = true := by
  rw [Table.contains, Table.get?_insert, Table.contains]
  split
  · next same => simp [same]
  · next different => simp [Ne.symm different]

theorem contains_single {column name : String} {value : Float} :
    (Table.empty.insert column value : Columns).contains name = true ↔ name = column := by
  rw [contains_insert]
  simp [Table.contains]

theorem contains_convergenceColumns {closes : List Float} {spec : IndicatorSpec}
    {columns : Columns} (computed : convergenceColumns closes spec = some columns)
    (name : String) :
    columns.contains name = true ↔
      name = "MACD_Histogram" ∨ name = "MACD_Signal" ∨ name = "MACD_MACD" := by
  obtain ⟨line, -, rfl⟩ := Option.map_eq_some_iff.1 computed
  rw [contains_insert, contains_insert]
  exact or_congr_right (or_congr_right contains_single)

theorem contains_bandColumns (closes : List Float) (spec : IndicatorSpec) (name : String) :
    (bandColumns closes spec).contains name = true ↔
      name = spec.name ++ "_Lower" ∨ name = spec.name ++ "_Middle" ∨
        name = spec.name ++ "_Upper" := by
  rw [bandColumns, contains_insert, contains_insert]
  exact or_congr_right (or_congr_right contains_single)

/-- What the built-in indicators compute has one column named like the indicator, or a column for
each of its components. -/
theorem builtinIndicators_columns {candles : List Candle} {spec : IndicatorSpec}
    {columns : Columns} (computed : builtinIndicators candles spec = some columns) :
    (spec.name ∈ singleColumnIndicators ∧
      ∀ name, columns.contains name = true ↔ name = spec.name) ∨
    (spec.name ∈ manyColumnIndicators ∧ ∀ name, columns.contains name = true ↔
      name ∈ (builtinComponents spec.name).map BuiltinComponent.column) := by
  have single {value : Float} (among : spec.name ∈ singleColumnIndicators)
      (only : (Table.empty.insert spec.name value : Columns) = columns) :
      spec.name ∈ singleColumnIndicators ∧
        ∀ name, columns.contains name = true ↔ name = spec.name :=
    ⟨among, fun _ => only ▸ contains_single⟩
  have nonempty : candles.isEmpty ≠ true := by
    intro empty
    rw [builtinIndicators, if_pos empty] at computed
    cases computed
  rw [builtinIndicators, if_neg nonempty] at computed
  dsimp only at computed
  by_cases simple : spec.name = "SMA" ∨ spec.name = "MA"
  · rw [if_pos simple] at computed
    exact .inl (single (by rcases simple with same | same <;> rw [same] <;> decide)
      (Option.some.inj computed))
  rw [if_neg simple] at computed
  by_cases exponential : spec.name = "EMA"
  · rw [if_pos exponential] at computed
    exact .inl (single (by rw [exponential]; decide) (Option.some.inj computed))
  rw [if_neg exponential] at computed
  by_cases strength : spec.name = "RSI"
  · rw [if_pos strength] at computed
    exact .inl (single (by rw [strength]; decide) (Option.some.inj computed))
  rw [if_neg strength] at computed
  by_cases convergence : spec.name = "MACD"
  · rw [if_pos convergence] at computed
    refine .inr ⟨by rw [convergence]; decide, fun name => ?_⟩
    rw [contains_convergenceColumns computed, convergence, or_rotate, or_left_comm]
    simp only [builtinComponents, if_true, List.map_cons, List.map_nil, List.mem_cons,
      List.not_mem_nil, or_false]
  rw [if_neg convergence] at computed
  by_cases band : spec.name = "BB" ∨ spec.name = "BBANDS" ∨ spec.name = "BOLLINGER"
  · rw [if_pos band] at computed
    have many : spec.name ∈ manyColumnIndicators ∧ spec.name ≠ "MA_CROSS" := by
      rcases band with same | same | same <;> rw [same] <;> decide
    refine .inr ⟨many.1, fun name => ?_⟩
    rw [← Option.some.inj computed, contains_bandColumns, or_rotate, or_left_comm]
    simp only [builtinComponents, if_neg convergence, if_neg many.2, List.map_cons, List.map_nil,
      List.mem_cons, List.not_mem_nil, or_false]
  rw [if_neg band] at computed
  by_cases range : spec.name = "ATR"
  · rw [if_pos range] at computed
    exact .inl (single (by rw [range]; decide) (Option.some.inj computed))
  rw [if_neg range] at computed
  by_cases volume : spec.name = "VWAP"
  · rw [if_pos volume] at computed
    exact .inl (single (by rw [volume]; decide) (Option.some.inj computed))
  rw [if_neg volume] at computed
  by_cases cross : spec.name = "MA_CROSS"
  · rw [if_pos cross] at computed
    refine .inr ⟨by rw [cross]; decide, fun name => ?_⟩
    have listed : (builtinComponents "MA_CROSS").map BuiltinComponent.column =
      ["fast_ma", "slow_ma"] := rfl
    rw [← Option.some.inj computed, contains_insert, cross, listed, List.mem_pair, or_comm]
    exact or_congr_left contains_single
  rw [if_neg cross] at computed
  split at computed
  · next pattern found =>
      obtain ⟨shown, -, only⟩ := Option.map_eq_some_iff.1 computed
      have same : pattern.name = spec.name := by simpa using List.find?_some found
      exact .inl (single (by rw [← same]; cases pattern <;> decide) only)
  · cases computed

/-! ### Reading them -/

/-- Every component of a built-in indicator is read from its own column, in all of its spellings,
and from no other. An indicator with one column is read from it under any component at all. -/
theorem builtin_components_resolve {candles : List Candle} {spec : IndicatorSpec}
    {columns : Columns} (computed : builtinIndicators candles spec = some columns) :
    (spec.name ∈ singleColumnIndicators ∧
      ∀ component, columns.ReadsFrom spec.name component spec.name) ∨
    (spec.name ∈ manyColumnIndicators ∧
      (ComponentFamily.ofIndicator? spec.name).map (fun family =>
          family.components.map Prod.fst) =
        some ((builtinComponents spec.name).map BuiltinComponent.spellings) ∧
      ∀ part ∈ builtinComponents spec.name, ∀ component,
        componentSpelling component ∈ part.spellings →
        columns.ReadsFrom spec.name component part.column) := by
  rcases builtinIndicators_columns computed with ⟨single, named⟩ | ⟨many, named⟩
  · have nonempty : ∀ name ∈ singleColumnIndicators, name ≠ "" := by decide
    exact .inl ⟨single, .of_single (nonempty _ single) named⟩
  · refine .inr ⟨many, builtinComponents_spellings _ many, ?_⟩
    intro part listed component spelled
    rcases builtinComponents_toldApart _ many part listed with ⟨nonempty, apart⟩
    exact apart.readsFrom named (List.mem_map_of_mem listed) nonempty spelled

/-- A cross of two averages of one bar: the fast one under a name with a space in it. -/
theorem fast_average_is_read :
    ∃ columns,
      builtinIndicators [⟨0, 1.0, 2.0, 0.5, 1.5, 10.0⟩] (.named "ma_cross") = some columns ∧
      columns.ReadsFrom "MA_CROSS" "Fast MA " "fast_ma" := by
  obtain ⟨columns, computed⟩ : ∃ columns,
      builtinIndicators [⟨0, 1.0, 2.0, 0.5, 1.5, 10.0⟩] (.named "ma_cross") = some columns :=
    ⟨_, rfl⟩
  refine ⟨columns, computed, ?_⟩
  rcases builtin_components_resolve computed with ⟨single, -⟩ | ⟨-, -, reads⟩
  · exact absurd single (by decide)
  · exact reads ⟨"fast_ma", ["fast", "fast_ma", "ma_fast"]⟩ (by decide) "Fast MA " (by decide)

end CandleAlerts
