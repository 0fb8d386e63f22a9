import CandleAlerts.Definition.Alert
import CandleAlerts.Proofs.FloatComparison
import CandleAlerts.Proofs.LetterCase
import CandleAlerts.Proofs.NumberTexts
import CandleAlerts.Proofs.TableLaws

/-!
What a definition that is not refused comes to.

Whatever the definition was, the alert read from it is well formed: what must be named is named, the
numbers are finite, and each operator stands with a right side that it can be compared with.
-/

namespace CandleAlerts

/-! ## Well formed alerts -/

structure IndicatorSpec.WellFormed (spec : IndicatorSpec) : Prop where
  named : spec.name ≠ ""
  upper : Text.IsUpper spec.name
  lower : ∀ entry ∈ spec.parameters.entries, Text.IsLower entry.1
  finite : ∀ entry ∈ spec.parameters.entries, entry.2.isFinite = true

def Subject.WellFormed : Subject → Prop
  | .indicator spec _ => spec.WellFormed
  | .price _ => True
  | .volume => True

/-- The numbers of a right side are finite, and the ends of a range in order. -/
def Comparand.WellFormed : Comparand → Prop
  | .literal value => value.isFinite = true
  | .range low high => low.isFinite = true ∧ high.isFinite = true ∧ low ≤ high
  | .indicator spec _ => spec.WellFormed
  | .price _ _ => True
  | .absent => True

/-- A condition that evaluation has an answer to: the right side is one that the operator compares
with. -/
structure Condition.WellFormed (condition : Condition) : Prop where
  subject : condition.subject.WellFormed
  comparand : condition.comparand.WellFormed
  pattern_iff : condition.operator = .pattern ↔ condition.comparand = .absent
  between_iff : condition.operator = .between ↔ ∃ low high, condition.comparand = .range low high
  pattern_subject : condition.operator = .pattern →
    ∃ spec component, condition.subject = .indicator spec component
  percentage : ∀ value, condition.percentage = some value → value.isFinite = true

/-- A webhook leads to the web, and an empty secret is none. -/
def AlertAction.WellFormed : AlertAction → Prop
  | .webhook url secret =>
      ("http://".toList <+: url.toList ∨ "https://".toList <+: url.toList) ∧ secret ≠ some ""
  | _ => True

structure Alert.WellFormed (alert : Alert) : Prop where
  id : alert.id ≠ ""
  symbol : alert.symbol ≠ ""
  symbol_trimmed : Text.IsTrimmed alert.symbol
  symbol_upper : Text.IsUpper alert.symbol
  conditions_nonempty : alert.conditions ≠ []
  conditions : ∀ condition ∈ alert.conditions, condition.WellFormed
  entries_distinct : ∀ playbook, alert.logic = .playbook playbook →
    (playbook.entries.map PlaybookEntry.id).Nodup
  action : alert.action.WellFormed

/-- The conditions that an alert's logic is made of. -/
def AlertLogic.conditionList (logic : AlertLogic) : List Condition :=
  match logic with
  | .conditions listed _ => listed
  | .playbook book => book.entries.map PlaybookEntry.condition

/-! ## Reading -/

/-- What a computation that may fail binds has not failed when the whole has not. -/
theorem exists_of_bind_eq_ok {ε α β : Type} {first : Except ε α} {next : α → Except ε β}
    {result : β}
    (done : (first >>= next) = .ok result) :
    ∃ value, first = .ok value ∧ next value = .ok result := by
  cases first with
  | error cause => cases done
  | ok value => exact ⟨value, rfl, done⟩

namespace Definition

theorem of_require_eq_ok {α : Type} {field : String} {given : Option α} {value : α}
    (read : require field given = .ok value) : given = some value := by
  cases given with
  | none => cases read
  | some found =>
      cases read
      rfl

theorem number?_isFinite {value : Json} {number : Float} (read : number? value = some number) :
    number.isFinite = true := by
  simp only [number?] at read
  exact (Option.filter_eq_some_iff.1 read).2

theorem requireNumber_isFinite {field : String} {value : Json} {number : Float}
    (read : requireNumber field value = .ok number) : number.isFinite = true := by
  simp only [requireNumber] at read
  split at read
  · rename_i found
    cases read
    exact number?_isFinite found
  · cases read

theorem bounds_isFinite {fields : Fields} {ends : Float × Float}
    (read : bounds fields = .ok ends) : ends.1.isFinite = true ∧ ends.2.isFinite = true := by
  simp only [bounds] at read
  rcases exists_of_bind_eq_ok read with ⟨low, -, read⟩
  rcases exists_of_bind_eq_ok read with ⟨high, -, read⟩
  rcases exists_of_bind_eq_ok read with ⟨lowNumber, lowRead, read⟩
  rcases exists_of_bind_eq_ok read with ⟨highNumber, highRead, read⟩
  cases read
  exact ⟨requireNumber_isFinite lowRead, requireNumber_isFinite highRead⟩

theorem rangeEnds_isFinite {fields : Fields} {ends : Float × Float}
    (read : rangeEnds fields = .ok ends) : ends.1.isFinite = true ∧ ends.2.isFinite = true := by
  simp only [rangeEnds] at read
  split at read
  · rcases exists_of_bind_eq_ok read with ⟨low, lowRead, read⟩
    rcases exists_of_bind_eq_ok read with ⟨high, highRead, read⟩
    cases read
    exact ⟨requireNumber_isFinite lowRead, requireNumber_isFinite highRead⟩
  · exact bounds_isFinite read
  · cases read
  · exact bounds_isFinite read

theorem range_wellFormed {fields : Fields} {comparand : Comparand}
    (read : range fields = .ok comparand) : comparand.WellFormed := by
  simp only [range] at read
  rcases exists_of_bind_eq_ok read with ⟨⟨low, high⟩, endsRead, read⟩
  rcases rangeEnds_isFinite endsRead with ⟨lowFinite, highFinite⟩
  dsimp only at read lowFinite highFinite
  split at read
  · cases read
  · rename_i ordered
    cases read
    exact ⟨lowFinite, highFinite, Float.le_of_not_lt lowFinite highFinite ordered⟩

theorem named_wellFormed {name : String} (given : Text.trim name ≠ "") :
    (IndicatorSpec.named name).WellFormed where
  named := Text.asciiUpper_ne_empty given
  upper := Text.asciiUpper_isUpper _
  lower := nofun
  finite := nofun

theorem withParameter_wellFormed {spec : IndicatorSpec} (wellFormed : spec.WellFormed)
    (name : String) {value : Float} (finite : value.isFinite = true) :
    (spec.withParameter name value).WellFormed := by
  have added : ∀ entry ∈ (spec.withParameter name value).parameters.entries,
      entry = (Text.asciiLower name, value) ∨ entry ∈ spec.parameters.entries := by
    intro entry member
    have answered := (Table.mem_entries_iff _ entry.1 entry.2).1 member
    simp only [IndicatorSpec.withParameter, Table.get?_insert] at answered
    split at answered
    · rename_i key
      exact .inl (Prod.ext key.symm (Option.some.inj answered).symm)
    · exact .inr ((Table.mem_entries_iff _ entry.1 entry.2).2 answered)
  refine ⟨wellFormed.named, wellFormed.upper, ?_, ?_⟩
  · intro entry member
    rcases added entry member with rfl | before
    · exact Text.asciiLower_isLower name
    · exact wellFormed.lower entry before
  · intro entry member
    rcases added entry member with rfl | before
    · exact finite
    · exact wellFormed.finite entry before

theorem withParameters_wellFormed {members : Fields} {spec result : IndicatorSpec}
    (wellFormed : spec.WellFormed) (read : withParameters spec members = .ok result) :
    result.WellFormed := by
  induction members generalizing spec with
  | nil =>
      cases read
      exact wellFormed
  | cons member rest induction =>
      simp only [withParameters, List.foldlM_cons] at read
      rcases exists_of_bind_eq_ok read with ⟨next, nextRead, read⟩
      refine induction ?_ read
      split at nextRead
      · cases nextRead
        exact wellFormed
      · split at nextRead
        · rename_i value found
          cases nextRead
          exact withParameter_wellFormed wellFormed member.1 (number?_isFinite found)
        · cases nextRead

theorem indicatorSpec_wellFormed {fields : Fields} {spec : IndicatorSpec}
    (read : indicatorSpec fields = .ok spec) : spec.WellFormed := by
  simp only [indicatorSpec] at read
  rcases exists_of_bind_eq_ok read with ⟨name, nameRead, read⟩
  have given : Text.trim name ≠ "" := by
    have kept := (Option.filter_eq_some_iff.1 (of_require_eq_ok nameRead)).2
    intro empty
    rw [empty] at kept
    cases kept
  split at read
  · exact withParameters_wellFormed (named_wellFormed given) read
  · rcases exists_of_bind_eq_ok read with ⟨listed, listedRead, read⟩
    exact withParameters_wellFormed
      (withParameters_wellFormed (named_wellFormed given) listedRead) read
  · cases read

theorem literal_wellFormed {fields : Fields} {operator : Operator} {comparand : Comparand}
    (read : literal fields operator = .ok comparand) : comparand.WellFormed := by
  simp only [literal] at read
  split at read
  · exact range_wellFormed read
  · rcases exists_of_bind_eq_ok read with ⟨value, -, read⟩
    rcases exists_of_bind_eq_ok read with ⟨number, numberRead, read⟩
    cases read
    exact requireNumber_isFinite numberRead

/-- Only the operator `between` has a range read for it. -/
theorem literal_range {fields : Fields} {operator : Operator} {low high : Float}
    (read : literal fields operator = .ok (.range low high)) : operator = .between := by
  simp only [literal] at read
  split at read
  · assumption
  · rcases exists_of_bind_eq_ok read with ⟨value, -, read⟩
    rcases exists_of_bind_eq_ok read with ⟨number, -, read⟩
    cases read

theorem otherIndicator_eq {fields : Fields} {comparand : Comparand}
    (read : otherIndicator fields = .ok comparand) :
    ∃ spec component, comparand = .indicator spec component ∧ spec.WellFormed := by
  simp only [otherIndicator] at read
  rcases exists_of_bind_eq_ok read with ⟨given, -, read⟩
  rcases exists_of_bind_eq_ok read with ⟨nested, -, read⟩
  rcases exists_of_bind_eq_ok read with ⟨spec, specRead, read⟩
  cases read
  exact ⟨spec, _, rfl, indicatorSpec_wellFormed specRead⟩

theorem givenComparand_wellFormed {fields : Fields} {operator : Operator} {comparand : Comparand}
    (read : givenComparand fields operator = .ok comparand) :
    comparand.WellFormed ∧ ∀ low high, comparand = .range low high → operator = .between := by
  simp only [givenComparand] at read
  rcases exists_of_bind_eq_ok read with ⟨mode, -, read⟩
  cases mode with
  | literal =>
      refine ⟨literal_wellFormed read, ?_⟩
      rintro low high rfl
      exact literal_range read
  | indicator =>
      rcases otherIndicator_eq read with ⟨spec, component, rfl, wellFormed⟩
      exact ⟨wellFormed, nofun⟩
  | price bar =>
      dsimp only at read
      split at read
      · cases read
        exact ⟨trivial, nofun⟩
      · cases read
  | absent =>
      cases read
      exact ⟨trivial, nofun⟩

/-- A right side that stands with an operator: none for a pattern, a range for `between`, and
something with one value for any other. -/
theorem comparand_wellFormed {fields : Fields} {operator : Operator} {right : Comparand}
    (read : comparand fields operator = .ok right) :
    right.WellFormed ∧ (operator = .pattern ↔ right = .absent) ∧
      (operator = .between ↔ ∃ low high, right = .range low high) := by
  simp only [comparand] at read
  rcases exists_of_bind_eq_ok read with ⟨given, givenRead, read⟩
  rcases givenComparand_wellFormed givenRead with ⟨wellFormed, ranged⟩
  split at read
  · cases read
    exact ⟨trivial, by simp⟩
  · cases read
  · cases read
    exact ⟨trivial, by simp⟩
  · cases read
    exact ⟨wellFormed, by simp⟩
  · cases read
  · rename_i notAbsent notPattern notBetween _ _
    cases read
    refine ⟨wellFormed, ⟨fun pattern => absurd pattern notPattern, ?_⟩,
      ⟨fun between => absurd between notBetween, ?_⟩⟩
    · intro absent
      exact absurd absent notAbsent
    · rintro ⟨low, high, range⟩
      exact ranged low high range

theorem subject_wellFormed {fields : Fields} {left : Subject} (read : subject fields = .ok left) :
    left.WellFormed := by
  unfold subject at read
  extract_lets kind at read
  clear_value kind
  split at read
  · rcases exists_of_bind_eq_ok read with ⟨spec, specRead, read⟩
    cases read
    exact indicatorSpec_wellFormed specRead
  · split at read
    · rcases exists_of_bind_eq_ok read with ⟨field, -, read⟩
      cases read
      trivial
    · split at read
      · cases read
        trivial
      · cases read

theorem percentage_isFinite {fields : Fields} {given : Option Float}
    (read : percentage fields = .ok given) (value : Float) (is : given = some value) :
    value.isFinite = true := by
  simp only [percentage] at read
  split at read
  · cases read
    cases is
  · rename_i raw found
    cases number : requireNumber "percentage" raw with
    | error cause =>
        rw [number] at read
        cases read
    | ok finite =>
        rw [number] at read
        cases read
        cases is
        exact requireNumber_isFinite number

theorem readCondition_wellFormed {value : Json} {condition : Condition}
    (read : readCondition value = .ok condition) : condition.WellFormed := by
  simp only [readCondition] at read
  rcases exists_of_bind_eq_ok read with ⟨fields, -, read⟩
  rcases exists_of_bind_eq_ok read with ⟨given, -, read⟩
  rcases exists_of_bind_eq_ok read with ⟨operator, -, read⟩
  rcases exists_of_bind_eq_ok read with ⟨left, leftRead, read⟩
  split at read
  · cases read
  · cases read
  · rename_i notPrice notVolume
    rcases exists_of_bind_eq_ok read with ⟨right, rightRead, read⟩
    rcases exists_of_bind_eq_ok read with ⟨timeframe, -, read⟩
    rcases exists_of_bind_eq_ok read with ⟨raised, raisedRead, read⟩
    cases read
    rcases comparand_wellFormed rightRead with ⟨rightWellFormed, pattern, between⟩
    refine ⟨subject_wellFormed leftRead, rightWellFormed, pattern, between, ?_,
      percentage_isFinite raisedRead⟩
    rintro rfl
    cases left with
    | indicator spec component => exact ⟨spec, component, rfl⟩
    | price field => exact absurd rfl (notPrice field rfl)
    | volume => exact absurd rfl (notVolume rfl)

theorem id?_ne_empty {fields : Fields} {names : List String} {id : String}
    (read : id? fields names = some id) : id ≠ "" := by
  simp only [id?] at read
  split at read
  · split at read
    · cases read
    · rename_i notEmpty
      cases read
      intro empty
      rw [empty] at notEmpty
      exact notEmpty rfl
  · cases read
    intro empty
    exact Json.numberText_ne_nil _ (String.ofList_eq_empty_iff.1 empty)
  · cases read

theorem readEntry_condition {value : Json} {index : Nat} {entry : PlaybookEntry}
    (read : readEntry value index = .ok entry) :
    ∃ source, readCondition source = .ok entry.condition := by
  simp only [readEntry] at read
  rcases exists_of_bind_eq_ok read with ⟨fields, -, read⟩
  rcases exists_of_bind_eq_ok read with ⟨priority, -, read⟩
  rcases exists_of_bind_eq_ok read with ⟨enabled, -, read⟩
  rcases exists_of_bind_eq_ok read with ⟨connector, -, read⟩
  rcases exists_of_bind_eq_ok read with ⟨validity, -, read⟩
  rcases exists_of_bind_eq_ok read with ⟨validityUnit, -, read⟩
  rcases exists_of_bind_eq_ok read with ⟨condition, conditionRead, read⟩
  cases read
  exact ⟨_, conditionRead⟩

theorem ok_of_atIndex {α : Type} {index : Nat} {result : Except DefinitionError α} {value : α}
    (read : atIndex index result = .ok value) : result = .ok value := by
  cases result with
  | error cause => cases read
  | ok found =>
      cases read
      rfl

/-- What holds of the entries of a playbook that have been read. -/
structure EntriesRead (entries : List PlaybookEntry) : Prop where
  conditions : ∀ entry ∈ entries, entry.condition.WellFormed
  distinct : (entries.map PlaybookEntry.id).Nodup

theorem takeEntry_read {before after : List PlaybookEntry} {given : Json × Nat}
    (earlier : EntriesRead before) (read : takeEntry before given = .ok after) :
    EntriesRead after ∧ after ≠ [] := by
  simp only [takeEntry] at read
  rcases exists_of_bind_eq_ok read with ⟨entry, entryRead, read⟩
  split at read
  · cases read
  · rename_i new
    cases read
    refine ⟨⟨?_, ?_⟩, by simp⟩
    · intro other member
      rcases List.mem_append.1 member with inBefore | last
      · exact earlier.conditions other inBefore
      · rw [List.mem_singleton] at last
        subst last
        rcases readEntry_condition (ok_of_atIndex entryRead) with ⟨source, conditionRead⟩
        exact readCondition_wellFormed conditionRead
    · have differs : entry.id ∉ before.map PlaybookEntry.id := by
        intro member
        rcases List.mem_map.1 member with ⟨other, inBefore, same⟩
        exact new (List.any_eq_true.2 ⟨other, inBefore, beq_iff_eq.2 same⟩)
      rw [List.map_append, List.map_singleton]
      exact List.nodup_append.2 ⟨earlier.distinct, List.nodup_singleton _, by
        intro id member other last same
        rw [List.mem_singleton] at last
        exact differs (last ▸ same ▸ member)⟩

theorem foldlM_takeEntry_read {given : List (Json × Nat)} {before after : List PlaybookEntry}
    (earlier : EntriesRead before) (some : before ≠ [] ∨ given ≠ [])
    (read : given.foldlM takeEntry before = .ok after) : EntriesRead after ∧ after ≠ [] := by
  induction given generalizing before with
  | nil =>
      cases read
      exact ⟨earlier, some.resolve_right (fun empty => empty rfl)⟩
  | cons head rest induction =>
      rw [List.foldlM_cons] at read
      rcases exists_of_bind_eq_ok read with ⟨middle, headRead, read⟩
      rcases takeEntry_read earlier headRead with ⟨middleRead, middleSome⟩
      exact induction middleRead (.inl middleSome) read

theorem readPlaybook_entries {value : Json} {fields : Fields} {playbook : Playbook}
    (read : readPlaybook value fields = .ok playbook) :
    EntriesRead playbook.entries ∧ playbook.entries ≠ [] := by
  simp only [readPlaybook] at read
  rcases exists_of_bind_eq_ok read with ⟨⟨items, gateFields⟩, -, read⟩
  dsimp only at read
  split at read
  · cases read
  · rename_i notEmpty
    rcases exists_of_bind_eq_ok read with ⟨gate, -, read⟩
    rcases exists_of_bind_eq_ok read with ⟨entries, entriesRead, read⟩
    cases read
    refine foldlM_takeEntry_read ⟨by simp, by simp⟩ (.inr ?_) entriesRead
    intro empty
    exact notEmpty (by rw [List.zipIdx_eq_nil_iff.1 empty]; rfl)

theorem readConditions_wellFormed {items : List (Json × Nat)} {conditions : List Condition}
    (read : items.mapM (fun given => atIndex given.2 (readCondition given.1)) = .ok conditions) :
    (∀ condition ∈ conditions, condition.WellFormed) ∧ (items ≠ [] → conditions ≠ []) := by
  induction items generalizing conditions with
  | nil =>
      cases read
      simp
  | cons head rest induction =>
      rw [List.mapM_cons] at read
      rcases exists_of_bind_eq_ok read with ⟨condition, conditionRead, read⟩
      rcases exists_of_bind_eq_ok read with ⟨others, othersRead, read⟩
      cases read
      refine ⟨?_, by simp⟩
      intro other member
      rcases List.mem_cons.1 member with same | inRest
      · subst same
        exact readCondition_wellFormed (ok_of_atIndex conditionRead)
      · exact (induction othersRead).1 other inRest

/-- What holds of the logic of an alert that has been read. -/
structure LogicRead (logic : AlertLogic) : Prop where
  nonempty : logic.conditionList ≠ []
  conditions : ∀ condition ∈ logic.conditionList, condition.WellFormed
  distinct : ∀ playbook, logic = .playbook playbook →
    (playbook.entries.map PlaybookEntry.id).Nodup

theorem alertLogic_read {fields : Fields} {logic : AlertLogic}
    (read : alertLogic fields = .ok logic) : LogicRead logic := by
  simp only [alertLogic] at read
  split at read
  · rcases exists_of_bind_eq_ok read with ⟨playbook, playbookRead, read⟩
    cases read
    rcases readPlaybook_entries playbookRead with ⟨entries, some⟩
    refine ⟨?_, ?_, ?_⟩
    · simpa [AlertLogic.conditionList] using some
    · intro condition member
      rcases List.mem_map.1 member with ⟨entry, inEntries, rfl⟩
      exact entries.conditions entry inEntries
    · rintro other ⟨⟩
      exact entries.distinct
  · split at read
    · cases read
    · cases read
    · rename_i items notEmpty _
      rcases exists_of_bind_eq_ok read with ⟨conditions, conditionsRead, read⟩
      rcases exists_of_bind_eq_ok read with ⟨junction, -, read⟩
      cases read
      rcases readConditions_wellFormed conditionsRead with ⟨wellFormed, some⟩
      have nonempty : conditions ≠ [] := some (fun empty =>
        notEmpty (List.zipIdx_eq_nil_iff.1 empty))
      exact ⟨nonempty, wellFormed, nofun⟩

theorem webhook_wellFormed {url : String} {secret : Option String} {action : AlertAction}
    (read : webhook url secret = .ok action) : action.WellFormed := by
  simp only [webhook] at read
  split at read
  · rename_i leads
    cases read
    refine ⟨?_, ?_⟩
    · simpa [Text.startsWith, List.isPrefixOf_iff_prefix] using leads
    · intro empty
      cases (Option.filter_eq_some_iff.1 empty).2
  · cases read

theorem alertAction_wellFormed {fields : Fields} {action : AlertAction}
    (read : alertAction fields = .ok action) : action.WellFormed := by
  unfold alertAction at read
  split at read
  · split at read
    · exact webhook_wellFormed read
    · cases read
      trivial
  · extract_lets named at read
    have wellFormed (given : String × Fields) (read : named given = .ok action) :
        action.WellFormed := by
      simp only [named] at read
      generalize Text.asciiLower (Text.trim given.1) = word at read
      split at read
      · rcases exists_of_bind_eq_ok read with ⟨url, -, read⟩
        exact webhook_wellFormed read
      · split at read
        · cases read
          trivial
        · split at read
          · rcases exists_of_bind_eq_ok read with ⟨botId, -, read⟩
            cases read
            trivial
          · split at read
            · cases read
              trivial
            · cases read
    clear_value named
    split at read
    · rcases exists_of_bind_eq_ok read with ⟨given, -, read⟩
      exact wellFormed given read
    · rcases exists_of_bind_eq_ok read with ⟨given, -, read⟩
      exact wellFormed given read
    · cases read

/-- An alert that has been read from a definition is well formed, whatever the definition. -/
theorem readAlert_wellFormed {value : Json} {mode : FireMode} {alert : Alert}
    (read : readAlert value mode = .ok alert) : alert.WellFormed := by
  simp only [readAlert] at read
  rcases exists_of_bind_eq_ok read with ⟨fields, -, read⟩
  rcases exists_of_bind_eq_ok read with ⟨id, idRead, read⟩
  rcases exists_of_bind_eq_ok read with ⟨symbol, symbolRead, read⟩
  rcases exists_of_bind_eq_ok read with ⟨given, -, read⟩
  rcases exists_of_bind_eq_ok read with ⟨timeframe, -, read⟩
  rcases exists_of_bind_eq_ok read with ⟨logic, logicRead, read⟩
  rcases exists_of_bind_eq_ok read with ⟨fireMode, -, read⟩
  rcases exists_of_bind_eq_ok read with ⟨action, actionRead, read⟩
  cases read
  rcases Option.filter_eq_some_iff.1 (of_require_eq_ok symbolRead) with ⟨symbolGiven, notEmpty⟩
  rcases Option.map_eq_some_iff.1 symbolGiven with ⟨raw, -, rfl⟩
  have logicFacts := alertLogic_read logicRead
  exact
    { id := id?_ne_empty (of_require_eq_ok idRead)
      symbol := fun empty => by
        have isEmpty : (Text.asciiUpper (Text.trim raw)).isEmpty = true := by
          rw [String.isEmpty_iff]
          exact empty
        rw [isEmpty] at notEmpty
        cases notEmpty
      symbol_trimmed := (Text.trim_isTrimmed raw).asciiUpper
      symbol_upper := Text.asciiUpper_isUpper _
      conditions_nonempty := logicFacts.nonempty
      conditions := logicFacts.conditions
      entries_distinct := logicFacts.distinct
      action := alertAction_wellFormed actionRead }

end Definition

end CandleAlerts
