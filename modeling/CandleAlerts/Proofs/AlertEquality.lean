import CandleAlerts.Proofs.SnapshotLaws
import CandleAlerts.Proofs.WellFormedDefinitions

/-!
When two alerts are the same.

The numbers of two alerts are compared as doubles, for which zero equals itself under either sign
and what is no number differs from itself. Sameness of alerts is symmetric and transitive all the
same, and an alert without such values, as every alert that has been read is, is the same as itself.
-/

namespace CandleAlerts

instance optionPartialEquivBEq {α : Type} [BEq α] [PartialEquivBEq α] :
    PartialEquivBEq (Option α) where
  symm := by
    intro left right same
    cases left with
    | none =>
        cases right with
        | none => rfl
        | some value => cases same
    | some leftValue =>
        cases right with
        | none => cases same
        | some rightValue =>
            rw [Option.some_beq_some] at same ⊢
            exact BEq.symm same
  trans := by
    intro left middle right first second
    cases middle with
    | none =>
        cases left with
        | none => exact second
        | some value => cases first
    | some middleValue =>
        cases left with
        | none => cases first
        | some leftValue =>
            cases right with
            | none => cases second
            | some rightValue =>
                rw [Option.some_beq_some] at first second ⊢
                exact BEq.trans first second

instance listPartialEquivBEq {α : Type} [BEq α] [PartialEquivBEq α] :
    PartialEquivBEq (List α) where
  symm := by
    intro left
    induction left with
    | nil =>
        intro right same
        cases right with
        | nil => rfl
        | cons head rest => cases same
    | cons leftHead leftRest induction =>
        intro right same
        cases right with
        | nil => cases same
        | cons rightHead rightRest =>
            rw [List.cons_beq_cons, Bool.and_eq_true] at same ⊢
            exact ⟨BEq.symm same.1, induction same.2⟩
  trans := by
    intro left
    induction left with
    | nil =>
        intro middle right first second
        cases middle with
        | nil => exact second
        | cons head rest => cases first
    | cons leftHead leftRest induction =>
        intro middle right first second
        cases middle with
        | nil => cases first
        | cons middleHead middleRest =>
            cases right with
            | nil => cases second
            | cons rightHead rightRest =>
                rw [List.cons_beq_cons, Bool.and_eq_true] at first second ⊢
                exact ⟨BEq.trans first.1 second.1, induction first.2 second.2⟩

/-- A list is the same as itself when each of its members is. -/
theorem list_beq_self {α : Type} [BEq α] {list : List α}
    (members : ∀ value ∈ list, (value == value) = true) : (list == list) = true := by
  induction list with
  | nil => rfl
  | cons head rest induction =>
      rw [List.cons_beq_cons, Bool.and_eq_true]
      exact ⟨members head List.mem_cons_self,
        induction (fun value member => members value (List.mem_cons_of_mem _ member))⟩

/-! ## The sides of a condition -/

theorem Subject.beq_iff (left right : Subject) : (left == right) = true ↔ left = right := by
  cases left with
  | indicator leftSpec leftComponent =>
      cases right with
      | indicator rightSpec rightComponent =>
          change (leftSpec == rightSpec && leftComponent == rightComponent) = true ↔ _
          rw [Bool.and_eq_true, beq_iff_eq, beq_iff_eq, Subject.indicator.injEq]
      | price field => exact ⟨nofun, nofun⟩
      | volume => exact ⟨nofun, nofun⟩
  | price leftField =>
      cases right with
      | indicator spec component => exact ⟨nofun, nofun⟩
      | price rightField =>
          change (leftField == rightField) = true ↔ _
          rw [beq_iff_eq, Subject.price.injEq]
      | volume => exact ⟨nofun, nofun⟩
  | volume =>
      cases right with
      | indicator spec component => exact ⟨nofun, nofun⟩
      | price field => exact ⟨nofun, nofun⟩
      | volume => exact ⟨fun _ => rfl, fun _ => rfl⟩

instance : LawfulBEq Subject where
  eq_of_beq {left right} := (Subject.beq_iff left right).1
  rfl {subject} := (Subject.beq_iff subject subject).2 rfl

/-- Two right sides are the same when they are equal, or numbers that equal each other. -/
theorem Comparand.beq_iff (left right : Comparand) : (left == right) = true ↔
    match left, right with
    | .literal leftValue, .literal rightValue => (leftValue == rightValue) = true
    | .range leftLow leftHigh, .range rightLow rightHigh =>
        (leftLow == rightLow) = true ∧ (leftHigh == rightHigh) = true
    | left, right => left = right := by
  cases left with
  | literal leftValue => cases right <;> first | exact Iff.rfl | exact ⟨nofun, nofun⟩
  | range leftLow leftHigh =>
      cases right with
      | range rightLow rightHigh =>
          change (leftLow == rightLow && leftHigh == rightHigh) = true ↔ _
          rw [Bool.and_eq_true]
      | _ => exact ⟨nofun, nofun⟩
  | indicator leftSpec leftComponent =>
      cases right with
      | indicator rightSpec rightComponent =>
          change (leftSpec == rightSpec && leftComponent == rightComponent) = true ↔ _ = _
          rw [Bool.and_eq_true, beq_iff_eq, beq_iff_eq, Comparand.indicator.injEq]
      | _ => exact ⟨nofun, nofun⟩
  | price leftField leftBar =>
      cases right with
      | price rightField rightBar =>
          change (leftField == rightField && leftBar == rightBar) = true ↔ _ = _
          rw [Bool.and_eq_true, beq_iff_eq, beq_iff_eq, Comparand.price.injEq]
      | _ => exact ⟨nofun, nofun⟩
  | absent => cases right <;> first | exact ⟨fun _ => rfl, fun _ => rfl⟩ | exact ⟨nofun, nofun⟩

instance : PartialEquivBEq Comparand where
  symm := by
    intro left right same
    rw [Comparand.beq_iff] at same ⊢
    cases left <;> cases right <;>
      first
        | exact BEq.symm same
        | exact ⟨BEq.symm same.1, BEq.symm same.2⟩
        | exact Eq.symm same
  trans := by
    intro left middle right first second
    rw [Comparand.beq_iff] at first second ⊢
    cases left with
    | literal =>
        cases middle with
        | literal =>
            cases right with
            | literal => exact BEq.trans first second
            | _ => cases second
        | _ => cases first
    | range =>
        cases middle with
        | range =>
            cases right with
            | range => exact ⟨BEq.trans first.1 second.1, BEq.trans first.2 second.2⟩
            | _ => cases second
        | _ => cases first
    | indicator =>
        cases middle <;> cases first
        exact second
    | price =>
        cases middle <;> cases first
        exact second
    | absent =>
        cases middle <;> cases first
        exact second

/-! ## Alerts -/

theorem Condition.beq_iff (left right : Condition) : (left == right) = true ↔
    left.subject = right.subject ∧ left.operator = right.operator ∧
      (left.comparand == right.comparand) = true ∧ left.timeframe = right.timeframe ∧
      (left.percentage == right.percentage) = true := by
  change (left.subject == right.subject && (left.operator == right.operator &&
    (left.comparand == right.comparand && (left.timeframe == right.timeframe &&
      left.percentage == right.percentage)))) = true ↔ _
  simp only [Bool.and_eq_true, beq_iff_eq]

instance : PartialEquivBEq Condition where
  symm := by
    intro left right same
    rw [Condition.beq_iff] at same ⊢
    rcases same with ⟨subject, operator, comparand, timeframe, percentage⟩
    exact ⟨subject.symm, operator.symm, BEq.symm comparand, timeframe.symm, BEq.symm percentage⟩
  trans := by
    intro left middle right first second
    rw [Condition.beq_iff] at first second ⊢
    rcases first with ⟨subject, operator, comparand, timeframe, percentage⟩
    rw [subject, operator, timeframe]
    exact ⟨second.1, second.2.1, BEq.trans comparand second.2.2.1, second.2.2.2.1,
      BEq.trans percentage second.2.2.2.2⟩

theorem PlaybookEntry.beq_iff (left right : PlaybookEntry) : (left == right) = true ↔
    ∃ condition, right = { left with condition } ∧ (left.condition == condition) = true := by
  change (left.id == right.id && (left.priority == right.priority &&
    (left.enabled == right.enabled && (left.connector == right.connector &&
      (left.validity == right.validity && (left.validityUnit == right.validityUnit &&
        left.condition == right.condition)))))) = true ↔ _
  simp only [Bool.and_eq_true, beq_iff_eq]
  constructor
  · rintro ⟨id, priority, enabled, connector, validity, unit, condition⟩
    exact ⟨right.condition, by rw [id, priority, enabled, connector, validity, unit], condition⟩
  · rintro ⟨condition, rfl, same⟩
    exact ⟨rfl, rfl, rfl, rfl, rfl, rfl, same⟩

instance : PartialEquivBEq PlaybookEntry where
  symm := by
    intro left right same
    rw [PlaybookEntry.beq_iff] at same ⊢
    rcases same with ⟨condition, rfl, equal⟩
    exact ⟨left.condition, rfl, BEq.symm equal⟩
  trans := by
    intro left middle right first second
    rw [PlaybookEntry.beq_iff] at first second ⊢
    rcases first with ⟨firstCondition, rfl, firstEqual⟩
    rcases second with ⟨secondCondition, rfl, secondEqual⟩
    exact ⟨secondCondition, rfl, BEq.trans firstEqual secondEqual⟩

theorem AlertLogic.beq_iff (left right : AlertLogic) : (left == right) = true ↔
    match left, right with
    | .conditions leftConditions leftLogic, .conditions rightConditions rightLogic =>
        (leftConditions == rightConditions) = true ∧ leftLogic = rightLogic
    | .playbook leftBook, .playbook rightBook =>
        (leftBook.entries == rightBook.entries) = true ∧ leftBook.gate = rightBook.gate
    | _, _ => False := by
  cases left with
  | conditions leftConditions leftLogic =>
      cases right with
      | conditions rightConditions rightLogic =>
          change (leftConditions == rightConditions && leftLogic == rightLogic) = true ↔ _
          rw [Bool.and_eq_true, beq_iff_eq (a := leftLogic)]
      | playbook book => exact ⟨nofun, nofun⟩
  | playbook leftBook =>
      cases right with
      | conditions conditions logic => exact ⟨nofun, nofun⟩
      | playbook rightBook =>
          change (leftBook.entries == rightBook.entries && leftBook.gate == rightBook.gate) = true ↔
            _
          rw [Bool.and_eq_true, beq_iff_eq (a := leftBook.gate)]

instance : PartialEquivBEq AlertLogic where
  symm := by
    intro left right same
    rw [AlertLogic.beq_iff] at same ⊢
    cases left <;> cases right <;>
      first | exact ⟨BEq.symm same.1, same.2.symm⟩ | cases same
  trans := by
    intro left middle right first second
    rw [AlertLogic.beq_iff] at first second ⊢
    cases left <;> cases middle <;> cases right <;>
      first
        | exact ⟨BEq.trans first.1 second.1, first.2.trans second.2⟩
        | exact False.elim first
        | exact False.elim second

theorem Alert.beq_iff (left right : Alert) : (left == right) = true ↔
    ∃ logic, right = { left with logic } ∧ (left.logic == logic) = true := by
  change (left.id == right.id && (left.ownerId == right.ownerId &&
    (left.symbol == right.symbol && (left.timeframe == right.timeframe &&
      (left.logic == right.logic && (left.fireMode == right.fireMode &&
        left.action == right.action)))))) = true ↔ _
  simp only [Bool.and_eq_true, beq_iff_eq]
  constructor
  · rintro ⟨id, ownerId, symbol, timeframe, logic, fireMode, action⟩
    exact ⟨right.logic, by rw [id, ownerId, symbol, timeframe, fireMode, action], logic⟩
  · rintro ⟨logic, rfl, same⟩
    exact ⟨rfl, rfl, rfl, rfl, same, rfl, rfl⟩

instance : PartialEquivBEq Alert where
  symm := by
    intro left right same
    rw [Alert.beq_iff] at same ⊢
    rcases same with ⟨logic, rfl, equal⟩
    exact ⟨left.logic, rfl, BEq.symm equal⟩
  trans := by
    intro left middle right first second
    rw [Alert.beq_iff] at first second ⊢
    rcases first with ⟨firstLogic, rfl, firstEqual⟩
    rcases second with ⟨secondLogic, rfl, secondEqual⟩
    exact ⟨secondLogic, rfl, BEq.trans firstEqual secondEqual⟩

/-! ## Alerts that are the same as themselves -/

def Comparand.HoldsNoNaN : Comparand → Prop
  | .literal value => value.isNaN = false
  | .range low high => low.isNaN = false ∧ high.isNaN = false
  | .indicator _ _ | .price _ _ | .absent => True

structure Condition.HoldsNoNaN (condition : Condition) : Prop where
  comparand : condition.comparand.HoldsNoNaN
  percentage : ∀ value, condition.percentage = some value → value.isNaN = false

/-- Whether the doubles that an alert compares and scales with are numbers. -/
def Alert.HoldsNoNaN (alert : Alert) : Prop :=
  ∀ condition ∈ alert.conditions, condition.HoldsNoNaN

theorem Comparand.HoldsNoNaN.beq_self {comparand : Comparand} (numbers : comparand.HoldsNoNaN) :
    (comparand == comparand) = true := by
  rw [Comparand.beq_iff]
  cases comparand with
  | literal value => exact Float.beq_self_of_not_isNaN numbers
  | range low high =>
      exact ⟨Float.beq_self_of_not_isNaN numbers.1, Float.beq_self_of_not_isNaN numbers.2⟩
  | indicator spec component => rfl
  | price field bar => rfl
  | absent => rfl

theorem Condition.HoldsNoNaN.beq_self {condition : Condition} (numbers : condition.HoldsNoNaN) :
    (condition == condition) = true := by
  rw [Condition.beq_iff]
  refine ⟨rfl, rfl, numbers.comparand.beq_self, rfl, ?_⟩
  cases given : condition.percentage with
  | none => rfl
  | some value => exact Float.beq_self_of_not_isNaN (numbers.percentage value given)

theorem Alert.HoldsNoNaN.beq_self {alert : Alert} (numbers : alert.HoldsNoNaN) :
    (alert == alert) = true := by
  have conditions : ∀ condition ∈ alert.conditions, (condition == condition) = true :=
    fun condition member => (numbers condition member).beq_self
  simp only [Alert.conditions] at conditions
  rw [Alert.beq_iff]
  refine ⟨alert.logic, rfl, ?_⟩
  rw [AlertLogic.beq_iff]
  cases logic : alert.logic with
  | conditions listed junction =>
      rw [logic] at conditions
      exact ⟨list_beq_self conditions, rfl⟩
  | playbook book =>
      rw [logic] at conditions
      refine ⟨list_beq_self ?_, rfl⟩
      intro entry member
      rw [PlaybookEntry.beq_iff]
      exact ⟨entry.condition, rfl, conditions entry.condition (List.mem_map_of_mem member)⟩

theorem Comparand.WellFormed.holdsNoNaN {comparand : Comparand}
    (wellFormed : comparand.WellFormed) : comparand.HoldsNoNaN := by
  cases comparand with
  | literal value => exact Float.not_isNaN_of_isFinite wellFormed
  | range low high =>
      exact ⟨Float.not_isNaN_of_isFinite wellFormed.1, Float.not_isNaN_of_isFinite wellFormed.2.1⟩
  | indicator spec component => trivial
  | price field bar => trivial
  | absent => trivial

theorem Alert.WellFormed.holdsNoNaN {alert : Alert} (wellFormed : alert.WellFormed) :
    alert.HoldsNoNaN := by
  intro condition member
  have sound := wellFormed.conditions condition member
  exact ⟨sound.comparand.holdsNoNaN,
    fun value given => Float.not_isNaN_of_isFinite (sound.percentage value given)⟩

theorem Definition.readAlert_holdsNoNaN {value : Json} {mode : FireMode} {alert : Alert}
    (read : Definition.readAlert value mode = .ok alert) : alert.HoldsNoNaN :=
  (Definition.readAlert_wellFormed read).holdsNoNaN

/-- An alert that has been read from a definition compares equal to itself. -/
theorem Definition.readAlert_beq_self {value : Json} {mode : FireMode} {alert : Alert}
    (read : Definition.readAlert value mode = .ok alert) : (alert == alert) = true :=
  (Definition.readAlert_holdsNoNaN read).beq_self

end CandleAlerts
