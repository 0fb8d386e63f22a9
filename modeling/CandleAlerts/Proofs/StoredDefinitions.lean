import CandleAlerts.Proofs.JsonMembers
import CandleAlerts.Proofs.SignatureTexts
import CandleAlerts.Proofs.WellFormedDefinitions
import CandleAlerts.Registry.Sync

/-!
Definitions that are read again from storage.

A definition is read when an alert is activated, and its record is read at every synchronization. A
record names its id where the definition does not, so what is read is another value. But an id has
no blanks at its ends any more, and no field but the id goes by the name that was added, so both
readings give the same alert.
-/

namespace CandleAlerts

/-! ## Texts of numbers -/

/-- Text without a blank. -/
def Text.Unblank (text : List Char) : Prop := ∀ character ∈ text, Text.isBlank character = false

namespace Text.Unblank

instance (text : List Char) : Decidable (Unblank text) := List.decidableBAll _ text

theorem nil : Unblank [] := by
  decide

theorem of_allDigits {text : List Char} (all : Decimal.AllDigits text) : Unblank text :=
  fun character member => isBlank_of_isDigit (all character member)

theorem append {first second : List Char} (left : Unblank first) (right : Unblank second) :
    Unblank (first ++ second) := by
  intro character member
  rcases List.mem_append.1 member with inFirst | inSecond
  · exact left character inFirst
  · exact right character inSecond

theorem cons {head : Char} {tail : List Char} (visible : isBlank head = false)
    (rest : Unblank tail) : Unblank (head :: tail) := by
  intro character member
  rcases List.mem_cons.1 member with rfl | inTail
  · exact visible
  · exact rest character inTail

theorem take {text : List Char} (visible : Unblank text) (count : Nat) :
    Unblank (text.take count) :=
  fun character member => visible character (List.mem_of_mem_take member)

theorem drop {text : List Char} (visible : Unblank text) (count : Nat) :
    Unblank (text.drop count) :=
  fun character member => visible character (List.mem_of_mem_drop member)

theorem isTrimmed {text : List Char} (visible : Unblank text) :
    IsTrimmed (String.ofList text) where
  first character found :=
    visible character (List.mem_of_head? (by simpa using found))
  last character found :=
    visible character (List.mem_of_getLast? (by simpa using found))

end Text.Unblank

namespace Decimal

open Text (Unblank)

theorem allDigits_ofGridPoint (count : Nat) (unit : Int) :
    AllDigits (Digits.ofGridPoint count unit).digits := by
  obtain ⟨zeros, parts, -⟩ := Digits.exists_zeros count unit
  have all := AllDigits.toDigits count
  rw [parts, AllDigits.append_iff] at all
  exact all.1

theorem allDigits_shortestFrom (interval : Interval) (point : Int) (remaining digits : Nat) :
    AllDigits (shortestFrom interval point remaining digits).digits := by
  induction remaining generalizing digits with
  | zero => exact allDigits_ofGridPoint _ _
  | succ remaining induction =>
      rw [shortestFrom]
      split
      · exact allDigits_ofGridPoint _ _
      · exact induction _

theorem unblank_zeros (count : Nat) : Unblank (zeros count) :=
  .of_allDigits (.replicate_zero count)

theorem unblank_positional {number : Digits} (digits : Unblank number.digits) (showsPoint : Bool) :
    Unblank (number.positional showsPoint) := by
  simp only [Digits.positional]
  split
  · exact .cons rfl (.cons rfl ((unblank_zeros _).append digits))
  · split
    · refine (digits.append (unblank_zeros _)).append ?_
      cases showsPoint with
      | true => exact .cons rfl (.cons rfl .nil)
      | false => exact .nil
    · exact (digits.take _).append (.cons rfl (digits.drop _))

theorem unblank_scientific {number : Digits} (digits : Unblank number.digits) :
    Unblank number.scientific := by
  have exponent : Unblank (Nat.toDigits 10 (number.point - 1).natAbs) :=
    .of_allDigits (.toDigits _)
  simp only [Digits.scientific]
  refine Unblank.append ?_ (.cons rfl (.cons (by split <;> rfl) exponent))
  split
  · rename_i first second rest parts
    rw [parts] at digits
    exact (digits.take 1).append (.cons rfl (digits.drop 1))
  · exact digits

theorem unblank_writeFloat (number : Float) : Unblank (writeFloat .json number) := by
  have sign : Unblank (if isNegative number then ['-'] else []) := by
    split
    · exact .cons rfl .nil
    · exact .nil
  simp only [writeFloat]
  split
  · decide
  · exact sign.append (by decide)
  · exact sign.append (by decide)
  · rename_i interval magnitude
    have digits : Unblank (shortest interval).digits :=
      .of_allDigits (allDigits_shortestFrom interval _ _ _)
    refine sign.append ?_
    simp only [Digits.inStyle, Style.json]
    split
    · exact unblank_positional digits true
    · exact unblank_scientific digits

theorem unblank_writeInt (number : Int) : Unblank (writeInt number) := by
  have digits : Unblank (Nat.toDigits 10 number.natAbs) := .of_allDigits (.toDigits _)
  simp only [writeInt]
  split
  · exact .cons rfl digits
  · exact digits

end Decimal

theorem Json.unblank_numberText (number : Number) : Text.Unblank (numberText number) := by
  cases number with
  | integer value => exact Decimal.unblank_writeInt value
  | double value => exact Decimal.unblank_writeFloat value

namespace Definition

/-! ## Ids -/

/-- An id has no blanks at its ends. -/
theorem trim_of_id? {fields : Fields} {names : List String} {id : String}
    (read : id? fields names = some id) : Text.trim id = id := by
  apply Text.IsTrimmed.trim_eq
  simp only [id?] at read
  split at read
  · split at read
    · cases read
    · cases read
      exact Text.trim_isTrimmed _
  · cases read
    exact (Json.unblank_numberText _).isTrimmed
  · cases read

/-- An id that is given as the text it is. -/
theorem id?_of_given {fields : Fields} {id : String}
    (given : given? fields "id" = some (.string id)) (trimmed : Text.trim id = id)
    (nonempty : id ≠ "") : id? fields Names.alertId = some id := by
  have first : field? fields Names.alertId = some (.string id) := by
    simp [field?, Names.alertId, given]
  have visible : id.isEmpty = false := by
    rw [Bool.eq_false_iff, ne_eq, String.isEmpty_iff]
    exact nonempty
  simp [id?, first, trimmed, visible]

theorem readAlert_id {members : Fields} {mode : FireMode} {alert : Alert}
    (read : readAlert (.object members) mode = .ok alert) :
    id? members Names.alertId = some alert.id := by
  simp only [readAlert] at read
  obtain ⟨fields, isFields, read⟩ := exists_of_bind_eq_ok read
  cases isFields
  obtain ⟨id, idRead, read⟩ := exists_of_bind_eq_ok read
  obtain ⟨symbol, -, read⟩ := exists_of_bind_eq_ok read
  obtain ⟨given, -, read⟩ := exists_of_bind_eq_ok read
  obtain ⟨timeframe, -, read⟩ := exists_of_bind_eq_ok read
  obtain ⟨logic, -, read⟩ := exists_of_bind_eq_ok read
  obtain ⟨fireMode, -, read⟩ := exists_of_bind_eq_ok read
  obtain ⟨action, -, read⟩ := exists_of_bind_eq_ok read
  cases read
  exact of_require_eq_ok idRead

/-! ## Definitions that differ in how they name their id -/

/-- Whether two definitions give the same for every name but that of the id, and the same id. -/
structure Agree (fields others : Fields) : Prop where
  given : ∀ name, name ≠ "id" → given? fields name = given? others name
  id : id? fields Names.alertId = id? others Names.alertId

namespace Agree

variable {fields others : Fields}

theorem field? (agree : Agree fields others) (names : List String) (noId : "id" ∉ names) :
    Definition.field? fields names = Definition.field? others names := by
  unfold Definition.field?
  induction names with
  | nil => rfl
  | cons name rest induction =>
      rw [List.mem_cons, not_or] at noId
      rw [List.findSome?_cons, List.findSome?_cons, agree.given name (Ne.symm noId.1),
        induction noId.2]

theorem text? (agree : Agree fields others) (names : List String) (noId : "id" ∉ names) :
    Definition.text? fields names = Definition.text? others names := by
  unfold Definition.text?
  rw [agree.field? names noId]

theorem otherId? (agree : Agree fields others) (names : List String) (noId : "id" ∉ names) :
    Definition.id? fields names = Definition.id? others names := by
  unfold Definition.id?
  rw [agree.field? names noId]

theorem readPlaybook (agree : Agree fields others) (value : Json) :
    Definition.readPlaybook value fields = Definition.readPlaybook value others := by
  have outer := agree.text? Names.outerGate (by decide)
  cases value with
  | array items =>
      have gate := agree.text? Names.gate (by decide)
      simp [Definition.readPlaybook, playbookItems, outer, bind, Except.bind, gate]
  | object members =>
      simp only [Definition.readPlaybook, playbookItems, outer]
  | _ => rfl

theorem alertLogic (agree : Agree fields others) :
    Definition.alertLogic fields = Definition.alertLogic others := by
  have playbook := agree.field? Names.playbook (by decide)
  have conditions := agree.field? Names.conditions (by decide)
  have logic := agree.text? Names.logic (by decide)
  simp only [Definition.alertLogic, playbook, conditions, logic, agree.readPlaybook]

theorem alertAction (agree : Agree fields others) :
    Definition.alertAction fields = Definition.alertAction others := by
  have action := agree.field? Names.action (by decide)
  have outerUrl := agree.text? Names.outerUrl (by decide)
  have outerSecret := agree.text? Names.outerSecret (by decide)
  have url := agree.text? Names.url (by decide)
  have secret := agree.text? Names.secret (by decide)
  have botId := agree.otherId? Names.botId (by decide)
  simp only [Definition.alertAction, action, outerUrl, outerSecret]
  cases Definition.field? others Names.action with
  | none => rfl
  | some value =>
      cases value with
      | string kind => simp [bind, Except.bind, url, secret, botId]
      | _ => rfl

theorem readAlert (agree : Agree fields others) (mode : FireMode) :
    Definition.readAlert (.object fields) mode = Definition.readAlert (.object others) mode := by
  have ownerId := agree.otherId? Names.ownerId (by decide)
  have symbol := agree.text? Names.symbol (by decide)
  have timeframe := agree.text? Names.alertTimeframe (by decide)
  have fireMode := agree.text? Names.fireMode (by decide)
  simp only [Definition.readAlert, fieldsOf, bind, Except.bind, agree.id, ownerId, symbol,
    timeframe, fireMode, agree.alertLogic, agree.alertAction]

end Agree

end Definition

/-! ## Records -/

/-- A record whose definition was read, and that goes by the id that was read, is read as the same
alert. -/
theorem AlertRecord.readAlert_of_read {definition : Json} {mode : FireMode} {alert : Alert}
    (normal : definition.normal = definition)
    (read : Definition.readAlert definition mode = .ok alert) :
    (AlertRecord.mk alert.id definition).readAlert mode = .ok alert := by
  cases definition with
  | object members =>
      have idRead := Definition.readAlert_id read
      unfold AlertRecord.readAlert AlertRecord.identified
      cases named : Json.lookup? members "id" with
      | some given => simp only [named, Option.isSome_some, if_true, normal, read]
      | none =>
          simp only [named, Option.isSome_none, Bool.false_eq_true, if_false, Json.normal]
          rw [← read]
          refine Definition.Agree.readAlert ⟨?_, ?_⟩ mode
          · intro name other
            have same : (Json.lookup? members name).map Json.normal =
                Json.lookup? members name := by
              rw [← Json.get?_object, ← Json.get?_normal, normal]
            have absent : Json.lookup? [("id", Json.string alert.id)] name = none := by
              simp [Ne.symm other, Json.lookup?]
            unfold Definition.given?
            rw [Json.lookup?_entries, Json.get?_normalMembers, Json.lookup?_append, absent,
              Option.none_or, same]
          · rw [idRead]
            refine Definition.id?_of_given ?_ (Definition.trim_of_id? idRead)
              (Definition.id?_ne_empty idRead)
            unfold Definition.given?
            rw [Json.lookup?_entries, Json.get?_normalMembers, Json.lookup?_append]
            rfl
  | _ => cases read

end CandleAlerts
