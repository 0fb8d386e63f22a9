import CandleAlerts.Alert.Runtime
import CandleAlerts.Proofs.InstantTexts
import CandleAlerts.Proofs.JsonMembers

/-!
The states of alerts as texts.

A state holds no doubles, so its JSON is read back as it was written; the reader of each part then
finds the fields again. So a state is read back from its text, whatever its latches and counters, as
long as its words, counts and instants are what they stand for.
-/

namespace CandleAlerts

/-! ## JSON that is read back as it is -/

namespace Json

/-- A value that the reader keeps and that its text stands for as it is. -/
structure ReadsBack (room : Nat) (value : Json) : Prop where
  readable : value.Readable room
  reread : value.reread = value

theorem rereadMembers_eq_self {members : List (String × Json)}
    (each : ∀ member ∈ members, member.2.reread = member.2) : rereadMembers members = members := by
  induction members with
  | nil => rfl
  | cons member rest induction =>
      rw [rereadMembers, each member List.mem_cons_self,
        induction (fun other among => each other (List.mem_cons_of_mem _ among))]

namespace ReadsBack

variable {room : Nat}

theorem null : Json.null.ReadsBack room := ⟨trivial, rfl⟩

theorem boolean (value : Bool) : (Json.boolean value).ReadsBack room := ⟨trivial, rfl⟩

theorem string (text : String) : (Json.string text).ReadsBack room := ⟨trivial, rfl⟩

theorem ofInt {value : Int} (holds : Word.Holds value) : (Json.ofInt value).ReadsBack room := by
  have readable : (Json.ofInt value).Readable room := readable_ofInt holds
  exact ⟨readable, congrArg Json.number (Number.reread_integer readable)⟩

theorem ofNat {value : Nat} (below : value < UInt64.size) : (Json.ofNat value).ReadsBack room := by
  have kept : (Number.integer value).Kept := by
    refine ⟨?_, Int.ofNat_lt.mpr below⟩
    unfold Word.least
    omega
  exact ⟨kept, congrArg Json.number (Number.reread_integer kept)⟩

theorem object {members : List (String × Json)}
    (each : ∀ member ∈ members, member.2.ReadsBack room) :
    (Json.object members).ReadsBack (room + 1) where
  readable := ⟨Nat.succ_pos room,
    readableMembers_iff.mpr (fun member among => (each member among).readable)⟩
  reread := by
    rw [Json.reread, rereadMembers_eq_self (fun member among => (each member among).reread)]

theorem ofOption {α : Type} {encode : α → Json} (option : Option α)
    (each : ∀ value, option = some value → (encode value).ReadsBack room) :
    (Json.ofOption encode option).ReadsBack room := by
  cases option with
  | none => exact null
  | some value => exact each value rfl

theorem ofTable {α : Type} {encode : α → Json} (table : Table α)
    (each : ∀ key value, table.get? key = some value → (encode value).ReadsBack room) :
    (Json.ofTable encode table).ReadsBack (room + 1) := by
  refine object ?_
  intro member among
  obtain ⟨entry, listed, rfl⟩ := List.mem_map.mp among
  exact each entry.1 entry.2 ((table.mem_entries_iff entry.1 entry.2).mp listed)

end ReadsBack

/-! ## Decoding what was encoded -/

theorem int64?_ofInt {value : Int} (holds : Word.Holds value) :
    (ofInt value).int64? = some value := if_pos holds

theorem nat?_ofNat {value greatest : Nat} (within : value ≤ greatest) :
    (ofNat value).nat? greatest = some value := by
  have found : (ofNat value).int? 0 greatest = some (value : Int) :=
    if_pos ⟨Int.natCast_nonneg value, Int.ofNat_le.mpr within⟩
  rw [nat?, found]
  rfl

/-- A table is read back when each of its values is. -/
theorem table?_ofTable {α : Type} {encode : α → Json} {decode : Json → Option α} (table : Table α)
    (each : ∀ key value, table.get? key = some value → decode (encode value) = some value) :
    table? decode (ofTable encode table) = some table := by
  have entries : ∀ listed : List (String × α), (∀ entry ∈ listed, entry ∈ table.entries) →
      (listed.map (fun entry => (entry.1, encode entry.2))).mapM (fun member =>
        (decode member.2).map (fun read => (member.1, read))) = some listed := by
    intro listed
    induction listed with
    | nil => intro _; rfl
    | cons entry rest induction =>
        intro among
        have answered := (table.mem_entries_iff entry.1 entry.2).mp (among entry List.mem_cons_self)
        rw [List.map_cons, List.mapM_cons, each entry.1 entry.2 answered,
          induction (fun other member => among other (List.mem_cons_of_mem _ member))]
        rfl
  unfold table? ofTable members?
  simp only [Table.mapValues, bind, Option.bind, entries table.entries (fun _ member => member)]
  rw [Table.ofList_entries]
  rfl

section Fields

variable {α : Type} {record : Record} {field : String} {value : Json}
  (given : record.given? field = some value) (decode : Json → Option α)

include given

theorem Record.required?_of_given : record.required? field decode = decode value := by
  rw [required?, given, Option.bind_some]

theorem Record.defaulted?_of_given (default : α) :
    record.defaulted? field default decode = decode value := by
  rw [defaulted?, given]

theorem Record.optional?_of_given (present : value ≠ .null) :
    record.optional? field decode = (decode value).map some := by
  rw [optional?.eq_def, given]
  cases value with
  | null => exact absurd rfl present
  | _ => rfl

end Fields

/-- A field that may be null is read back, if no value is encoded as null. -/
theorem Record.optional?_ofOption {α : Type} {record : Record} {field : String}
    {encode : α → Json} {decode : Json → Option α} {option : Option α}
    (given : record.given? field = some (ofOption encode option))
    (present : ∀ value, encode value ≠ .null)
    (each : ∀ value, option = some value → decode (encode value) = some value) :
    record.optional? field decode = some option := by
  cases option with
  | none =>
      have absent : record.given? field = some .null := given
      rw [optional?.eq_def, absent]
  | some value =>
      rw [optional?_of_given given decode (present value), ofOption, each value rfl,
        Option.map_some]

end Json

/-! ## Latches -/

namespace Instant

theorem readsBack_toJson (instant : Instant) (room : Nat) : instant.toJson.ReadsBack room :=
  .string _

theorem ofJson?_toJson {instant : Instant} (representable : instant.Representable) :
    ofJson? instant.toJson = some instant := by
  rw [ofJson?, toJson, Json.text?, Option.bind_some, parse?_text representable]

end Instant

namespace Latch

/-- Latches whose instants are on the calendar, outside of leap seconds, or whose bar number is a
word and whose count fits 32 bits. -/
def Storable : Latch → Prop
  | time triggeredAt validUntil => triggeredAt.Representable ∧ validUntil.Representable
  | bars triggeredBarIndex validForBars =>
      Word.Holds triggeredBarIndex ∧ validForBars < UInt32.size

theorem readsBack_toJson {latch : Latch} (storable : latch.Storable) (room : Nat) :
    latch.toJson.ReadsBack (room + 1) := by
  cases latch with
  | time triggeredAt validUntil =>
      refine .object ?_
      simp only [List.mem_cons, List.not_mem_nil, or_false]
      rintro member (rfl | rfl | rfl)
      · exact .string _
      · exact triggeredAt.readsBack_toJson room
      · exact validUntil.readsBack_toJson room
  | bars triggeredBarIndex validForBars =>
      refine .object ?_
      simp only [List.mem_cons, List.not_mem_nil, or_false]
      rintro member (rfl | rfl | rfl)
      · exact .string _
      · exact .ofInt storable.1
      · exact .ofNat (Nat.lt_trans storable.2 (by decide))

theorem ofJson?_toJson {latch : Latch} (storable : latch.Storable) :
    ofJson? latch.toJson = some latch := by
  cases latch with
  | time triggeredAt validUntil =>
      obtain ⟨fields, record, tagged, isRecord, first, second⟩ : ∃ fields record,
          Json.tagged? "kind" (time triggeredAt validUntil).toJson = some ("time", fields) ∧
          Json.Record.of? ["triggered_at", "valid_until"] fields = some record ∧
          record.given? "triggered_at" = some triggeredAt.toJson ∧
          record.given? "valid_until" = some validUntil.toJson := ⟨_, _, rfl, rfl, rfl, rfl⟩
      rw [ofJson?, tagged]
      simp only [bind, Option.bind, isRecord, Json.Record.required?_of_given first,
        Json.Record.required?_of_given second, Instant.ofJson?_toJson storable.1,
        Instant.ofJson?_toJson storable.2]
      rfl
  | bars triggeredBarIndex validForBars =>
      obtain ⟨fields, record, tagged, isRecord, first, second⟩ : ∃ fields record,
          Json.tagged? "kind" (bars triggeredBarIndex validForBars).toJson =
            some ("bars", fields) ∧
          Json.Record.of? ["triggered_bar_index", "valid_for_bars"] fields = some record ∧
          record.given? "triggered_bar_index" = some (.ofInt triggeredBarIndex) ∧
          record.given? "valid_for_bars" = some (.ofNat validForBars) :=
        ⟨_, _, rfl, rfl, rfl, rfl⟩
      rw [ofJson?, tagged]
      simp only [bind, Option.bind, isRecord, Json.Record.required?_of_given first,
        Json.Record.required?_of_given second, Json.int64?_ofInt storable.1,
        Json.nat?_ofNat (Nat.le_sub_one_of_lt storable.2)]
      rfl

end Latch

namespace AlertRuntime

/-- States whose latches and words and instants can be stored; their counters always can. -/
structure Storable (runtime : AlertRuntime) : Prop where
  latches : ∀ key latch, runtime.latches.get? key = some latch → latch.Storable
  lastFiredAt : ∀ time, runtime.lastFiredAt = some time → Word.Holds time
  lastEvaluatedAt : ∀ instant, runtime.lastEvaluatedAt = some instant → instant.Representable
  lastTriggeredAt : ∀ instant, runtime.lastTriggeredAt = some instant → instant.Representable

variable {runtime : AlertRuntime}

theorem Storable.readsBack_toJson (storable : runtime.Storable) (room : Nat) :
    runtime.toJson.ReadsBack (room + 3) := by
  refine .object ?_
  simp only [List.mem_cons, List.not_mem_nil, or_false]
  rintro member (rfl | rfl | rfl | rfl | rfl | rfl | rfl)
  · exact .ofTable _ (fun key latch answered =>
      Latch.readsBack_toJson (storable.latches key latch answered) room)
  · exact .ofOption _ (fun time fired => .ofInt (storable.lastFiredAt time fired))
  · exact .ofNat runtime.triggerCount.toNat_lt
  · exact .ofOption _ (fun instant _ => instant.readsBack_toJson _)
  · exact .ofOption _ (fun instant _ => instant.readsBack_toJson _)
  · exact .ofNat (Nat.lt_trans runtime.missingStreak.toNat_lt (by decide))
  · exact .boolean _

theorem Storable.ofJson?_toJson (storable : runtime.Storable) :
    ofJson? runtime.toJson = some runtime := by
  obtain ⟨record, isRecord, latches, fired, count, evaluated, triggered, streak, warned⟩ :
      ∃ record, Json.Record.of? fieldNames runtime.toJson = some record ∧
        record.given? "latches" = some (.ofTable Latch.toJson runtime.latches) ∧
        record.given? "last_fired_at" = some (.ofOption .ofInt runtime.lastFiredAt) ∧
        record.given? "trigger_count" = some (.ofNat runtime.triggerCount.toNat) ∧
        record.given? "last_evaluated_at" =
          some (.ofOption Instant.toJson runtime.lastEvaluatedAt) ∧
        record.given? "last_triggered_at" =
          some (.ofOption Instant.toJson runtime.lastTriggeredAt) ∧
        record.given? "missing_streak" = some (.ofNat runtime.missingStreak.toNat) ∧
        record.given? "warned_unresolvable" = some (.boolean runtime.warnedUnresolvable) :=
    ⟨_, rfl, rfl, rfl, rfl, rfl, rfl, rfl, rfl⟩
  have latchesRead := Json.table?_ofTable runtime.latches (fun key latch answered =>
    Latch.ofJson?_toJson (storable.latches key latch answered))
  have countRead : (Json.ofNat runtime.triggerCount.toNat).nat? (UInt64.size - 1) =
      some runtime.triggerCount.toNat :=
    Json.nat?_ofNat (Nat.le_sub_one_of_lt runtime.triggerCount.toNat_lt)
  have streakRead : (Json.ofNat runtime.missingStreak.toNat).nat? (UInt32.size - 1) =
      some runtime.missingStreak.toNat :=
    Json.nat?_ofNat (Nat.le_sub_one_of_lt runtime.missingStreak.toNat_lt)
  have firedRead := Json.Record.optional?_ofOption fired (by intro value; nofun)
    (fun time fired => Json.int64?_ofInt (storable.lastFiredAt time fired))
  have evaluatedRead := Json.Record.optional?_ofOption evaluated (by intro value; nofun)
    (fun instant held => Instant.ofJson?_toJson (storable.lastEvaluatedAt instant held))
  have triggeredRead := Json.Record.optional?_ofOption triggered (by intro value; nofun)
    (fun instant held => Instant.ofJson?_toJson (storable.lastTriggeredAt instant held))
  rw [ofJson?, isRecord]
  simp only [bind, Option.bind, Json.Record.defaulted?_of_given latches, latchesRead, firedRead,
    Json.Record.defaulted?_of_given count, countRead, evaluatedRead, triggeredRead,
    Json.Record.defaulted?_of_given streak, streakRead, Json.Record.defaulted?_of_given warned,
    Json.bool?, UInt64.ofNat_toNat, UInt32.ofNat_toNat]
  rfl

/-- A state is read back from its text. -/
theorem parse?_text (storable : runtime.Storable) : parse? runtime.text = some runtime := by
  have readsBack := storable.readsBack_toJson 124
  have object : ∃ members, runtime.toJson = .object members ∧
      ∀ member ∈ members, (Json.Shape.ofFields fieldNames).member member.1 = .whole := by
    refine ⟨_, rfl, ?_⟩
    simp only [List.mem_cons, List.not_mem_nil, or_false]
    rintro member (rfl | rfl | rfl | rfl | rfl | rfl | rfl) <;> rfl
  obtain ⟨members, isObject, whole⟩ := object
  rw [isObject] at readsBack
  have read : Json.readAs? (.ofFields fieldNames) runtime.text =
      some (.object (Json.rereadMembers members)) := by
    rw [text, isObject]
    exact Json.readAs?_compact rfl whole readsBack.readable.2
  have same : Json.object (Json.rereadMembers members) = runtime.toJson := by
    rw [isObject]
    exact readsBack.reread
  rw [parse?, read, same, Option.bind_some, storable.ofJson?_toJson]

end AlertRuntime

end CandleAlerts
