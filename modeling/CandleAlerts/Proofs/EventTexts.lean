import CandleAlerts.Proofs.RecordTexts
import CandleAlerts.Proofs.RuntimeTexts
import CandleAlerts.Proofs.SignedDeliveries
import CandleAlerts.Proofs.TimeframeTexts

/-!
The texts of events read back.

An event carries every value of its bar, whichever of them its alert looks at. A value that is not
finite is written as null, and an event is not read with a null for a value. So an event is read
back from its text exactly when all five values are finite.
-/

namespace CandleAlerts

deriving instance DecidableEq for Number

namespace Json

/-- Whether a double, if it is finite, is read back from its JSON text. -/
def KeepsDouble (value : Float) : Prop :=
  value.isFinite = true → number? (numberText (.double value)) = some (.double value)

instance (value : Float) : Decidable (KeepsDouble value) :=
  inferInstanceAs (Decidable (_ → _))

namespace ReadsBack

variable {room : Nat}

theorem ofFloat {value : Float} (keeps : KeepsDouble value) :
    (Json.ofFloat value).ReadsBack room := by
  refine ⟨readable_ofFloat room value, ?_⟩
  unfold Json.ofFloat
  split
  next finite =>
      have same : (Number.double value).reread = .double value := by
        rw [Number.reread, keeps finite]
        rfl
      rw [Json.reread, same]
  next => rfl

theorem rereadItems_eq_self {items : List Json} (each : ∀ item ∈ items, item.reread = item) :
    rereadItems items = items := by
  induction items with
  | nil => rfl
  | cons item rest induction =>
      rw [rereadItems, each item List.mem_cons_self,
        induction (fun other among => each other (List.mem_cons_of_mem _ among))]

theorem ofList {α : Type} {encode : α → Json} (items : List α)
    (each : ∀ item ∈ items, (encode item).ReadsBack room) :
    (Json.ofList encode items).ReadsBack (room + 1) where
  readable := readable_ofList items (fun item among => (each item among).readable)
  reread := by
    rw [Json.ofList, Json.reread, rereadItems_eq_self]
    intro item member
    rcases List.mem_map.mp member with ⟨original, among, rfl⟩
    exact (each original among).reread

end ReadsBack

theorem list?_ofList {α : Type} {encode : α → Json} {decode : Json → Option α} (items : List α)
    (each : ∀ item ∈ items, decode (encode item) = some item) :
    list? decode (ofList encode items) = some items := by
  unfold list? ofList items?
  rw [Option.bind_some]
  induction items with
  | nil => rfl
  | cons item rest induction =>
      rw [List.map_cons, List.mapM_cons, each item List.mem_cons_self,
        induction (fun other among => each other (List.mem_cons_of_mem _ among))]
      rfl

theorem float?_ofFloat {value : Float} (finite : value.isFinite = true) :
    (ofFloat value).float? = some value := by
  rw [ofFloat, if_pos finite]
  rfl

/-- Only a finite double is read as one. -/
theorem isFinite_of_float? {value read : Float}
    (isRead : (ofFloat value).reread.float? = some read) : value.isFinite = true := by
  unfold ofFloat at isRead
  split at isRead
  next finite => exact finite
  next => cases isRead

end Json

/-! ## Values -/

namespace TriggerValue

def doubles (value : TriggerValue) : List Float :=
  [value.price, value.openPrice, value.high, value.low, value.volume]

def IsFinite (value : TriggerValue) : Prop := ∀ double ∈ value.doubles, double.isFinite = true

theorem readsBack_toJson {value : TriggerValue}
    (keeps : ∀ double ∈ value.doubles, Json.KeepsDouble double) (room : Nat) :
    value.toJson.ReadsBack (room + 1) := by
  refine .object ?_
  simp only [List.mem_cons, List.not_mem_nil, or_false]
  rintro member (rfl | rfl | rfl | rfl | rfl) <;> exact .ofFloat (keeps _ (by simp [doubles]))

theorem ofJson?_toJson {value : TriggerValue} (finite : value.IsFinite) :
    ofJson? value.toJson = some value := by
  obtain ⟨record, isRecord, price, openPrice, high, low, volume⟩ :
      ∃ record, Json.Record.of? fieldNames value.toJson = some record ∧
        record.given? "price" = some (.ofFloat value.price) ∧
        record.given? "open" = some (.ofFloat value.openPrice) ∧
        record.given? "high" = some (.ofFloat value.high) ∧
        record.given? "low" = some (.ofFloat value.low) ∧
        record.given? "volume" = some (.ofFloat value.volume) :=
    ⟨_, rfl, rfl, rfl, rfl, rfl, rfl⟩
  have read {double : Float} (member : double ∈ value.doubles) :
      (Json.ofFloat double).float? = some double := Json.float?_ofFloat (finite double member)
  rw [ofJson?, isRecord]
  simp only [bind, Option.bind, Json.Record.required?_of_given price,
    Json.Record.required?_of_given openPrice, Json.Record.required?_of_given high,
    Json.Record.required?_of_given low, Json.Record.required?_of_given volume,
    read (show value.price ∈ value.doubles by simp [doubles]),
    read (show value.openPrice ∈ value.doubles by simp [doubles]),
    read (show value.high ∈ value.doubles by simp [doubles]),
    read (show value.low ∈ value.doubles by simp [doubles]),
    read (show value.volume ∈ value.doubles by simp [doubles])]
  rfl

/-- What is read of a bar was finite. -/
theorem isFinite_of_ofJson? {value read : TriggerValue}
    (isRead : ofJson? value.toJson.reread = some read) : value.IsFinite := by
  obtain ⟨record, isRecord, price, openPrice, high, low, volume⟩ :
      ∃ record, Json.Record.of? fieldNames value.toJson.reread = some record ∧
        record.given? "price" = some (Json.ofFloat value.price).reread ∧
        record.given? "open" = some (Json.ofFloat value.openPrice).reread ∧
        record.given? "high" = some (Json.ofFloat value.high).reread ∧
        record.given? "low" = some (Json.ofFloat value.low).reread ∧
        record.given? "volume" = some (Json.ofFloat value.volume).reread :=
    ⟨_, rfl, rfl, rfl, rfl, rfl, rfl⟩
  rw [ofJson?, isRecord] at isRead
  simp only [bind, Option.bind_some, Option.bind_eq_some_iff,
    Json.Record.required?_of_given price, Json.Record.required?_of_given openPrice,
    Json.Record.required?_of_given high, Json.Record.required?_of_given low,
    Json.Record.required?_of_given volume] at isRead
  rcases isRead with ⟨_, priceRead, _, openRead, _, highRead, _, lowRead, _, volumeRead, -⟩
  intro double member
  simp only [doubles, List.mem_cons, List.not_mem_nil, or_false] at member
  rcases member with rfl | rfl | rfl | rfl | rfl
  · exact Json.isFinite_of_float? priceRead
  · exact Json.isFinite_of_float? openRead
  · exact Json.isFinite_of_float? highRead
  · exact Json.isFinite_of_float? lowRead
  · exact Json.isFinite_of_float? volumeRead

/-- The fields of a value are taken whole. -/
theorem takes_toJson (value : TriggerValue) :
    Json.Takes (.ofFields fieldNames) 1 value.toJson := by
  refine Json.takes_record (by decide) ?_
  simp only [List.mem_cons, List.not_mem_nil, or_false]
  rintro member (rfl | rfl | rfl | rfl | rfl) <;> exact Json.takes_whole (Json.readable_ofFloat _ _)

end TriggerValue

/-! ## Events -/

theorem Json.nullable?_ofOption {α : Type} {encode : α → Json} {decode : Json → Option α}
    {option : Option α} (present : ∀ value, encode value ≠ .null)
    (each : ∀ value, option = some value → decode (encode value) = some value) :
    nullable? decode (ofOption encode option) = some option := by
  cases option with
  | none => rfl
  | some value =>
      have read := each value rfl
      unfold ofOption nullable?
      split
      next isNull => exact absurd isNull (present value)
      next => rw [read, Option.map_some]

theorem Timeframe.ofJson?_text (timeframe : Timeframe) :
    Timeframe.ofJson? (.string timeframe.text) = some timeframe :=
  timeframe.parse?_text

theorem Instant.OnCalendar.ofJson?_toJson {instant : Instant} (onCalendar : instant.OnCalendar) :
    Instant.ofJson? instant.toJson = some instant := by
  rw [Instant.ofJson?, Instant.toJson, Json.text?, Option.bind_some, onCalendar.parse?_text]

namespace TriggerEvent

/-- Events whose bar time is a word and whose instants are on the calendar. -/
structure Dated (event : TriggerEvent) : Prop where
  barTime : Word.Holds event.barTime
  triggeredAt : event.triggeredAt.OnCalendar
  publishedAt : ∀ instant, event.publishedAt = some instant → instant.OnCalendar

variable {event : TriggerEvent}

theorem readsBack_toJson (holds : Word.Holds event.barTime)
    (keeps : ∀ double ∈ event.triggerValue.doubles, Json.KeepsDouble double) (room : Nat) :
    event.toJson.ReadsBack (room + 2) := by
  refine .object ?_
  apply forall_member
  · intro _ _ _ text
    exact .string text
  · intro _ _ _ items
    exact .ofList items (fun _ _ => .string _)
  · exact .ofInt holds
  · exact TriggerValue.readsBack_toJson keeps room
  · exact .ofOption _ (fun _ _ => .string _)
  · rfl

/-- The fields of an event as its reader finds them, but for the bot targets, which may be left
out. -/
structure Given (event : TriggerEvent) (value : Json) (record : Json.Record) : Prop where
  isRecord : Json.Record.of? fieldNames value = some record
  eventId : record.given? "eventId" = some (.string event.eventId)
  conditionId : record.given? "conditionId" = some (.string event.conditionId)
  alertId : record.given? "alertId" = some (.string event.alertId)
  ownerId : record.given? "ownerId" = some (.string event.ownerId)
  symbol : record.given? "symbol" = some (.string event.symbol)
  timeframe : record.given? "timeframe" = some (.string event.timeframe.text)
  triggeredAt : record.given? "triggeredAt" = some event.triggeredAt.toJson
  barTime : record.given? "barTime" = some (.ofInt event.barTime)
  triggerValue : record.given? "triggerValue" = some event.triggerValue.toJson
  satisfied : record.given? "satisfiedConditionIds" =
    some (.ofList .string event.satisfiedConditionIds)
  failed : record.given? "failedConditionIds" = some (.ofList .string event.failedConditionIds)
  publishedAt : record.given? "publishedAt" = some (.ofOption Instant.toJson event.publishedAt)
  botTargets : ∀ decode : Json → Option (List String),
    record.defaulted? "botTargets" [] decode =
      if event.botTargets.isEmpty then some []
      else decode (.ofList .string event.botTargets)

theorem exists_given (event : TriggerEvent) : ∃ record, event.Given event.toJson record := by
  cases none : event.botTargets.isEmpty with
  | true =>
      simp only [toJson, none, if_true]
      refine ⟨_, rfl, rfl, rfl, rfl, rfl, rfl, rfl, rfl, rfl, rfl, rfl, rfl, rfl, ?_⟩
      intro decode
      rw [none, if_pos rfl]
      rfl
  | false =>
      simp only [toJson, none, Bool.false_eq_true, if_false]
      refine ⟨_, rfl, rfl, rfl, rfl, rfl, rfl, rfl, rfl, rfl, rfl, rfl, rfl, rfl, ?_⟩
      intro decode
      rw [none, if_neg Bool.false_ne_true]
      rfl

/-- The JSON of an event with finite values is decoded to the event. -/
theorem ofJson?_toJson (dated : event.Dated) (finite : event.triggerValue.IsFinite) :
    ofJson? event.toJson = some event := by
  rcases event.exists_given with ⟨record, given⟩
  have text {field text : String} (held : record.given? field = some (.string text)) :
      record.required? field Json.text? = some text := Json.Record.required?_of_given held _
  have texts {field : String} {items : List String}
      (held : record.given? field = some (.ofList .string items)) :
      record.required? field (Json.list? Json.text?) = some items :=
    (Json.Record.required?_of_given held _).trans (Json.list?_ofList items (fun _ _ => rfl))
  have timeframe : record.required? "timeframe" Timeframe.ofJson? = some event.timeframe := by
    rw [Json.Record.required?_of_given given.timeframe, Timeframe.ofJson?_text]
  have triggeredAt : record.required? "triggeredAt" Instant.ofJson? = some event.triggeredAt := by
    rw [Json.Record.required?_of_given given.triggeredAt, dated.triggeredAt.ofJson?_toJson]
  have barTime : record.required? "barTime" Json.int64? = some event.barTime :=
    (Json.Record.required?_of_given given.barTime _).trans (Json.int64?_ofInt dated.barTime)
  have triggerValue :
      record.required? "triggerValue" TriggerValue.ofJson? = some event.triggerValue :=
    (Json.Record.required?_of_given given.triggerValue _).trans
      (TriggerValue.ofJson?_toJson finite)
  have bots : record.defaulted? "botTargets" [] (Json.list? Json.text?) =
      some event.botTargets := by
    rw [given.botTargets]
    split
    next none => rw [List.isEmpty_iff.1 none]
    next => exact Json.list?_ofList _ (fun _ _ => rfl)
  have publishedAt : record.defaulted? "publishedAt" none (Json.nullable? Instant.ofJson?) =
      some event.publishedAt := by
    rw [Json.Record.defaulted?_of_given given.publishedAt]
    exact Json.nullable?_ofOption (by intro value; nofun)
      (fun instant held => (dated.publishedAt instant held).ofJson?_toJson)
  rw [ofJson?]
  refine Option.bind_eq_some_iff.2 ⟨record, given.isRecord, ?_⟩
  refine Option.bind_eq_some_iff.2 ⟨_, text given.eventId, ?_⟩
  refine Option.bind_eq_some_iff.2 ⟨_, text given.conditionId, ?_⟩
  refine Option.bind_eq_some_iff.2 ⟨_, text given.alertId, ?_⟩
  refine Option.bind_eq_some_iff.2 ⟨_, text given.ownerId, ?_⟩
  refine Option.bind_eq_some_iff.2 ⟨_, text given.symbol, ?_⟩
  refine Option.bind_eq_some_iff.2 ⟨_, timeframe, ?_⟩
  refine Option.bind_eq_some_iff.2 ⟨_, triggeredAt, ?_⟩
  refine Option.bind_eq_some_iff.2 ⟨_, barTime, ?_⟩
  refine Option.bind_eq_some_iff.2 ⟨_, triggerValue, ?_⟩
  refine Option.bind_eq_some_iff.2 ⟨_, texts given.satisfied, ?_⟩
  refine Option.bind_eq_some_iff.2 ⟨_, texts given.failed, ?_⟩
  refine Option.bind_eq_some_iff.2 ⟨_, bots, ?_⟩
  exact Option.bind_eq_some_iff.2 ⟨_, publishedAt, rfl⟩

/-- An event that is decoded had finite values. -/
theorem isFinite_of_ofJson? {read : TriggerEvent}
    (isRead : ofJson? event.toJson.reread = some read) : event.triggerValue.IsFinite := by
  obtain ⟨record, isRecord, value⟩ :
      ∃ record, Json.Record.of? fieldNames event.toJson.reread = some record ∧
        record.given? "triggerValue" = some event.triggerValue.toJson.reread := by
    cases none : event.botTargets.isEmpty with
    | true =>
        simp only [toJson, none, if_true]
        exact ⟨_, rfl, rfl⟩
    | false =>
        simp only [toJson, none, Bool.false_eq_true, if_false]
        exact ⟨_, rfl, rfl⟩
  rw [ofJson?] at isRead
  rcases Option.bind_eq_some_iff.1 isRead with ⟨_, found, isRead⟩
  obtain rfl := Option.some.inj (isRecord.symm.trans found)
  -- The eight fields before the value say nothing of it.
  iterate 8 rcases Option.bind_eq_some_iff.1 isRead with ⟨_, -, isRead⟩
  rcases Option.bind_eq_some_iff.1 isRead with ⟨_, valueRead, -⟩
  rw [Json.Record.required?_of_given value] at valueRead
  exact TriggerValue.isFinite_of_ofJson? valueRead

theorem shape_member {name : String} (listed : name ∈ fieldNames) (other : name ≠ "triggerValue") :
    Json.Shape.member shape name = .whole := by
  simp only [fieldNames, List.mem_cons, List.not_mem_nil, or_false] at listed
  rcases listed with rfl | rfl | rfl | rfl | rfl | rfl | rfl | rfl | rfl | rfl | rfl | rfl | rfl
  all_goals first | rfl | exact absurd rfl other

/-- The fields of an event are taken as far as they are wanted. -/
theorem takes_toJson (holds : Word.Holds event.barTime) : Json.Takes shape 0 event.toJson := by
  refine Json.takes_record (by decide) ?_
  have whole {name : String} {value : Json} (isWhole : Json.Shape.member shape name = .whole)
      (readable : value.Readable (Json.maximalDepth - 1)) :
      Json.Takes (Json.Shape.member shape name) 1 value :=
    isWhole ▸ Json.takes_whole readable
  apply forall_member
  · intro name listed other text
    exact whole (shape_member listed other) trivial
  · intro name listed other items
    exact whole (shape_member listed other) (Json.readable_ofList items (fun _ _ => trivial))
  · exact whole rfl (Json.readable_ofInt holds)
  · exact event.triggerValue.takes_toJson
  · exact whole rfl (Json.readable_ofOption _ (fun _ _ => trivial))
  · rfl

/-- What is read of an event's text is decoded from the event's JSON, its doubles as they were
written. -/
theorem parse?_text_eq (holds : Word.Holds event.barTime) :
    parse? event.text = ofJson? event.toJson.reread := by
  rw [parse?, text, Json.readAs?_of_takes (takes_toJson holds), Option.bind_some]

/-- An event is read back from its text exactly when its values are finite; otherwise nothing is
read. -/
theorem parse?_text (dated : event.Dated)
    (keeps : ∀ double ∈ event.triggerValue.doubles, Json.KeepsDouble double) :
    (event.triggerValue.IsFinite → parse? event.text = some event) ∧
      (¬ event.triggerValue.IsFinite → parse? event.text = none) := by
  rw [parse?_text_eq dated.barTime]
  constructor
  · intro finite
    rw [(readsBack_toJson dated.barTime keeps 0).reread, ofJson?_toJson dated finite]
  · intro infinite
    rw [Option.eq_none_iff_forall_ne_some]
    intro read isRead
    exact infinite (isFinite_of_ofJson? isRead)

end TriggerEvent

end CandleAlerts
