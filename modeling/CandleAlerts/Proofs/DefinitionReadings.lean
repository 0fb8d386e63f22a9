import CandleAlerts.Definition.Alert

/-!
Reading a definition, lookup by lookup.

A reading is a tree: it ends with a result, or looks up a field and goes on with what is found. Run on
answers to its lookups it gives a result and the fields that it looked up. The readings of conditions,
entries and alerts look up what the readers look up, in the same order, and give what they give; and
they still do when the fields that are only ever read as texts or ids, and have something to stand in
for them, are answered as not given wherever they are given as something else.
-/

namespace CandleAlerts

/-- The types of JSON values. -/
inductive Json.Kind where
  | null
  | boolean
  | number
  | string
  | array
  | object
deriving DecidableEq

def Json.kind : Json → Json.Kind
  | .null => .null
  | .boolean _ => .boolean
  | .number _ => .number
  | .string _ => .string
  | .array _ => .array
  | .object _ => .object

namespace Definition

/-- A field that is looked up: among which members, under which names, and of which types a value can
be read for it. -/
structure Field where
  members : Fields
  names : List String
  kinds : List Json.Kind

namespace Field

/-- What is given for the field: the first of its names that is present and not null. -/
def found? (field : Field) : Option Json := field? field.members field.names

/-- Whether the field is given as a value of a type that cannot be read for it. -/
def isMistyped (field : Field) : Bool :=
  field.found?.any (fun value => !field.kinds.contains value.kind)

theorem exists_of_isMistyped {field : Field} (mistyped : field.isMistyped = true) :
    ∃ value, field.found? = some value ∧ value.kind ∉ field.kinds := by
  obtain ⟨value, found, other⟩ := (Option.any_eq_true _ _).1 mistyped
  exact ⟨value, found, by simpa using other⟩

end Field

/-- Only values of the given types decode. -/
def OnlyDecodes {α : Type} (kinds : List Json.Kind) (decode : Json → Option α) : Prop :=
  ∀ value : Json, value.kind ∉ kinds → decode value = none

theorem text?_onlyDecodes : OnlyDecodes [.string] Json.text? := by
  intro value other
  cases value with
  | string text => exact absurd List.mem_cons_self other
  | _ => rfl

theorem items?_onlyDecodes : OnlyDecodes [.array] Json.items? := by
  intro value other
  cases value with
  | array items => exact absurd List.mem_cons_self other
  | _ => rfl

/-- The fields that a value of another type is overlooked for: texts and ids that something stands in
for when they are not given. -/
def Names.overlooked : List (List String) :=
  [Names.ownerId, Names.fireMode, Names.logic, Names.gate, Names.outerGate, Names.entryId,
   Names.connector, Names.validityUnit, Names.kind, Names.component, Names.priceField,
   Names.conditionTimeframe, Names.compareMode, Names.nestedComponent, Names.compareComponent,
   Names.comparePriceField, Names.actionKind, Names.outerUrl, Names.outerSecret, Names.secret]

theorem Names.several_of_overlooked : ∀ names ∈ Names.overlooked, 2 ≤ names.length := by decide

/-- A reading: a result, or a lookup and how to go on with what is found. -/
inductive Reading (α : Type) where
  | done (result : Except DefinitionError α)
  | lookUp (field : Field) (next : Option Json → Reading α)

namespace Reading

variable {α β : Type}

protected def bind : Reading α → (α → Reading β) → Reading β
  | done (.ok value), next => next value
  | done (.error cause), _ => done (.error cause)
  | lookUp field rest, next => lookUp field (fun found => (rest found).bind next)

instance : Monad Reading where
  pure value := done (.ok value)
  bind := Reading.bind

/-- The result on answers to the lookups. -/
def run (answer : Field → Option Json) : Reading α → Except DefinitionError α
  | done result => result
  | lookUp field next => (next (answer field)).run answer

/-- The fields looked up on the way to the result. -/
def lookedUp (answer : Field → Option Json) : Reading α → List Field
  | done _ => []
  | lookUp field next => field :: (next (answer field)).lookedUp answer

/-- A reading of the condition or entry at a position. -/
def atIndex (index : Nat) : Reading α → Reading α
  | done result => done (Definition.atIndex index result)
  | lookUp field next => lookUp field (fun found => (next found).atIndex index)

end Reading

/-! ## Running a reading -/

theorem pure_eq_ok {ε α : Type} (value : α) : (pure value : Except ε α) = .ok value := rfl

theorem ok_bind {ε α β : Type} (value : α) (next : α → Except ε β) :
    (Except.ok value >>= next) = next value := rfl

namespace Reading

section Running

variable {α β : Type} (answer : Field → Option Json)

@[simp] theorem run_pure (value : α) : (pure value : Reading α).run answer = .ok value := rfl

@[simp] theorem run_done (result : Except DefinitionError α) : (done result).run answer = result :=
  rfl

@[simp] theorem run_bind (first : Reading α) (next : α → Reading β) :
    (first >>= next).run answer =
      first.run answer >>= fun value => (next value).run answer := by
  induction first with
  | done result => cases result <;> rfl
  | lookUp field rest induction => exact induction (answer field)

@[simp] theorem run_atIndex (index : Nat) (reading : Reading α) :
    (reading.atIndex index).run answer = Definition.atIndex index (reading.run answer) := by
  induction reading with
  | done result => rfl
  | lookUp field rest induction => exact induction (answer field)

theorem run_ite (proposition : Prop) [Decidable proposition] (first second : Reading α) :
    (if proposition then first else second).run answer =
      if proposition then first.run answer else second.run answer :=
  apply_ite (run answer) proposition first second

theorem bind_assoc {γ : Type} (first : Reading α) (second : α → Reading β)
    (third : β → Reading γ) :
    first >>= second >>= third = first >>= fun value => second value >>= third := by
  induction first with
  | done result => cases result <;> rfl
  | lookUp field rest induction => exact congrArg (lookUp field) (funext induction)

theorem bind_pure (reading : Reading α) : reading >>= pure = reading := by
  induction reading with
  | done result => cases result <;> rfl
  | lookUp field rest induction => exact congrArg (lookUp field) (funext induction)

instance : LawfulMonad Reading :=
  LawfulMonad.mk' Reading bind_pure (fun _ _ => rfl) bind_assoc

@[simp] theorem run_foldlM (step : β → α → Reading β) (items : List α) (start : β) :
    (items.foldlM step start).run answer =
      items.foldlM (fun sofar item => (step sofar item).run answer) start := by
  induction items generalizing start with
  | nil => rfl
  | cons item rest induction => simp only [List.foldlM_cons, run_bind, induction]

@[simp] theorem run_mapM (read : α → Reading β) (items : List α) :
    (items.mapM read).run answer = items.mapM (fun item => (read item).run answer) := by
  induction items with
  | nil => rfl
  | cons item rest induction =>
      simp only [List.mapM_cons, run_bind, induction]
      rfl

end Running

/-! ## The readings -/

def ask (members : Fields) (names : List String) (kinds : List Json.Kind) :
    Reading (Option Json) :=
  lookUp { members, names, kinds } pure

/-- What is found, decoded. A value that does not decode counts as not given. -/
def decoded {α : Type} (members : Fields) (names : List String) (kinds : List Json.Kind)
    (decode : Json → Option α) : Reading (Option α) := do
  return (← ask members names kinds).bind decode

def text (members : Fields) (names : List String) : Reading (Option String) :=
  decoded members names [.string] Json.text?

def items (members : Fields) (names : List String) : Reading (Option (List Json)) :=
  decoded members names [.array] Json.items?

/-- The id that a value is. -/
def idOf? : Json → Option String
  | .string text =>
      let trimmed := Text.trim text
      if trimmed.isEmpty then none else some trimmed
  | .number value => some (String.ofList (Json.numberText value))
  | _ => none

def id (members : Fields) (names : List String) : Reading (Option String) :=
  decoded members names [.string, .number] idOf?

/-- Whether a field is given, as whatever. -/
def isGiven (members : Fields) (names : List String) : Reading Bool := do
  return (← ask members names [.boolean, .number, .string, .array, .object]).isSome

/-- The first of two texts that is given. -/
def orElse (first second : Reading (Option String)) : Reading (Option String) := do
  match ← first with
  | some given => return some given
  | none => second

def word {α : Type} (field : String) (default : α) (read? : String → Option α) (members : Fields)
    (names : List String) : Reading α := do
  done (readOr field default read? (← text members names))

def value {α : Type} (field : String) (decode : Json → Option α) (default : α) (members : Fields)
    (names : List String) (kinds : List Json.Kind) : Reading α := do
  done (requireValue field decode default (← ask members names kinds))

def number (field : String) (members : Fields) (names : List String) : Reading Float := do
  let given ← ask members names [.number, .string]
  done (do requireNumber field (← require field given))

/-- Add a parameter to a request, if it is given. -/
def parameter (spec : IndicatorSpec) (name : String) (members : Fields) :
    Reading IndicatorSpec := do
  match ← ask members [name] [.number, .string] with
  | none => return spec
  | some given =>
      match number? given with
      | some value => return spec.withParameter name value
      | none => done (refuse "params" (name ++ "=" ++ given.compact))

/-- Add the parameters of the object that lists them, each looked up in its own member. -/
def parameters (spec : IndicatorSpec) (members : Fields) : Reading IndicatorSpec := do
  match ← ask members Names.parameters [.object] with
  | none => return spec
  | some (.object listed) =>
      listed.foldlM (fun spec member => parameter spec member.1 [member]) spec
  | some other => done (refuseValue "params" other)

def indicator (members : Fields) : Reading IndicatorSpec := do
  let given ← text members Names.indicator
  let name ← done (require "indicator" (given.filter (fun name => !(Text.trim name).isEmpty)))
  let spec ← parameters (.named name) members
  Names.inlineParameters.foldlM (fun spec name => parameter spec name members) spec

def bounds (members : Fields) : Reading (Float × Float) := do
  let low ← ask members Names.low [.number, .string]
  let low ← done (require "low" low)
  let high ← ask members Names.high [.number, .string]
  let high ← done (require "high" high)
  done (do return (← requireNumber "low" low, ← requireNumber "high" high))

def rangeEnds (members : Fields) : Reading (Float × Float) := do
  match ← ask members Names.rangeValue [.array, .object] with
  | some (.array [low, high]) =>
      done (do return (← requireNumber "value" low, ← requireNumber "value" high))
  | some (.object inner) => bounds inner
  | some other => done (refuseValue "value" other)
  | none => bounds members

def range (members : Fields) : Reading Comparand := do
  let (low, high) ← rangeEnds members
  if high < low then
    done (refuse "value"
      ("range " ++ Decimal.label low ++ ".." ++ Decimal.label high ++ " is empty"))
  else return .range low high

def compareMode (members : Fields) (operator : Operator) : Reading CompareMode := do
  match ← text members Names.compareMode with
  | some given =>
      let spelling := underscored given
      match compareModeSpellings.find? (fun entry => entry.2.contains spelling) with
      | some entry => return entry.1
      | none => done (refuse "compare_mode" spelling)
  | none =>
      if operator = .pattern then return .absent
      else if ← isGiven members Names.compareIndicator then return .indicator
      else if ← isGiven members Names.compareField then return .price .current
      else return .literal

def literal (members : Fields) (operator : Operator) : Reading Comparand := do
  if operator = .between then range members
  else return .literal (← number "value" members Names.value)

/-- The fields of an indicator that is named, with the parameters beside the name. -/
def namedIndicator (name : String) (parameters? : Option Json) : Fields :=
  ("indicator", .string name) ::
    match parameters? with
    | some parameters => [("params", parameters)]
    | none => []

def otherIndicatorFields (members : Fields) (given : Json) : Reading Fields :=
  match given with
  | .object inner => pure inner
  | .string name => do
      return namedIndicator name (← ask members Names.compareParameters [.object])
  | other => done (refuseValue "compare_indicator" other)

def nestedIndicator (nested members : Fields) : Reading Comparand := do
  let spec ← indicator nested
  let component ← orElse (text nested Names.nestedComponent) (text members Names.compareComponent)
  return .indicator spec (component.getD spec.name)

def otherIndicator (members : Fields) : Reading Comparand := do
  let given ← ask members Names.compareIndicator [.string, .object]
  let given ← done (require "compare_indicator" given)
  nestedIndicator (← otherIndicatorFields members given) members

def givenComparand (members : Fields) (operator : Operator) : Reading Comparand := do
  match ← compareMode members operator with
  | .literal => literal members operator
  | .indicator => otherIndicator members
  | .price bar =>
      let given := (← text members Names.comparePriceField).getD "close"
      match PriceField.parse? given with
      | some field => return .price field bar
      | none => done (refuse "compare_field" given)
  | .absent => return .absent

def comparand (members : Fields) (operator : Operator) : Reading Comparand := do
  match ← givenComparand members operator, operator with
  | .absent, .pattern => return .absent
  | .absent, _ => done (refuse "compare_mode" "none is only valid for pattern conditions")
  | _, .pattern => return .absent
  | .range low high, .between => return .range low high
  | _, .between => done (refuse "operator" "between needs a literal range")
  | comparand, _ => return comparand

/-- The kind of a condition, given or suggested by what else is. -/
def conditionKind (members : Fields) : Reading String := do
  match ← text members Names.kind with
  | some given => return Text.asciiLower (Text.trim given)
  | none => return if ← isGiven members Names.indicatorHint then "indicator" else "price"

def subject (members : Fields) : Reading Subject := do
  let kind ← conditionKind members
  if kind = "indicator" ∨ kind = "pattern" ∨ kind = "candlestick" then
    let spec ← indicator members
    return .indicator spec ((← text members Names.component).getD spec.name)
  else if kind = "price" then
    return .price (← word "price_field" .close PriceField.parse? members Names.priceField)
  else if kind = "volume" then return .volume
  else done (refuse "kind" kind)

def timeframeChoice (members : Fields) : Reading TimeframeChoice := do
  match ← text members Names.conditionTimeframe with
  | none => return .same
  | some given =>
      let trimmed := Text.asciiLower (Text.trim given)
      if trimmed = "same" ∨ trimmed = "" then return .same
      else match Timeframe.parse? given with
        | some timeframe => return .specific timeframe
        | none => done (.error (.unknownTimeframe given))

def percentage (members : Fields) : Reading (Option Float) := do
  match ← ask members Names.percentage [.number, .string] with
  | none => return none
  | some given => done ((requireNumber "percentage" given).map some)

def condition (value : Json) : Reading Condition := do
  let members ← done (fieldsOf value)
  let given ← done (require "operator" (← text members Names.operator))
  let operator ← done (readOperator given)
  let subject ← subject members
  match operator, subject with
  | .pattern, .price _ | .pattern, .volume =>
      done (refuse "operator" "pattern requires an indicator condition")
  | _, _ =>
      let comparand ← comparand members operator
      let timeframe ← timeframeChoice members
      let percentage ← percentage members
      return { subject, operator, comparand, timeframe, percentage }

def entry (given : Json) (index : Nat) : Reading PlaybookEntry := do
  let members ← done (fieldsOf given)
  let id := (← id members Names.entryId).getD (toString index)
  let priority ← value "priority" (Json.int? (-2147483648) 2147483647) index members
    Names.priority [.number]
  let enabled ← value "enabled" Json.bool? true members Names.enabled [.boolean]
  let connector ← word "connector_logic" .all logic? members Names.connector
  let validity ← value "validity_duration" (Json.nat? (UInt32.size - 1)) 0 members Names.validity
    [.number]
  let validityUnit ← word "validity_unit" .bars validityUnit? members Names.validityUnit
  let condition ← condition ((← ask members Names.condition [.object]).getD given)
  return { id, priority, enabled, connector, validity, validityUnit, condition }

def takeEntry (entries : List PlaybookEntry) (given : Json × Nat) :
    Reading (List PlaybookEntry) := do
  let entry ← (entry given.1 given.2).atIndex given.2
  if entries.any (fun other => other.id == entry.id) then done (.error (.duplicateEntry entry.id))
  else return entries ++ [entry]

def playbookItems (value : Json) (alert : Fields) : Reading (List Json × Fields) :=
  match value with
  | .array items => pure (items, alert)
  | .object members => do
      match ← items members Names.entries with
      | some items => return (items, members)
      | none => done (.error .emptyLogic)
  | _ => done (refuse "playbook" "expected an object or array")

def gate (gateFields alert : Fields) : Reading Gate := do
  let given ← orElse (text gateFields Names.gate) (text alert Names.outerGate)
  done (readOr "gate_logic" .all gate? given)

def playbook (value : Json) (alert : Fields) : Reading Playbook := do
  let (list, gateFields) ← playbookItems value alert
  if list.isEmpty then done (.error .emptyLogic)
  else
    let gate ← gate gateFields alert
    return { entries := ← list.zipIdx.foldlM takeEntry [], gate }

def alertLogic (members : Fields) : Reading AlertLogic := do
  match ← ask members Names.playbook [.array, .object] with
  | some value => return .playbook (← playbook value members)
  | none =>
      match ← items members Names.conditions with
      | none | some [] => done (.error .emptyLogic)
      | some items =>
          let conditions ← items.zipIdx.mapM (fun given => (condition given.1).atIndex given.2)
          return .conditions conditions (← word "logic" .all logic? members Names.logic)

/-- What an action is named, and the fields of its particulars. -/
def actionParts (members : Fields) (value : Json) : Reading (String × Fields) :=
  match value with
  | .string kind => pure (kind, members)
  | .object inner => do return ((← text inner Names.actionKind).getD "none", inner)
  | other => done (refuseValue "action" other)

def webhookAt (particulars : Fields) : Reading AlertAction := do
  let url ← done (require "url" (← text particulars Names.url))
  done (webhook url (← text particulars Names.secret))

def namedAction (kind : String) (particulars : Fields) : Reading AlertAction := do
  let word := Text.asciiLower (Text.trim kind)
  if word = "webhook" then webhookAt particulars
  else if ["in_app", "inapp", "notification", "notify"].contains word then return .inApp
  else if ["bot", "bot_trigger", "trade"].contains word then
    return .bot (← done (require "bot_id" (← id particulars Names.botId)))
  else if word = "none" ∨ word = "" then return .nothing
  else done (refuse "action" word)

def alertAction (members : Fields) : Reading AlertAction := do
  match ← ask members Names.action [.string, .object] with
  | none =>
      match ← text members Names.outerUrl with
      | some url => done (webhook url (← text members Names.outerSecret))
      | none => return .nothing
  | some value =>
      let (kind, particulars) ← actionParts members value
      namedAction kind particulars

/-- The reading of an alert. -/
def alert (given : Json) (defaultFireMode : FireMode) : Reading Alert := do
  let members ← done (fieldsOf given)
  let alertId ← done (require "id" (← id members Names.alertId))
  let ownerId := (← id members Names.ownerId).getD ""
  let symbol ← text members Names.symbol
  let symbol ← done (require "symbol"
    ((symbol.map (fun given => Text.asciiUpper (Text.trim given))).filter
      (fun symbol => !symbol.isEmpty)))
  let timeframe ← done (require "timeframe" (← text members Names.alertTimeframe))
  let timeframe ← done (readTimeframe timeframe)
  let logic ← alertLogic members
  let fireMode ← word "fire_mode" defaultFireMode FireMode.parse? members Names.fireMode
  let action ← alertAction members
  return { id := alertId, ownerId, symbol, timeframe, logic, fireMode, action }

/-! ## The readings give what the readers give -/

theorem run_orElse {answer : Field → Option Json} {first second : Reading (Option String)}
    {former latter : Option String}
    (formerRead : first.run answer = .ok former) (latterRead : second.run answer = .ok latter) :
    (orElse first second).run answer = .ok (former.or latter) := by
  simp only [orElse, run_bind, formerRead]
  cases former with
  | none => exact latterRead
  | some given => rfl

end Reading

/-- Answers that are what is found, except that an overlooked field may be answered as not given where
it is mistyped. -/
def Faithful (answer : Field → Option Json) : Prop :=
  ∀ field, answer field = field.found? ∨
    (field.isMistyped = true ∧ field.names ∈ Names.overlooked ∧ answer field = none)

theorem Reading.idOf?_onlyDecodes : OnlyDecodes [.string, .number] Reading.idOf? := by
  intro value other
  cases value with
  | string text => exact absurd List.mem_cons_self other
  | number value => exact absurd (List.mem_cons_of_mem _ List.mem_cons_self) other
  | _ => rfl

theorem id?_eq (members : Fields) (names : List String) :
    id? members names = (field? members names).bind Reading.idOf? := by
  unfold id?
  cases field? members names with
  | none => rfl
  | some value => cases value <;> simp only [Option.bind_some, Reading.idOf?]

/-- The kind of a condition, as `subject` takes it. -/
def kindGiven (members : Fields) : String :=
  match text? members Names.kind with
  | some given => Text.asciiLower (Text.trim given)
  | none => if (field? members Names.indicatorHint).isSome then "indicator" else "price"

namespace Faithful

variable {answer : Field → Option Json} (faithful : Faithful answer)

include faithful

theorem of_not_overlooked (members : Fields) {names : List String} (kinds : List Json.Kind)
    (strict : names ∉ Names.overlooked) :
    answer ⟨members, names, kinds⟩ = field? members names := by
  rcases faithful ⟨members, names, kinds⟩ with found | ⟨-, overlooked, -⟩
  · exact found
  · exact absurd overlooked strict

/-- Where values of other types decode to nothing anyway, it does not matter whether a mistyped field
is answered. -/
theorem bind_eq {α : Type} (members : Fields) (names : List String) {kinds : List Json.Kind}
    {decode : Json → Option α} (typed : OnlyDecodes kinds decode) :
    (answer ⟨members, names, kinds⟩).bind decode = (field? members names).bind decode := by
  rcases faithful ⟨members, names, kinds⟩ with found | ⟨mistyped, -, nothing⟩
  · rw [found]
    rfl
  · rw [nothing]
    obtain ⟨value, found, other⟩ := Field.exists_of_isMistyped mistyped
    rw [show field? members names = some value from found]
    exact (typed value other).symm

theorem run_ask (members : Fields) {names : List String} (kinds : List Json.Kind)
    (strict : names ∉ Names.overlooked) :
    (Reading.ask members names kinds).run answer = .ok (field? members names) :=
  congrArg _ (faithful.of_not_overlooked members kinds strict)

theorem run_decoded {α : Type} (members : Fields) (names : List String) {kinds : List Json.Kind}
    {decode : Json → Option α} (typed : OnlyDecodes kinds decode) :
    (Reading.decoded members names kinds decode).run answer =
      .ok ((field? members names).bind decode) :=
  congrArg _ (faithful.bind_eq members names typed)

theorem run_text (members : Fields) (names : List String) :
    (Reading.text members names).run answer = .ok (text? members names) :=
  faithful.run_decoded members names text?_onlyDecodes

theorem run_items (members : Fields) (names : List String) :
    (Reading.items members names).run answer =
      .ok ((field? members names).bind Json.items?) :=
  faithful.run_decoded members names items?_onlyDecodes

theorem run_id (members : Fields) (names : List String) :
    (Reading.id members names).run answer = .ok (id? members names) := by
  rw [id?_eq]
  exact faithful.run_decoded members names Reading.idOf?_onlyDecodes

theorem run_isGiven (members : Fields) {names : List String} (strict : names ∉ Names.overlooked) :
    (Reading.isGiven members names).run answer = .ok (field? members names).isSome := by
  simp only [Reading.isGiven, Reading.run_bind, faithful.run_ask members _ strict]
  rfl

theorem run_word {α : Type} (field : String) (default : α) (read? : String → Option α)
    (members : Fields) (names : List String) :
    (Reading.word field default read? members names).run answer =
      readOr field default read? (text? members names) := by
  simp only [Reading.word, Reading.run_bind, Reading.run_done, faithful.run_text, ok_bind]

theorem run_value {α : Type} (field : String) (decode : Json → Option α) (default : α)
    (members : Fields) {names : List String} (kinds : List Json.Kind)
    (strict : names ∉ Names.overlooked) :
    (Reading.value field decode default members names kinds).run answer =
      requireValue field decode default (field? members names) := by
  simp only [Reading.value, Reading.run_bind, Reading.run_done, faithful.run_ask members _ strict,
    ok_bind]

theorem run_number (field : String) (members : Fields) {names : List String}
    (strict : names ∉ Names.overlooked) :
    (Reading.number field members names).run answer =
      require field (field? members names) >>= requireNumber field := by
  simp only [Reading.number, Reading.run_bind, Reading.run_done, faithful.run_ask members _ strict,
    ok_bind]

/-- A parameter is never overlooked: it goes by one name, and overlooked fields go by several. -/
theorem run_parameter (spec : IndicatorSpec) (name : String) (members : Fields) :
    (Reading.parameter spec name members).run answer =
      match given? members name with
      | none => .ok spec
      | some given =>
          match number? given with
          | some value => .ok (spec.withParameter name value)
          | none => refuse "params" (name ++ "=" ++ given.compact) := by
  have strict : [name] ∉ Names.overlooked := fun listed =>
    absurd (Names.several_of_overlooked [name] listed) (by simp)
  have asked : field? members [name] = given? members name := by
    simp [field?]
  simp only [Reading.parameter, Reading.run_bind, faithful.run_ask members _ strict, asked]
  cases given? members name with
  | none => rfl
  | some given =>
    simp only [bind, Except.bind]
    cases number? given <;> rfl

theorem run_listedParameters (spec : IndicatorSpec) (listed : Fields) :
    (listed.foldlM (fun spec member => Reading.parameter spec member.1 [member]) spec).run answer =
      withParameters spec listed := by
  have step : ∀ (spec : IndicatorSpec) (member : String × Json),
      (Reading.parameter spec member.1 [member]).run answer =
        if member.2.isNull then .ok spec
        else match number? member.2 with
          | some value => .ok (spec.withParameter member.1 value)
          | none => refuse "params" (member.1 ++ "=" ++ member.2.compact) := by
    intro spec member
    rw [faithful.run_parameter]
    -- looked up in its own member, a parameter is found unless it is null
    cases null : member.2.isNull <;> simp [given?, Json.lookup?, Option.filter, null]
  simp only [Reading.run_foldlM, step]
  rfl

theorem run_inlineParameters (names : List String) (spec : IndicatorSpec) (members : Fields) :
    (names.foldlM (fun spec name => Reading.parameter spec name members) spec).run answer =
      withParameters spec
        (names.filterMap (fun name => (given? members name).map (fun value => (name, value)))) := by
  induction names generalizing spec with
  | nil => rfl
  | cons name rest induction =>
      rw [List.foldlM_cons, Reading.run_bind, faithful.run_parameter]
      cases found : given? members name with
      | none =>
          rw [List.filterMap_cons_none (by rw [found]; rfl)]
          exact induction spec
      | some given =>
          -- the null that `withParameters` passes over is not among what is given
          have present : given.isNull = false := by
            simpa using (Option.filter_eq_some_iff.1 found).2
          rw [List.filterMap_cons_some (by rw [found]; rfl)]
          simp only [withParameters, List.foldlM_cons, present]
          cases number? given with
          | none => rfl
          | some value => exact induction (spec.withParameter name value)

theorem run_parameters (spec : IndicatorSpec) (members : Fields) :
    (Reading.parameters spec members).run answer =
      match field? members Names.parameters with
      | none => .ok spec
      | some (.object listed) => withParameters spec listed
      | some other => refuseValue "params" other := by
  have strict : Names.parameters ∉ Names.overlooked := by decide
  simp only [Reading.parameters, Reading.run_bind, faithful.run_ask members _ strict]
  cases field? members Names.parameters with
  | none => rfl
  | some given =>
      cases given with
      | object listed => exact faithful.run_listedParameters spec listed
      | _ => rfl

theorem run_indicator (members : Fields) :
    (Reading.indicator members).run answer = indicatorSpec members := by
  simp only [Reading.indicator, indicatorSpec, Reading.run_bind, faithful.run_text,
    Reading.run_done, faithful.run_parameters, faithful.run_inlineParameters]
  cases field? members Names.parameters with
  | none => rfl
  | some given => cases given <;> rfl

theorem run_bounds (members : Fields) :
    (Reading.bounds members).run answer = bounds members := by
  have lowStrict : Names.low ∉ Names.overlooked := by decide
  have highStrict : Names.high ∉ Names.overlooked := by decide
  simp only [Reading.bounds, bounds, Reading.run_bind, Reading.run_done,
    faithful.run_ask members _ lowStrict, faithful.run_ask members _ highStrict]
  rfl

theorem run_rangeEnds (members : Fields) :
    (Reading.rangeEnds members).run answer = rangeEnds members := by
  have strict : Names.rangeValue ∉ Names.overlooked := by decide
  simp only [Reading.rangeEnds, rangeEnds, Reading.run_bind, faithful.run_ask members _ strict]
  cases field? members Names.rangeValue with
  | none => exact faithful.run_bounds members
  | some given =>
      cases given with
      | object inner => exact faithful.run_bounds inner
      | array items =>
          rcases items with _ | ⟨low, _ | ⟨high, _ | ⟨third, rest⟩⟩⟩ <;> rfl
      | _ => rfl

theorem run_range (members : Fields) :
    (Reading.range members).run answer = range members := by
  simp only [Reading.range, range, Reading.run_bind, faithful.run_rangeEnds]
  refine bind_congr fun ends => ?_
  split <;> rfl

theorem run_compareMode (members : Fields) (operator : Operator) :
    (Reading.compareMode members operator).run answer = compareMode members operator := by
  have indicatorStrict : Names.compareIndicator ∉ Names.overlooked := by decide
  have fieldStrict : Names.compareField ∉ Names.overlooked := by decide
  simp only [Reading.compareMode, compareMode, Reading.run_bind, faithful.run_text, ok_bind]
  cases text? members Names.compareMode with
  | some given =>
      dsimp only
      cases compareModeSpellings.find? (fun entry => entry.2.contains (underscored given)) <;> rfl
  | none =>
      simp only [Reading.run_ite, Reading.run_bind, faithful.run_isGiven members indicatorStrict,
        faithful.run_isGiven members fieldStrict, ok_bind]
      rfl

theorem run_literal (members : Fields) (operator : Operator) :
    (Reading.literal members operator).run answer = literal members operator := by
  have strict : Names.value ∉ Names.overlooked := by decide
  simp only [Reading.literal, literal]
  split
  · exact faithful.run_range members
  · simp only [Reading.run_bind, faithful.run_number _ members strict, LawfulMonad.bind_assoc]
    rfl

theorem run_otherIndicatorFields (members : Fields) (given : Json) :
    (Reading.otherIndicatorFields members given).run answer =
      otherIndicatorFields members given := by
  have strict : Names.compareParameters ∉ Names.overlooked := by decide
  cases given with
  | string name =>
      simp only [Reading.otherIndicatorFields, Reading.run_bind,
        faithful.run_ask members _ strict]
      rfl
  | _ => rfl

theorem run_otherIndicator (members : Fields) :
    (Reading.otherIndicator members).run answer = otherIndicator members := by
  have strict : Names.compareIndicator ∉ Names.overlooked := by decide
  simp only [Reading.otherIndicator, Reading.nestedIndicator, otherIndicator, Reading.run_bind,
    Reading.run_done, faithful.run_ask members _ strict, faithful.run_otherIndicatorFields,
    faithful.run_indicator,
    Reading.run_orElse (faithful.run_text _ _) (faithful.run_text _ _)]
  rfl

theorem run_givenComparand (members : Fields) (operator : Operator) :
    (Reading.givenComparand members operator).run answer = givenComparand members operator := by
  simp only [Reading.givenComparand, givenComparand, Reading.run_bind, faithful.run_compareMode]
  refine bind_congr fun mode => ?_
  cases mode with
  | literal => exact faithful.run_literal members operator
  | indicator => exact faithful.run_otherIndicator members
  | price bar =>
      simp only [Reading.run_bind, faithful.run_text, ok_bind]
      cases PriceField.parse? ((text? members Names.comparePriceField).getD "close") <;> rfl
  | absent => rfl

theorem run_comparand (members : Fields) (operator : Operator) :
    (Reading.comparand members operator).run answer = comparand members operator := by
  simp only [Reading.comparand, comparand, Reading.run_bind, faithful.run_givenComparand]
  refine bind_congr fun given => ?_
  cases given <;> cases operator <;> rfl

theorem run_conditionKind (members : Fields) :
    (Reading.conditionKind members).run answer = .ok (kindGiven members) := by
  have strict : Names.indicatorHint ∉ Names.overlooked := by decide
  simp only [Reading.conditionKind, kindGiven, Reading.run_bind, faithful.run_text, ok_bind]
  cases text? members Names.kind with
  | some given => rfl
  | none =>
      simp only [Reading.run_bind, faithful.run_isGiven members strict]
      rfl

theorem run_subject (members : Fields) :
    (Reading.subject members).run answer = subject members := by
  simp only [Reading.subject, subject, Reading.run_bind, Reading.run_ite,
    Reading.run_pure, Reading.run_done, faithful.run_conditionKind, faithful.run_indicator,
    faithful.run_text, faithful.run_word, ok_bind, pure_eq_ok]
  -- the two sides differ in the name of the kind, which `subject` spells out
  rfl

theorem run_timeframeChoice (members : Fields) :
    (Reading.timeframeChoice members).run answer = timeframeChoice members := by
  simp only [Reading.timeframeChoice, timeframeChoice, Reading.run_bind, faithful.run_text,
    ok_bind]
  cases text? members Names.conditionTimeframe with
  | none => rfl
  | some given =>
      simp only [Reading.run_ite, Reading.run_pure]
      cases Timeframe.parse? given with
      | none => simp only [Reading.run_done]
      | some timeframe => simp only [Reading.run_pure]

theorem run_percentage (members : Fields) :
    (Reading.percentage members).run answer = percentage members := by
  have strict : Names.percentage ∉ Names.overlooked := by decide
  simp only [Reading.percentage, percentage, Reading.run_bind, faithful.run_ask members _ strict]
  cases field? members Names.percentage <;> rfl

/-- A condition is read as it is. -/
theorem run_condition (value : Json) :
    (Reading.condition value).run answer = readCondition value := by
  simp only [Reading.condition, readCondition, Reading.run_bind, Reading.run_done,
    faithful.run_text, faithful.run_subject, ok_bind]
  refine bind_congr fun members => ?_
  refine bind_congr fun given => ?_
  refine bind_congr fun operator => ?_
  refine bind_congr fun left => ?_
  split
  · rfl
  · rfl
  · simp only [Reading.run_bind, faithful.run_comparand, faithful.run_timeframeChoice,
      faithful.run_percentage]
    rfl

theorem run_entry (given : Json) (index : Nat) :
    (Reading.entry given index).run answer = readEntry given index := by
  have priorityStrict : Names.priority ∉ Names.overlooked := by decide
  have enabledStrict : Names.enabled ∉ Names.overlooked := by decide
  have validityStrict : Names.validity ∉ Names.overlooked := by decide
  have conditionStrict : Names.condition ∉ Names.overlooked := by decide
  simp only [Reading.entry, readEntry, Reading.run_bind, Reading.run_done, faithful.run_id,
    faithful.run_value _ _ _ _ _ priorityStrict, faithful.run_value _ _ _ _ _ enabledStrict,
    faithful.run_value _ _ _ _ _ validityStrict, faithful.run_word,
    faithful.run_ask _ _ conditionStrict, faithful.run_condition, ok_bind]
  rfl

theorem run_takeEntry (entries : List PlaybookEntry) (given : Json × Nat) :
    (Reading.takeEntry entries given).run answer = takeEntry entries given := by
  simp only [Reading.takeEntry, takeEntry, Reading.run_bind, Reading.run_atIndex,
    faithful.run_entry, Reading.run_ite]
  rfl

theorem run_playbookItems (value : Json) (alert : Fields) :
    (Reading.playbookItems value alert).run answer = playbookItems value alert := by
  cases value with
  | object members =>
      simp only [Reading.playbookItems, playbookItems, Reading.run_bind, faithful.run_items,
        ok_bind]
      cases (field? members Names.entries).bind Json.items? <;> rfl
  | _ => rfl

theorem run_gate (gateFields alert : Fields) :
    (Reading.gate gateFields alert).run answer = readOr "gate_logic" .all gate?
      ((text? gateFields Names.gate).or (text? alert Names.outerGate)) := by
  simp only [Reading.gate, Reading.run_bind,
    Reading.run_orElse (faithful.run_text _ _) (faithful.run_text _ _), Reading.run_done, ok_bind]

theorem run_playbook (value : Json) (alert : Fields) :
    (Reading.playbook value alert).run answer = readPlaybook value alert := by
  simp only [Reading.playbook, readPlaybook, readEntries, Reading.run_bind, Reading.run_ite,
    Reading.run_foldlM, faithful.run_playbookItems, faithful.run_gate, faithful.run_takeEntry]
  rfl

theorem run_alertLogic (members : Fields) :
    (Reading.alertLogic members).run answer = alertLogic members := by
  have strict : Names.playbook ∉ Names.overlooked := by decide
  simp only [Reading.alertLogic, alertLogic, Reading.run_bind,
    faithful.run_ask _ _ strict, ok_bind]
  cases field? members Names.playbook with
  | some value =>
      simp only [Reading.run_bind, faithful.run_playbook]
      rfl
  | none =>
      simp only [Reading.run_bind, faithful.run_items, ok_bind]
      rcases (field? members Names.conditions).bind Json.items? with _ | _ | ⟨first, rest⟩
      · rfl
      · rfl
      · simp only [Reading.run_bind, Reading.run_mapM, Reading.run_atIndex,
          faithful.run_condition, faithful.run_word]
        rfl

theorem run_webhookAt (particulars : Fields) :
    (Reading.webhookAt particulars).run answer =
      require "url" (text? particulars Names.url) >>= fun url =>
        webhook url (text? particulars Names.secret) := by
  simp only [Reading.webhookAt, Reading.run_bind, Reading.run_done, faithful.run_text, ok_bind]

theorem run_alertAction (members : Fields) :
    (Reading.alertAction members).run answer = alertAction members := by
  have strict : Names.action ∉ Names.overlooked := by decide
  simp only [Reading.alertAction, alertAction, Reading.run_bind, faithful.run_ask _ _ strict,
    ok_bind]
  cases field? members Names.action with
  | none =>
      simp only [Reading.run_bind, faithful.run_text, ok_bind]
      cases text? members Names.outerUrl with
      | none => rfl
      | some url =>
          simp only [Reading.run_bind, Reading.run_done, faithful.run_text, ok_bind]
  | some value =>
      cases value with
      | string kind =>
          simp only [Reading.actionParts, Reading.namedAction, Reading.run_bind, Reading.run_ite,
            Reading.run_pure, Reading.run_done, faithful.run_id, faithful.run_webhookAt, ok_bind,
            pure_eq_ok]
      | object inner =>
          simp only [Reading.actionParts, Reading.namedAction, Reading.run_bind, Reading.run_ite,
            Reading.run_pure, Reading.run_done, faithful.run_text, faithful.run_id,
            faithful.run_webhookAt, ok_bind, pure_eq_ok]
      | _ => rfl

/-- An alert is read as it is. -/
theorem run_alert (given : Json) (defaultFireMode : FireMode) :
    (Reading.alert given defaultFireMode).run answer = readAlert given defaultFireMode := by
  simp only [Reading.alert, readAlert, Reading.run_bind, Reading.run_done, faithful.run_id,
    faithful.run_text, faithful.run_alertLogic, faithful.run_word, faithful.run_alertAction,
    ok_bind]
  rfl

end Faithful

end Definition

end CandleAlerts
