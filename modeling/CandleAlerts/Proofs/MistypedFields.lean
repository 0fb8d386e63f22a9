import CandleAlerts.Proofs.DefinitionReadings
import CandleAlerts.Proofs.WellFormedDefinitions

/-!
Fields that are given as values of a type that cannot be read for them.

A reading is strict when it never goes through with such a field looked up on its way, other than an
overlooked one. A lookup is strict when what comes after it refuses what is of another type; that
may be the next step, or a reader further on that what was found is handed to. Bound together,
strict readings make a strict reading, up to that of a whole alert.
-/

namespace CandleAlerts.Definition

/-! ## Strict readings -/

namespace Reading

variable {α β : Type}

/-- On what is found, the reading is refused. -/
def Refused (reading : Reading α) : Prop := ∃ cause, reading.run Field.found? = .error cause

/-- The reading goes through only if the fields that it looks up and that are not overlooked are of
types that can be read for them. -/
def Strict (reading : Reading α) : Prop :=
  ∀ value, reading.run Field.found? = .ok value → ∀ field ∈ reading.lookedUp Field.found?,
    field.isMistyped = true → field.names ∈ Names.overlooked

namespace Refused

theorem done (cause : DefinitionError) : (Reading.done (.error cause) : Reading α).Refused :=
  ⟨cause, rfl⟩

theorem bind {first : Reading α} (refused : first.Refused) (next : α → Reading β) :
    (first >>= next).Refused := by
  obtain ⟨cause, read⟩ := refused
  refine ⟨cause, ?_⟩
  rw [run_bind, read]
  rfl

/-- What comes later may refuse. -/
theorem after {first : Reading α} {value : α} (read : first.run Field.found? = .ok value)
    {next : α → Reading β} (refused : (next value).Refused) : (first >>= next).Refused := by
  obtain ⟨cause, nextRead⟩ := refused
  refine ⟨cause, ?_⟩
  rw [run_bind, read, ok_bind, nextRead]

end Refused

theorem lookedUp_bind (answer : Field → Option Json) {first : Reading α} {value : α}
    (read : first.run answer = .ok value) (next : α → Reading β) :
    (first >>= next).lookedUp answer = first.lookedUp answer ++ (next value).lookedUp answer := by
  induction first with
  | done result =>
      cases read
      rfl
  | lookUp field rest induction =>
      exact congrArg (field :: ·) (induction (answer field) read)

theorem lookedUp_atIndex (answer : Field → Option Json) (index : Nat) (reading : Reading α) :
    (reading.atIndex index).lookedUp answer = reading.lookedUp answer := by
  induction reading with
  | done result => rfl
  | lookUp field rest induction => exact congrArg (field :: ·) (induction (answer field))

namespace Strict

theorem done (result : Except DefinitionError α) : (Reading.done result).Strict := by
  intro value read field member
  cases member

theorem pure (value : α) : (Pure.pure value : Reading α).Strict := done (.ok value)

theorem bind {first : Reading α} {next : α → Reading β} (strict : first.Strict)
    (rest : ∀ value, (next value).Strict) :
    (first >>= next).Strict := by
  intro value read field member mistyped
  rw [run_bind] at read
  obtain ⟨middle, firstRead, nextRead⟩ := exists_of_bind_eq_ok read
  rw [lookedUp_bind _ firstRead, List.mem_append] at member
  rcases member with former | latter
  · exact strict middle firstRead field former mistyped
  · exact rest middle value nextRead field latter mistyped

/-- A lookup, where what is mistyped is overlooked or else refused later. -/
theorem lookUp {field : Field} {next : Option Json → Reading α}
    (refused : field.isMistyped = true → field.names ∈ Names.overlooked ∨
      (next field.found?).Refused)
    (rest : (next field.found?).Strict) : (Reading.lookUp field next).Strict := by
  intro value read other member mistyped
  rcases List.mem_cons.1 member with rfl | later
  · rcases refused mistyped with overlooked | ⟨cause, failed⟩
    · exact overlooked
    · cases failed.symm.trans read
  · exact rest value read other later mistyped

theorem lookUp_overlooked {field : Field} {next : Option Json → Reading α}
    (overlooked : field.names ∈ Names.overlooked) (rest : (next field.found?).Strict) :
    (Reading.lookUp field next).Strict :=
  lookUp (fun _ => .inl overlooked) rest

/-- A lookup that values of other types are refused after. -/
theorem lookUp_refused {field : Field} {next : Option Json → Reading α}
    (refused : ∀ given : Json, given.kind ∉ field.kinds → (next (some given)).Refused)
    (rest : (next field.found?).Strict) : (Reading.lookUp field next).Strict := by
  refine lookUp (fun mistyped => .inr ?_) rest
  obtain ⟨given, found, other⟩ := Field.exists_of_isMistyped mistyped
  rw [found]
  exact refused given other

theorem ite {proposition : Prop} [Decidable proposition] {first second : Reading α}
    (holds : proposition → first.Strict) (fails : ¬proposition → second.Strict) :
    (if proposition then first else second).Strict := by
  split
  · exact holds ‹_›
  · exact fails ‹_›

theorem atIndex {reading : Reading α} (strict : reading.Strict) (index : Nat) :
    (reading.atIndex index).Strict := by
  intro value read field member mistyped
  rw [run_atIndex] at read
  rw [lookedUp_atIndex] at member
  exact strict value (ok_of_atIndex read) field member mistyped

theorem foldlM {step : β → α → Reading β} (strict : ∀ sofar item, (step sofar item).Strict)
    (items : List α) (start : β) : (items.foldlM step start).Strict := by
  induction items generalizing start with
  | nil => exact pure start
  | cons item rest induction => exact bind (strict start item) (fun value => induction value)

theorem mapM {read : α → Reading β} (strict : ∀ item, (read item).Strict) (items : List α) :
    (items.mapM read).Strict := by
  induction items with
  | nil => exact pure []
  | cons item rest induction =>
      rw [List.mapM_cons]
      exact bind (strict item) (fun value => bind induction (fun values => pure _))

end Strict

end Reading

/-! ## What is read from one lookup -/

theorem number?_onlyDecodes : OnlyDecodes [.number, .string] number? := by
  intro value other
  cases value with
  | number value => exact absurd List.mem_cons_self other
  | string text => exact absurd (List.mem_cons_of_mem _ List.mem_cons_self) other
  | _ => rfl

theorem int?_onlyDecodes (least greatest : Int) :
    OnlyDecodes [.number] (Json.int? least greatest) := by
  intro value other
  cases value with
  | number value => exact absurd List.mem_cons_self other
  | _ => rfl

theorem nat?_onlyDecodes (greatest : Nat) : OnlyDecodes [.number] (Json.nat? greatest) := by
  intro value other
  rw [Json.nat?, int?_onlyDecodes 0 greatest value other]
  rfl

theorem bool?_onlyDecodes : OnlyDecodes [.boolean] Json.bool? := by
  intro value other
  cases value with
  | boolean value => exact absurd List.mem_cons_self other
  | _ => rfl

theorem requireNumber_refused (field : String) {value : Json} (undecoded : number? value = none) :
    requireNumber field value = refuseValue field value := by
  rw [requireNumber, undecoded]

/-- A value that is found is not null. -/
theorem isNull_of_field? {members : Fields} {names : List String} {value : Json}
    (found : field? members names = some value) : value.isNull = false := by
  obtain ⟨name, -, given⟩ := List.exists_of_findSome?_eq_some found
  simpa using (Option.filter_eq_some_iff.1 given).2

namespace Reading

variable {α β : Type}

theorem field?_namedIndicator (name : String) {parameters : Json}
    (present : parameters.isNull = false) :
    field? (namedIndicator name (some parameters)) Names.parameters = some parameters := by
  simp [field?, given?, namedIndicator, Names.parameters, Json.lookup?, present]

theorem ask_bind (members : Fields) (names : List String) (kinds : List Json.Kind)
    (next : Option Json → Reading β) :
    ask members names kinds >>= next = lookUp ⟨members, names, kinds⟩ next := rfl

/-- An indicator is refused with parameters that are not in an object. -/
theorem Refused.indicator {members : Fields} {given : Json}
    (found : field? members Names.parameters = some given) (other : given.kind ∉ [.object]) :
    (indicator members).Refused := by
  have refused : ∀ spec, (parameters spec members).Refused := by
    intro spec
    have asked : (ask members Names.parameters [.object]).run Field.found? = .ok (some given) :=
      congrArg _ found
    refine Refused.after asked ?_
    cases given with
    | object listed => exact absurd List.mem_cons_self other
    | _ => exact .done _
  have read : (text members Names.indicator).run Field.found? =
      .ok (text? members Names.indicator) := rfl
  refine Refused.after read ?_
  cases require "indicator"
      ((text? members Names.indicator).filter (fun name => !(Text.trim name).isEmpty)) with
  | error cause => exact (Refused.done cause).bind _
  | ok name => exact Refused.after rfl ((refused _).bind _)

namespace Strict

/-- What is decoded from a field, and needed. -/
theorem decoded_needed {members : Fields} {names : List String} {kinds : List Json.Kind}
    {decode : Json → Option α} (typed : OnlyDecodes kinds decode) {next : Option α → Reading β}
    (needed : (next none).Refused)
    (rest : (next ((field? members names).bind decode)).Strict) :
    (decoded members names kinds decode >>= next).Strict := by
  refine lookUp_refused (fun given other => ?_) rest
  change (next ((some given).bind decode)).Refused
  rw [Option.bind_some, typed given other]
  exact needed

theorem text_needed {members : Fields} {names : List String} {next : Option String → Reading β}
    (needed : (next none).Refused) (rest : ∀ given, (next given).Strict) :
    (text members names >>= next).Strict :=
  decoded_needed text?_onlyDecodes needed (rest _)

theorem items_needed {members : Fields} {names : List String}
    {next : Option (List Json) → Reading β} (needed : (next none).Refused)
    (rest : ∀ given, (next given).Strict) : (items members names >>= next).Strict :=
  decoded_needed items?_onlyDecodes needed (rest _)

theorem id_needed {members : Fields} {names : List String} {next : Option String → Reading β}
    (needed : (next none).Refused) (rest : ∀ given, (next given).Strict) :
    (id members names >>= next).Strict :=
  decoded_needed idOf?_onlyDecodes needed (rest _)

theorem text (members : Fields) {names : List String} (overlooked : names ∈ Names.overlooked) :
    (text members names).Strict :=
  lookUp_overlooked overlooked (pure _)

theorem id (members : Fields) {names : List String} (overlooked : names ∈ Names.overlooked) :
    (id members names).Strict :=
  lookUp_overlooked overlooked (pure _)

/-- Whatever a field is given as, it is given. -/
theorem isGiven (members : Fields) (names : List String) : (isGiven members names).Strict := by
  intro value read field member mistyped
  obtain rfl := List.mem_singleton.1 member
  obtain ⟨given, found, other⟩ := Field.exists_of_isMistyped mistyped
  -- every other type counts, and a null is not found
  have present := isNull_of_field? found
  cases given with
  | null => cases present
  | _ => exact absurd (by simp [Json.kind]) other

theorem orElse {first second : Reading (Option String)} (former : first.Strict)
    (latter : second.Strict) : (orElse first second).Strict := by
  refine bind former (fun given => ?_)
  cases given with
  | none => exact latter
  | some given => exact pure _

theorem word {field : String} {default : α} {read? : String → Option α} (members : Fields)
    {names : List String} (overlooked : names ∈ Names.overlooked) :
    (word field default read? members names).Strict :=
  bind (text members overlooked) (fun _ => done _)

theorem value {field : String} {decode : Json → Option α} {default : α} (members : Fields)
    (names : List String) {kinds : List Json.Kind} (typed : OnlyDecodes kinds decode) :
    (value field decode default members names kinds).Strict := by
  rw [Reading.value, ask_bind]
  refine lookUp_refused (fun given other => ?_) (done _)
  rw [requireValue, typed given other]
  exact .done _

theorem number (field : String) (members : Fields) (names : List String) :
    (number field members names).Strict := by
  rw [Reading.number, ask_bind]
  refine lookUp_refused (fun given other => ?_) (done _)
  exact ⟨_, requireNumber_refused field (number?_onlyDecodes given other)⟩

theorem parameter (spec : IndicatorSpec) (name : String) (members : Fields) :
    (parameter spec name members).Strict := by
  rw [Reading.parameter, ask_bind]
  refine lookUp_refused (fun given other => ?_) ?_
  · simp only [number?_onlyDecodes given other]
    exact .done _
  · cases (Field.mk members [name] [.number, .string]).found? with
    | none => exact pure spec
    | some given =>
        dsimp only
        cases number? given with
        | none => exact done _
        | some value => exact pure _

/-! ## Conditions -/

theorem parameters (spec : IndicatorSpec) (members : Fields) :
    (parameters spec members).Strict := by
  rw [Reading.parameters, ask_bind]
  refine lookUp_refused (fun given other => ?_) ?_
  · cases given with
    | object listed => exact absurd List.mem_cons_self other
    | _ => exact .done _
  · cases (Field.mk members Names.parameters [.object]).found? with
    | none => exact pure spec
    | some given =>
        cases given with
        | object listed => exact foldlM (fun spec member => parameter spec member.1 [member]) _ _
        | _ => exact done _

theorem indicator (members : Fields) : (indicator members).Strict := by
  refine text_needed ((Refused.done _).bind _) (fun given => bind (done _) (fun name => ?_))
  exact bind (parameters _ members)
    (fun spec => foldlM (fun spec name => parameter spec name members) _ _)

/-- Either end is refused only once both have been found. -/
theorem bounds (members : Fields) : (bounds members).Strict := by
  rw [Reading.bounds, ask_bind]
  refine lookUp_refused (fun low other => ?_) (bind (done _) (fun low => ?_))
  · -- the high end is looked up before the low one is refused
    refine Refused.after rfl (Refused.after rfl ?_)
    cases (Field.mk members Names.high [.number, .string]).found? with
    | none => exact (Refused.done _).bind _
    | some high =>
        refine Refused.after rfl ?_
        rw [requireNumber_refused "low" (number?_onlyDecodes low other)]
        exact .done _
  · rw [ask_bind]
    refine lookUp_refused (fun high other => ?_) (bind (done _) (fun high => done _))
    refine Refused.after rfl ?_
    rw [requireNumber_refused "high" (number?_onlyDecodes high other)]
    cases requireNumber "low" low with
    | error cause => exact .done cause
    | ok number => exact .done _

theorem rangeEnds (members : Fields) : (rangeEnds members).Strict := by
  rw [Reading.rangeEnds, ask_bind]
  refine lookUp_refused (fun given other => ?_) ?_
  · cases given with
    | array items => exact absurd List.mem_cons_self other
    | object inner => exact absurd (List.mem_cons_of_mem _ List.mem_cons_self) other
    | _ => exact .done _
  · cases (Field.mk members Names.rangeValue [.array, .object]).found? with
    | none => exact bounds members
    | some given =>
        cases given with
        | object inner => exact bounds inner
        | array items =>
            rcases items with _ | ⟨low, _ | ⟨high, _ | ⟨third, rest⟩⟩⟩ <;> exact done _
        | _ => exact done _

theorem range (members : Fields) : (range members).Strict :=
  bind (rangeEnds members) (fun _ => ite (fun _ => done _) (fun _ => pure _))

theorem compareMode (members : Fields) (operator : Operator) :
    (compareMode members operator).Strict := by
  refine bind (text members (by decide)) (fun given => ?_)
  cases given with
  | some given =>
      dsimp only
      cases compareModeSpellings.find? (fun entry => entry.2.contains (underscored given)) with
      | none => exact done _
      | some entry => exact pure _
  | none =>
      refine ite (fun _ => pure _) (fun _ => bind (isGiven members _) (fun _ => ?_))
      refine ite (fun _ => pure _) (fun _ => bind (isGiven members _) (fun _ => ?_))
      exact ite (fun _ => pure _) (fun _ => pure _)

theorem literal (members : Fields) (operator : Operator) : (literal members operator).Strict :=
  ite (fun _ => range members) (fun _ => bind (number _ members _) (fun _ => pure _))

theorem nestedIndicator (nested members : Fields) : (nestedIndicator nested members).Strict := by
  refine bind (indicator nested) (fun spec => ?_)
  exact bind (orElse (text nested (by decide)) (text members (by decide))) (fun _ => pure _)

/-- The parameters beside a name are refused where the indicator of that name is read. -/
theorem otherIndicator (members : Fields) : (otherIndicator members).Strict := by
  rw [Reading.otherIndicator, ask_bind]
  refine lookUp_refused (fun given other => ?_) (bind (done _) (fun given => ?_))
  · refine Refused.after rfl ?_
    cases given with
    | string name => exact absurd List.mem_cons_self other
    | object inner => exact absurd (List.mem_cons_of_mem _ List.mem_cons_self) other
    | _ => exact (Refused.done _).bind _
  · cases given with
    | object inner => exact nestedIndicator inner members
    | string name =>
        -- nothing here refuses the parameters: the reading of the indicator does
        refine lookUp (fun mistyped => .inr ?_) (nestedIndicator _ members)
        obtain ⟨parameters, found, other⟩ := Field.exists_of_isMistyped mistyped
        rw [found]
        exact (Refused.indicator (field?_namedIndicator name (isNull_of_field? found)) other).bind _
    | _ => exact done _

theorem givenComparand (members : Fields) (operator : Operator) :
    (givenComparand members operator).Strict := by
  refine bind (compareMode members operator) (fun mode => ?_)
  cases mode with
  | literal => exact literal members operator
  | indicator => exact otherIndicator members
  | price bar =>
      refine bind (text members (by decide)) (fun given => ?_)
      dsimp only
      cases PriceField.parse? (given.getD "close") with
      | none => exact done _
      | some field => exact pure _
  | absent => exact pure _

theorem comparand (members : Fields) (operator : Operator) :
    (comparand members operator).Strict := by
  refine bind (givenComparand members operator) (fun given => ?_)
  cases given <;> cases operator <;> exact done _

theorem conditionKind (members : Fields) : (conditionKind members).Strict := by
  refine bind (text members (by decide)) (fun given => ?_)
  cases given with
  | some given => exact pure _
  | none => exact bind (isGiven members _) (fun _ => pure _)

theorem subject (members : Fields) : (subject members).Strict := by
  refine bind (conditionKind members) (fun kind => ?_)
  refine ite (fun _ => ?_) (fun _ => ite (fun _ => ?_) (fun _ => ?_))
  · exact bind (indicator members) (fun spec => bind (text members (by decide)) (fun _ => pure _))
  · exact bind (word members (by decide)) (fun _ => pure _)
  · exact ite (fun _ => pure _) (fun _ => done _)

theorem timeframeChoice (members : Fields) : (timeframeChoice members).Strict := by
  refine bind (text members (by decide)) (fun given => ?_)
  cases given with
  | none => exact pure _
  | some given =>
      refine ite (fun _ => pure _) (fun _ => ?_)
      cases Timeframe.parse? given with
      | none => exact done _
      | some timeframe => exact pure _

theorem percentage (members : Fields) : (percentage members).Strict := by
  rw [Reading.percentage, ask_bind]
  refine lookUp_refused (fun given other => ?_) ?_
  · simp only [requireNumber_refused "percentage" (number?_onlyDecodes given other)]
    exact .done _
  · cases (Field.mk members Names.percentage [.number, .string]).found? with
    | none => exact pure none
    | some given => exact done _

theorem condition (value : Json) : (condition value).Strict := by
  refine bind (done _) (fun members => text_needed ((Refused.done _).bind _) (fun given => ?_))
  refine bind (done _) (fun given => bind (done _) (fun operator => ?_))
  refine bind (subject members) (fun left => ?_)
  split
  · exact done _
  · exact done _
  · refine bind (comparand members operator) (fun right => ?_)
    refine bind (timeframeChoice members) (fun timeframe => ?_)
    exact bind (percentage members) (fun percentage => pure _)

/-! ## Alerts -/

theorem entry (given : Json) (index : Nat) : (entry given index).Strict := by
  refine bind (done _) (fun members => ?_)
  refine bind (id members (by decide)) (fun id => ?_)
  refine bind (value members _ (int?_onlyDecodes _ _)) (fun priority => ?_)
  refine bind (value members _ bool?_onlyDecodes) (fun enabled => ?_)
  refine bind (word members (by decide)) (fun connector => ?_)
  refine bind (value members _ (nat?_onlyDecodes _)) (fun validity => ?_)
  refine bind (word members (by decide)) (fun validityUnit => ?_)
  rw [ask_bind]
  refine lookUp_refused (fun nested other => ?_) (bind (condition _) (fun condition => pure _))
  refine Refused.bind ?_ _
  cases nested with
  | object inner => exact absurd List.mem_cons_self other
  | _ => exact (Refused.done .notAnObject).bind _

theorem takeEntry (entries : List PlaybookEntry) (given : Json × Nat) :
    (takeEntry entries given).Strict :=
  bind ((entry given.1 given.2).atIndex given.2)
    (fun _ => ite (fun _ => done _) (fun _ => pure _))

theorem playbookItems (value : Json) (alert : Fields) : (playbookItems value alert).Strict := by
  cases value with
  | object members =>
      refine items_needed (.done _) (fun given => ?_)
      cases given with
      | none => exact done _
      | some items => exact pure _
  | _ => exact done _

theorem gate (gateFields alert : Fields) : (gate gateFields alert).Strict :=
  bind (orElse (text gateFields (by decide)) (text alert (by decide))) (fun _ => done _)

theorem playbook (value : Json) (alert : Fields) : (playbook value alert).Strict := by
  refine bind (playbookItems value alert) (fun items => ite (fun _ => done _) (fun _ => ?_))
  refine bind (gate items.2 alert) (fun gate => ?_)
  exact bind (foldlM takeEntry _ _) (fun entries => pure _)

theorem alertLogic (members : Fields) : (alertLogic members).Strict := by
  rw [Reading.alertLogic, ask_bind]
  refine lookUp_refused (fun given other => ?_) ?_
  · -- refused as the items of a playbook
    refine Refused.bind (Refused.bind ?_ _) _
    cases given with
    | array items => exact absurd List.mem_cons_self other
    | object inner => exact absurd (List.mem_cons_of_mem _ List.mem_cons_self) other
    | _ => exact .done _
  · cases (Field.mk members Names.playbook [.array, .object]).found? with
    | some value => exact bind (playbook value members) (fun _ => pure _)
    | none =>
        refine items_needed (.done _) (fun given => ?_)
        rcases given with _ | _ | ⟨first, rest⟩
        · exact done _
        · exact done _
        · refine bind (mapM (fun given : Json × Nat => (condition given.1).atIndex given.2) _)
            (fun listed => ?_)
          exact bind (word members (by decide)) (fun _ => pure _)

theorem actionParts (members : Fields) (value : Json) : (actionParts members value).Strict := by
  cases value with
  | object inner => exact bind (text inner (by decide)) (fun _ => pure _)
  | _ => exact done _

theorem webhookAt (particulars : Fields) : (webhookAt particulars).Strict := by
  refine text_needed ((Refused.done _).bind _) (fun given => bind (done _) (fun url => ?_))
  exact bind (text particulars (by decide)) (fun secret => done _)

theorem namedAction (kind : String) (particulars : Fields) :
    (namedAction kind particulars).Strict := by
  rw [Reading.namedAction]
  refine ite (fun _ => webhookAt particulars) (fun _ => ite (fun _ => pure _) (fun _ => ?_))
  refine ite (fun _ => ?_) (fun _ => ite (fun _ => pure _) (fun _ => done _))
  exact id_needed ((Refused.done _).bind _) (fun given => bind (done _) (fun botId => pure _))

theorem alertAction (members : Fields) : (alertAction members).Strict := by
  rw [Reading.alertAction, ask_bind]
  refine lookUp_refused (fun given other => ?_) ?_
  · refine Refused.bind ?_ _
    cases given with
    | string kind => exact absurd List.mem_cons_self other
    | object inner => exact absurd (List.mem_cons_of_mem _ List.mem_cons_self) other
    | _ => exact .done _
  · cases (Field.mk members Names.action [.string, .object]).found? with
    | none =>
        refine bind (text members (by decide)) (fun url => ?_)
        cases url with
        | none => exact pure _
        | some url => exact bind (text members (by decide)) (fun _ => done _)
    | some value =>
        exact bind (actionParts members value) (fun parts => namedAction parts.1 parts.2)

theorem alert (given : Json) (defaultFireMode : FireMode) :
    (alert given defaultFireMode).Strict := by
  refine bind (done _) (fun members => ?_)
  refine id_needed ((Refused.done _).bind _) (fun given => bind (done _) (fun alertId => ?_))
  refine bind (id members (by decide)) (fun ownerId => ?_)
  refine text_needed ((Refused.done _).bind _) (fun given => bind (done _) (fun symbol => ?_))
  refine text_needed ((Refused.done _).bind _) (fun given => bind (done _) (fun given => ?_))
  refine bind (done _) (fun timeframe => bind (alertLogic members) (fun logic => ?_))
  refine bind (word members (by decide)) (fun fireMode => ?_)
  exact bind (alertAction members) (fun action => pure _)

end Strict

end Reading

/-! ## What becomes of mistyped fields -/

/-- The fields that are consulted for an alert, up to where it is refused if it is. -/
def consulted (given : Json) (defaultFireMode : FireMode) : List Field :=
  (Reading.alert given defaultFireMode).lookedUp Field.found?

namespace Field

/-- What is made of what is given for the field: nothing, where it is overlooked and mistyped. -/
def taken? (field : Field) : Option Json :=
  if field.isMistyped && Names.overlooked.contains field.names then none else field.found?

theorem found?_faithful : Faithful Field.found? := fun _ => .inl rfl

theorem taken?_faithful : Faithful Field.taken? := by
  intro field
  by_cases dropped : (field.isMistyped && Names.overlooked.contains field.names) = true
  · obtain ⟨mistyped, overlooked⟩ := Bool.and_eq_true_iff.1 dropped
    exact .inr ⟨mistyped, List.contains_iff_mem.1 overlooked, if_pos dropped⟩
  · exact .inl (if_neg dropped)

end Field

/-- An alert is refused where a consulted field is mistyped, unless the field is overlooked. -/
theorem readAlert_refuses_mistyped {given : Json} {defaultFireMode : FireMode} {field : Field}
    (looked : field ∈ consulted given defaultFireMode) (mistyped : field.isMistyped = true)
    (strict : field.names ∉ Names.overlooked) :
    ∃ cause, readAlert given defaultFireMode = .error cause := by
  rw [← Field.found?_faithful.run_alert given defaultFireMode]
  cases read : (Reading.alert given defaultFireMode).run Field.found? with
  | error cause => exact ⟨cause, rfl⟩
  | ok alert =>
      exact absurd (Reading.Strict.alert given defaultFireMode alert read field looked mistyped)
        strict

/-- Definitions that are read although every overlooked field is mistyped in one of them. -/
def overlookedDefinitions : List Json :=
  let wrong := Json.boolean true
  let above := [("operator", Json.string ">"), ("value", .number (.integer 1))]
  let alert := fun members => Json.object
    ([("id", .string "a"), ("symbol", .string "BTC"), ("timeframe", .string "1h")] ++ members)
  [alert
    [("owner_id", wrong), ("fire_mode", wrong), ("webhook_url", wrong), ("gate_logic", wrong),
     ("playbook", .object
       [("gate", wrong), ("entries", .array
         [.object
           ([("id", wrong), ("connector", wrong), ("validity_unit", wrong), ("kind", wrong),
             ("field", wrong), ("timeframe", wrong), ("compare_mode", wrong)] ++ above)])])],
   alert
    [("logic", wrong), ("webhook_url", .string "https://example.org/hook"),
     ("webhook_secret", wrong),
     ("conditions", .array
       [.object
         [("indicator", .string "rsi"), ("component", wrong), ("operator", .string ">"),
          ("compare_component", wrong), ("compare_indicator", .object
            [("indicator", .string "ema"), ("component", wrong)])],
        .object [("operator", .string ">"), ("compare_field", wrong)]])],
   alert [("conditions", .array [.object above]), ("action", .object [("type", wrong)])],
   alert
    [("conditions", .array [.object above]),
     ("action", .object
       [("type", .string "webhook"), ("url", .string "https://example.org/hook"),
        ("secret", wrong)])]]

/-- The overlooked fields are those that some definition is read with although they are mistyped. -/
theorem mem_overlooked_iff (names : List String) :
    names ∈ Names.overlooked ↔ ∃ given defaultFireMode alert,
      readAlert given defaultFireMode = .ok alert ∧
        ∃ field ∈ consulted given defaultFireMode,
          field.names = names ∧ field.isMistyped = true := by
  constructor
  · intro overlooked
    have checked : ∀ names ∈ Names.overlooked, overlookedDefinitions.any (fun given =>
        (readAlert given .perBar).isOk && (consulted given .perBar).any (fun field =>
          field.names == names && field.isMistyped)) = true := by
      decide +kernel
    obtain ⟨given, -, reads⟩ := List.any_eq_true.1 (checked names overlooked)
    obtain ⟨isOk, mistypedThere⟩ := Bool.and_eq_true_iff.1 reads
    obtain ⟨field, looked, mistyped⟩ := List.any_eq_true.1 mistypedThere
    obtain ⟨same, mistyped⟩ := Bool.and_eq_true_iff.1 mistyped
    cases read : readAlert given .perBar with
    | error cause =>
        rw [read] at isOk
        cases isOk
    | ok alert => exact ⟨given, .perBar, alert, read, field, looked, eq_of_beq same, mistyped⟩
  · rintro ⟨given, defaultFireMode, alert, read, field, looked, rfl, mistyped⟩
    by_contra strict
    obtain ⟨cause, refused⟩ := readAlert_refuses_mistyped looked mistyped strict
    cases read.symm.trans refused

/-- What becomes of a definition with consulted fields of types that cannot be read for them. It is
refused for any of them that is not a text or an id with something to stand in for it; these are
overlooked: the definition comes to what it comes to without what is given there. No field is listed
as overlooked that some definition is not read with. -/
theorem mistyped_refused_or_overlooked (given : Json) (defaultFireMode : FireMode) :
    (Reading.alert given defaultFireMode).run Field.found? = readAlert given defaultFireMode ∧
    (Reading.alert given defaultFireMode).run Field.taken? = readAlert given defaultFireMode ∧
    (∀ field ∈ consulted given defaultFireMode,
      field.isMistyped = true → field.names ∉ Names.overlooked →
        ∃ cause, readAlert given defaultFireMode = .error cause) ∧
    ∀ names, names ∈ Names.overlooked ↔ ∃ other fireMode alert,
      readAlert other fireMode = .ok alert ∧
        ∃ field ∈ consulted other fireMode, field.names = names ∧ field.isMistyped = true := by
  refine ⟨Field.found?_faithful.run_alert given defaultFireMode,
    Field.taken?_faithful.run_alert given defaultFireMode, ?_, mem_overlooked_iff⟩
  intro field looked mistyped strict
  exact readAlert_refuses_mistyped looked mistyped strict

/-- A condition on the closing price, with one more field. -/
def aboveOne (name : String) (value : Json) : Json := .object
  [("id", .string "a"), ("symbol", .string "BTC"), ("timeframe", .string "1h"),
   ("conditions", .array
     [.object
       [("type", .string "price"), ("field", .string "close"), ("op", .string ">"),
        ("value", .number (.integer 1)), (name, value)]])]

theorem boolean_percentage_refused :
    ∃ field ∈ consulted (aboveOne "percentage" (.boolean true)) .perBar,
      field.isMistyped = true ∧ field.names ∉ Names.overlooked ∧
        ∃ cause, readAlert (aboveOne "percentage" (.boolean true)) .perBar = .error cause := by
  have checked : (consulted (aboveOne "percentage" (.boolean true)) .perBar).any (fun field =>
      field.isMistyped && decide (field.names ∉ Names.overlooked)) = true := by
    decide +kernel
  obtain ⟨field, looked, both⟩ := List.any_eq_true.1 checked
  obtain ⟨mistyped, strict⟩ := Bool.and_eq_true_iff.1 both
  have strict := of_decide_eq_true strict
  exact ⟨field, looked, mistyped, strict,
    (mistyped_refused_or_overlooked _ _).2.2.1 field looked mistyped strict⟩

/-- A number for the timeframe of a condition is of a type that cannot be read for it, and the alert
is read all the same, on its own timeframe. -/
theorem numeric_timeframe_overlooked :
    (∃ alert, readAlert (aboveOne "timeframe" (.number (.integer 240))) .perBar = .ok alert ∧
      alert.conditions.map Condition.timeframe = [.same]) ∧
    ¬ ∀ given defaultFireMode, ∀ field ∈ consulted given defaultFireMode, field.isMistyped = true →
      ∃ cause, readAlert given defaultFireMode = .error cause := by
  have same : (readAlert (aboveOne "timeframe" (.number (.integer 240))) .perBar).toOption.any
      (fun alert => alert.conditions.map Condition.timeframe == [.same]) = true := by
    decide +kernel
  have mistypedThere : (consulted (aboveOne "timeframe" (.number (.integer 240))) .perBar).any
      Field.isMistyped = true := by
    decide +kernel
  cases read : readAlert (aboveOne "timeframe" (.number (.integer 240))) .perBar with
  | error cause =>
      rw [read] at same
      cases same
  | ok alert =>
      rw [read] at same
      refine ⟨⟨alert, rfl, eq_of_beq same⟩, fun refused => ?_⟩
      obtain ⟨field, looked, mistyped⟩ := List.any_eq_true.1 mistypedThere
      obtain ⟨cause, failed⟩ := refused _ _ field looked mistyped
      cases read.symm.trans failed

end CandleAlerts.Definition
