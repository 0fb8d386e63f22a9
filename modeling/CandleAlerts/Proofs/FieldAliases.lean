import CandleAlerts.Proofs.MistypedFields
import CandleAlerts.Proofs.JsonMembers

/-!
One name of a field in place of another.

Two readings go alike when they look up the same fields, but perhaps among other members, and come
to the same on like answers. A condition and the same condition with a member renamed are read
alike, whether the member is one of the condition's own or of an object in it; and what is looked up
is answered alike as long as every list of names that is consulted holds the two names or neither.
-/

namespace CandleAlerts

/-- The error without the value that it quotes. -/
def DefinitionError.kind : DefinitionError → DefinitionError
  | invalidField field _ => invalidField field ""
  | other => other

namespace Definition

namespace Names

/-- The lists of names that the fields of a condition go by, those of the objects in it included. -/
def ofCondition : List (List String) :=
  [operator, kind, indicatorHint, component, priceField, conditionTimeframe, percentage,
   compareMode, value, compareIndicator, compareParameters, nestedComponent, compareComponent,
   compareField, comparePriceField, rangeValue, low, high, indicator, parameters]

/-- The lists of names that a condition looks fields up by. -/
def ofLookups : List (List String) := ofCondition ++ inlineParameters.map (fun name => [name])

/-- The names under which an object may be given that has fields of its own: an indicator to compare
with, or the two ends of a range. -/
def hosts : List String := compareIndicator ++ rangeValue

/-- The lists with a name of a host among them. -/
def hosting : List (List String) := [value, compareIndicator, comparePriceField, rangeValue]

theorem mem_hosting_of_host : ∀ host ∈ hosts, ∀ names ∈ ofLookups, host ∈ names →
    names ∈ hosting := by
  decide

theorem inlineParameter_not_hosting : ∀ name ∈ inlineParameters,
    [name] ∈ ofLookups ∧ [name] ∉ hosting := by
  decide

/-- A list that shares two names with another has the shared ones first. -/
theorem shared_first : ∀ names ∈ ofCondition, ∀ others ∈ ofLookups,
    ∀ first ∈ names, first ∈ others → ∀ second ∈ names, second ∈ others → first ≠ second →
      others = others.filter (names.contains ·) ++ others.filter (!names.contains ·) := by
  decide +kernel

end Names

namespace Reading

variable {α β : Type}

/-! ## Readings that go alike -/

section Alike

variable (pair : Fields → Fields → Prop)

/-- What a field is found to be, twice: the same, or paired objects where an object is read in
turn. -/
inductive Answers (names : List String) : Option Json → Option Json → Prop
  | same (found : Option Json) : Answers names found found
  | nested {inner others : Fields} (hosting : names ∈ Names.hosting) (paired : pair inner others) :
      Answers names (some (.object inner)) (some (.object others))

/-- Readings that look up the same fields, among the same members or among paired ones, and on like
answers come to the same result or to the same kind of error. -/
inductive Alike : Reading α → Reading α → Prop
  | done {result other : Except DefinitionError α}
      (same : other.mapError DefinitionError.kind = result.mapError DefinitionError.kind) :
      Alike (done result) (done other)
  | again {field : Field} {next other : Option Json → Reading α}
      (rest : ∀ found, Alike (next found) (other found)) :
      Alike (lookUp field next) (lookUp field other)
  | among {members others : Fields} {names : List String} {kinds : List Json.Kind}
      {next other : Option Json → Reading α} (listed : names ∈ Names.ofLookups)
      (paired : pair members others)
      (rest : ∀ found otherFound, Answers pair names found otherFound →
        Alike (next found) (other otherFound)) :
      Alike (lookUp ⟨members, names, kinds⟩ next) (lookUp ⟨others, names, kinds⟩ other)

end Alike

variable {pair : Fields → Fields → Prop}

theorem Answers.eq_of_not_hosting {names : List String} {found other : Option Json}
    (answers : Answers pair names found other) (plain : names ∉ Names.hosting) : other = found := by
  cases answers with
  | same => rfl
  | nested hosting => exact absurd hosting plain

theorem Answers.text?_eq {names : List String} {found other : Option Json}
    (answers : Answers pair names found other) : other.bind Json.text? = found.bind Json.text? := by
  cases answers <;> rfl

theorem Answers.isSome_eq {names : List String} {found other : Option Json}
    (answers : Answers pair names found other) : other.isSome = found.isSome := by
  cases answers <;> rfl

theorem Answers.or {names : List String} {first firstOther second secondOther : Option Json}
    (former : Answers pair names first firstOther)
    (latter : Answers pair names second secondOther) :
    Answers pair names (first.or second) (firstOther.or secondOther) := by
  cases former with
  | same =>
      cases first with
      | none => exact latter
      | some value => exact .same _
  | nested hosting paired => exact .nested hosting paired

namespace Alike

/-- Alike readings come to the same if what they look up is answered alike. -/
theorem run {reading other : Reading α} (alike : Alike pair reading other)
    (answers : ∀ field ∈ reading.lookedUp Field.found?, ∀ others, pair field.members others →
      field.names ∈ Names.ofLookups →
        Answers pair field.names field.found? (field? others field.names)) :
    (other.run Field.found?).mapError DefinitionError.kind =
      (reading.run Field.found?).mapError DefinitionError.kind := by
  induction alike with
  | done same => exact same
  | @again field next other rest induction =>
      refine induction field.found? (fun later looked => ?_)
      exact answers later (List.mem_cons_of_mem field looked)
  | @among members others names kinds next other listed paired rest induction =>
      have here := answers ⟨members, names, kinds⟩ List.mem_cons_self others paired listed
      refine induction _ _ here (fun later looked => answers later ?_)
      exact List.mem_cons_of_mem (Field.mk members names kinds) looked

@[refl] theorem refl (reading : Reading α) : Alike pair reading reading := by
  induction reading with
  | done result => exact done rfl
  | lookUp field next induction => exact again induction

theorem bind {first other : Reading α} {next latter : α → Reading β}
    (alike : Alike pair first other) (rest : ∀ value, Alike pair (next value) (latter value)) :
    Alike pair (first >>= next) (other >>= latter) := by
  induction alike with
  | @done result other same =>
      cases result with
      | ok value =>
          cases other with
          | ok value => cases same; exact rest value
          | error cause => cases same
      | error cause =>
          cases other with
          | ok value => cases same
          | error cause => exact done (congrArg Except.error (Except.error.inj same))
  | again _ induction => exact again induction
  | among listed paired _ induction => exact among listed paired induction

theorem ite {proposition : Prop} [Decidable proposition] {first second former latter : Reading α}
    (holds : Alike pair first former) (fails : Alike pair second latter) :
    Alike pair (if proposition then first else second)
      (if proposition then former else latter) := by
  split
  · exact holds
  · exact fails

theorem foldlM {step other : β → α → Reading β} {items : List α}
    (alike : ∀ item ∈ items, ∀ sofar, Alike pair (step sofar item) (other sofar item)) (start : β) :
    Alike pair (items.foldlM step start) (items.foldlM other start) := by
  induction items generalizing start with
  | nil => rfl
  | cons item rest induction =>
      exact bind (alike item List.mem_cons_self start)
        (induction fun later among => alike later (List.mem_cons_of_mem item among))

/-! ## Lookups -/

section Lookups

variable {members others : Fields} (paired : pair members others)

include paired

/-- A lookup whose answers are used in the same way. -/
theorem ask_bind {names : List String} {kinds : List Json.Kind}
    {next other : Option Json → Reading α} (listed : names ∈ Names.ofLookups)
    (rest : ∀ found otherFound, Answers pair names found otherFound →
      Alike pair (next found) (other otherFound)) :
    Alike pair (ask members names kinds >>= next) (ask others names kinds >>= other) :=
  among listed paired rest

/-- A lookup by names that no host goes by is answered with the same. -/
theorem ask {names : List String} (kinds : List Json.Kind) (listed : names ∈ Names.ofLookups)
    (plain : names ∉ Names.hosting) :
    Alike pair (ask members names kinds) (ask others names kinds) := by
  refine among listed paired (fun found otherFound answers => ?_)
  rw [answers.eq_of_not_hosting plain]

theorem text {names : List String} (listed : names ∈ Names.ofLookups) :
    Alike pair (text members names) (text others names) := by
  refine among listed paired (fun found otherFound answers => done ?_)
  rw [answers.text?_eq]

theorem isGiven {names : List String} (listed : names ∈ Names.ofLookups) :
    Alike pair (isGiven members names) (isGiven others names) := by
  refine among listed paired (fun found otherFound answers => done ?_)
  rw [answers.isSome_eq]

theorem word {field : String} {default : α} {read? : String → Option α} {names : List String}
    (listed : names ∈ Names.ofLookups) :
    Alike pair (word field default read? members names) (word field default read? others names) :=
  bind (text paired listed) (fun _ => refl _)

/-- An object is as little a number as another. -/
theorem number (field : String) {names : List String} (listed : names ∈ Names.ofLookups) :
    Alike pair (number field members names) (number field others names) := by
  refine ask_bind paired listed (fun found otherFound answers => done ?_)
  cases answers <;> rfl

theorem parameter (spec : IndicatorSpec) {name : String} (listed : [name] ∈ Names.ofLookups)
    (plain : [name] ∉ Names.hosting) :
    Alike pair (parameter spec name members) (parameter spec name others) :=
  bind (ask paired _ listed plain) (fun _ => refl _)

/-! ## Indicators and ranges -/

theorem parameters (spec : IndicatorSpec) :
    Alike pair (parameters spec members) (parameters spec others) :=
  bind (ask paired _ (by decide) (by decide)) (fun _ => refl _)

theorem indicator : Alike pair (indicator members) (indicator others) := by
  refine bind (text paired (by decide)) (fun given => bind (refl _) (fun name => ?_))
  refine bind (parameters paired _) (fun spec => foldlM (fun name among spec => ?_) spec)
  obtain ⟨listed, plain⟩ := Names.inlineParameter_not_hosting name among
  exact parameter paired spec listed plain

theorem bounds : Alike pair (bounds members) (bounds others) := by
  refine bind (ask paired _ (by decide) (by decide)) (fun low => bind (refl _) (fun low => ?_))
  exact bind (ask paired _ (by decide) (by decide)) (fun _ => refl _)

theorem rangeEnds : Alike pair (rangeEnds members) (rangeEnds others) := by
  refine ask_bind paired (by decide) (fun found otherFound answers => ?_)
  cases answers with
  | same =>
      cases found with
      | none => exact bounds paired
      | some given =>
          cases given with
          | array items => rcases items with _ | ⟨low, _ | ⟨high, _ | ⟨third, rest⟩⟩⟩ <;> rfl
          | _ => rfl
  | nested hosting inner => exact bounds inner

theorem range : Alike pair (range members) (range others) :=
  bind (rangeEnds paired) (fun _ => refl _)

/-! ## The right side -/

theorem compareMode (operator : Operator) :
    Alike pair (compareMode members operator) (compareMode others operator) := by
  refine bind (text paired (by decide)) (fun given => ?_)
  cases given with
  | some given => rfl
  | none =>
      refine ite (refl _) (bind (isGiven paired (by decide)) (fun indicatorGiven => ?_))
      exact ite (refl _) (bind (isGiven paired (by decide)) (fun _ => refl _))

theorem literal (operator : Operator) :
    Alike pair (literal members operator) (literal others operator) :=
  ite (range paired) (bind (number paired "value" (by decide)) (fun _ => refl _))

theorem nestedIndicator {nested otherNested : Fields}
    (spec : Alike pair (Reading.indicator nested) (Reading.indicator otherNested))
    (component : Alike pair (Reading.text nested Names.nestedComponent)
      (Reading.text otherNested Names.nestedComponent)) :
    Alike pair (nestedIndicator nested members) (nestedIndicator otherNested others) := by
  refine bind spec (fun spec => bind (bind component (fun given => ?_)) (fun _ => refl _))
  cases given with
  | some given => rfl
  | none => exact text paired (by decide)

theorem otherIndicator : Alike pair (otherIndicator members) (otherIndicator others) := by
  refine ask_bind paired (by decide) (fun found otherFound answers => ?_)
  cases answers with
  | nested hosting inner =>
      exact nestedIndicator paired (indicator inner) (text inner (by decide))
  | same =>
      refine bind (refl _) (fun given => ?_)
      cases given with
      | object inner => exact nestedIndicator paired (refl _) (refl _)
      | string name =>
          refine bind (bind (ask paired _ (by decide) (by decide)) (fun _ => refl _))
            (fun nested => ?_)
          exact nestedIndicator paired (refl _) (refl _)
      | _ => rfl

theorem givenComparand (operator : Operator) :
    Alike pair (givenComparand members operator) (givenComparand others operator) := by
  refine bind (compareMode paired operator) (fun mode => ?_)
  cases mode with
  | literal => exact literal paired operator
  | indicator => exact otherIndicator paired
  | price bar => exact bind (text paired (by decide)) (fun _ => refl _)
  | absent => rfl

theorem comparand (operator : Operator) :
    Alike pair (comparand members operator) (comparand others operator) :=
  bind (givenComparand paired operator) (fun _ => refl _)

/-! ## The condition -/

theorem conditionKind : Alike pair (conditionKind members) (conditionKind others) := by
  refine bind (text paired (by decide)) (fun given => ?_)
  cases given with
  | some given => rfl
  | none => exact bind (isGiven paired (by decide)) (fun _ => refl _)

theorem subject : Alike pair (subject members) (subject others) := by
  refine bind (conditionKind paired) (fun kind => ite ?_ (ite ?_ (refl _)))
  · exact bind (indicator paired) (fun spec => bind (text paired (by decide)) (fun _ => refl _))
  · exact bind (word paired (by decide)) (fun _ => refl _)

theorem timeframeChoice : Alike pair (timeframeChoice members) (timeframeChoice others) :=
  bind (text paired (by decide)) (fun _ => refl _)

theorem percentage : Alike pair (percentage members) (percentage others) :=
  bind (ask paired _ (by decide) (by decide)) (fun _ => refl _)

theorem condition : Alike pair (condition (.object members)) (condition (.object others)) := by
  change Alike pair (Reading.text members Names.operator >>= _)
    (Reading.text others Names.operator >>= _)
  refine bind (text paired (by decide)) (fun given => bind (refl _) (fun given => ?_))
  refine bind (refl _) (fun operator => bind (subject paired) (fun subject => ?_))
  split
  · rfl
  · rfl
  · refine bind (comparand paired operator) (fun comparand => ?_)
    refine bind (timeframeChoice paired) (fun timeframe => ?_)
    exact bind (percentage paired) (fun _ => refl _)

end Lookups

end Alike

end Reading

/-! ## Renamed members -/

/-- The second members are the first, with what goes by `key` going by `other` instead. -/
structure Renames (key other : String) (members renamed : Fields) : Prop where
  moved : Json.lookup? renamed other = Json.lookup? members key
  gone : Json.lookup? renamed key = none
  kept : ∀ name, name ≠ key → name ≠ other →
    Json.lookup? renamed name = Json.lookup? members name

/-- A value with members in it that are renamed: the members of the value itself, or those of an
object that one of its members is. -/
inductive RenamedIn (members renamed : Fields) : Json → Json → Prop
  | whole : RenamedIn members renamed (.object members) (.object renamed)
  | within {host : String} {outer others : Fields} (listed : host ∈ Names.hosts)
      (before : Json.lookup? outer host = some (.object members))
      (after : Json.lookup? others host = some (.object renamed))
      (kept : ∀ name, name ≠ host → Json.lookup? others name = Json.lookup? outer name) :
      RenamedIn members renamed (.object outer) (.object others)

theorem given?_eq_of_lookup?_eq {members others : Fields} {name otherName : String}
    (same : Json.lookup? others otherName = Json.lookup? members name) :
    given? others otherName = given? members name :=
  congrArg (Option.filter _) same

theorem field?_cons (members : Fields) (name : String) (names : List String) :
    field? members (name :: names) = (given? members name).or (field? members names) := by
  rw [field?, List.findSome?_cons]
  cases given? members name <;> rfl

theorem field?_append (members : Fields) (names others : List String) :
    field? members (names ++ others) = (field? members names).or (field? members others) :=
  List.findSome?_append

theorem field?_eq_of_given?_eq {members others : Fields} {names : List String}
    (same : ∀ name ∈ names, given? others name = given? members name) :
    field? others names = field? members names := by
  induction names with
  | nil => rfl
  | cons name rest induction =>
      obtain ⟨here, later⟩ := List.forall_mem_cons.1 same
      rw [field?_cons, field?_cons, here, induction later]

/-- A field that is given under one name at most is what is given under that name. -/
theorem field?_of_alone {members : Fields} {names : List String} {key : String}
    (listed : key ∈ names) (alone : ∀ name ∈ names, name ≠ key → given? members name = none) :
    field? members names = given? members key := by
  cases given : given? members key with
  | none =>
      refine List.findSome?_eq_none_iff.2 (fun name among => ?_)
      by_cases same : name = key
      · rw [same, given]
      · exact alone name among same
  | some value =>
      cases found : field? members names with
      | none => exact absurd (List.findSome?_eq_none_iff.1 found key listed) (by simp [given])
      | some other =>
          obtain ⟨name, among, there⟩ := List.exists_of_findSome?_eq_some found
          by_cases same : name = key
          · rw [← there, same, given]
          · cases (alone name among same).symm.trans there

/-- The members with another name in place of one. -/
def rename (key other : String) (members : Fields) : Fields :=
  members.map (fun member => if member.1 = key then (other, member.2) else member)

theorem renames_rename {key other : String} {members : Fields}
    (absent : ∀ member ∈ members, member.1 ≠ other) :
    Renames key other members (rename key other members) := by
  induction members with
  | nil => exact ⟨rfl, rfl, fun _ _ _ => rfl⟩
  | cons member rest induction =>
      obtain ⟨name, value⟩ := member
      obtain ⟨notOther, later⟩ := List.forall_mem_cons.1 absent
      obtain ⟨moved, gone, kept⟩ := induction later
      by_cases same : name = key
      · subst same
        rw [rename, List.map_cons, if_pos rfl]
        refine ⟨?_, ?_, fun given notKey notOther => ?_⟩
        · rw [Json.lookup?_cons, Json.lookup?_cons, if_pos rfl, if_pos rfl]
          exact congrArg (Option.or · (some value)) moved
        · rw [Json.lookup?_cons, if_neg notOther.symm, Option.or_none]
          exact gone
        · rw [Json.lookup?_cons, Json.lookup?_cons, if_neg notOther.symm, if_neg notKey.symm]
          exact congrArg (Option.or · none) (kept given notKey notOther)
      · rw [rename, List.map_cons, if_neg same]
        refine ⟨?_, ?_, fun given notKey notOther => ?_⟩
        · rw [Json.lookup?_cons, Json.lookup?_cons, if_neg notOther, if_neg same]
          exact congrArg (Option.or · none) moved
        · rw [Json.lookup?_cons, if_neg same, Option.or_none]
          exact gone
        · rw [Json.lookup?_cons, Json.lookup?_cons]
          exact congrArg (Option.or · _) (kept given notKey notOther)

/-- Members in normal form are renamed as the members are. -/
theorem Renames.normal {key other : String} {members renamed : Fields}
    (renames : Renames key other members renamed) :
    Renames key other (Json.normalMembers members).entries
      (Json.normalMembers renamed).entries := by
  have normal (given : Fields) (name : String) :
      Json.lookup? (Json.normalMembers given).entries name =
        (Json.lookup? given name).map Json.normal := by
    rw [Json.lookup?_entries, Json.get?_normalMembers]
  refine ⟨?_, ?_, fun name notKey notOther => ?_⟩
  · rw [normal, normal, renames.moved]
  · rw [normal, renames.gone, Option.map_none]
  · rw [normal, normal, renames.kept name notKey notOther]

namespace Renames

variable {key other : String} {members renamed : Fields}
  (renames : Renames key other members renamed)

include renames

theorem given?_other : given? renamed other = given? members key :=
  given?_eq_of_lookup?_eq renames.moved

theorem given?_key : given? renamed key = none := by
  rw [given?, renames.gone]
  rfl

theorem given?_of_ne {name : String} (notKey : name ≠ key) (notOther : name ≠ other) :
    given? renamed name = given? members name :=
  given?_eq_of_lookup?_eq (renames.kept name notKey notOther)

/-- A field that goes by neither of the names is found as before. -/
theorem field?_of_neither {names : List String} (notKey : key ∉ names) (notOther : other ∉ names) :
    field? renamed names = field? members names := by
  refine field?_eq_of_given?_eq (fun name among => renames.given?_of_ne ?_ ?_)
  · rintro rfl
    exact notKey among
  · rintro rfl
    exact notOther among

/-- A field given under one name at most is found under the other as before under the one. -/
theorem field?_of_alone {names : List String} (keyListed : key ∈ names)
    (otherListed : other ∈ names)
    (alone : ∀ name ∈ names, name ≠ key → given? members name = none) :
    field? renamed names = field? members names := by
  rw [Definition.field?_of_alone keyListed alone, ← renames.given?_other]
  refine Definition.field?_of_alone otherListed (fun name among notOther => ?_)
  by_cases same : name = key
  · rw [same]
    exact renames.given?_key
  · rw [renames.given?_of_ne same notOther]
    exact alone name among same

/-- A field that goes by both of the names, or by neither, is found as before. -/
theorem field?_eq {names : List String} (listed : names ∈ Names.ofCondition)
    (keyListed : key ∈ names) (otherListed : other ∈ names)
    (alone : ∀ name ∈ names, name ≠ key → given? members name = none)
    {others : List String} (othersListed : others ∈ Names.ofLookups)
    (together : key ∈ others ↔ other ∈ others) :
    field? renamed others = field? members others := by
  by_cases both : key ∈ others
  · by_cases same : key = other
    · -- the one member that could change is not there
      subst same
      refine field?_eq_of_given?_eq (fun name among => ?_)
      by_cases sameName : name = key
      · rw [sameName, renames.given?_other]
      · exact renames.given?_of_ne sameName sameName
    · rw [Names.shared_first names listed others othersListed key keyListed both other otherListed
        (together.1 both) same, field?_append, field?_append]
      congr 1
      · refine renames.field?_of_alone ?_ ?_ (fun name among => ?_)
        · exact List.mem_filter.2 ⟨both, List.contains_iff_mem.2 keyListed⟩
        · exact List.mem_filter.2 ⟨together.1 both, List.contains_iff_mem.2 otherListed⟩
        · exact alone name (List.contains_iff_mem.1 (List.mem_filter.1 among).2)
      · refine renames.field?_of_neither ?_ ?_
        · simp [keyListed]
        · simp [otherListed]
  · exact renames.field?_of_neither both (fun among => both (together.2 among))

end Renames

/-- Answers for each of some names make the answer for the first of them that is given. -/
theorem answers_of_given? {pair : Fields → Fields → Prop} {members others : Fields}
    {names among : List String}
    (each : ∀ name ∈ among, Reading.Answers pair names (given? members name) (given? others name)) :
    Reading.Answers pair names (field? members among) (field? others among) := by
  induction among with
  | nil => exact .same none
  | cons name rest induction =>
      obtain ⟨here, later⟩ := List.forall_mem_cons.1 each
      rw [field?_cons, field?_cons]
      exact here.or (induction later)

/-- Where one member is an object and another stands in its place, a field is found to be the same,
or to be the one and the other. -/
theorem answers_of_kept {pair : Fields → Fields → Prop} {host : String}
    {outer others members renamed : Fields} (listed : host ∈ Names.hosts)
    (before : Json.lookup? outer host = some (.object members))
    (after : Json.lookup? others host = some (.object renamed))
    (kept : ∀ name, name ≠ host → Json.lookup? others name = Json.lookup? outer name)
    (paired : pair members renamed) {names : List String} (looked : names ∈ Names.ofLookups) :
    Reading.Answers pair names (field? outer names) (field? others names) := by
  have each : ∀ name ∈ names,
      Reading.Answers pair names (given? outer name) (given? others name) := by
    intro name among
    by_cases same : name = host
    · subst same
      rw [given?, given?, before, after]
      exact .nested (Names.mem_hosting_of_host name listed names looked among) paired
    · rw [given?_eq_of_lookup?_eq (kept name same)]
      exact .same _
  exact answers_of_given? each

/-- What a condition comes to: the condition, or the kind of error that it is refused for. -/
def conditionOutcome (value : Json) : Except DefinitionError Condition :=
  (readCondition value).mapError DefinitionError.kind

/-- The fields that are looked up among some members in reading a condition, by their names. -/
def Consults (value : Json) (members : Fields) (names : List String) : Prop :=
  ∃ kinds, Field.mk members names kinds ∈ (Reading.condition value).lookedUp Field.found?

/-- A condition read with a member under another of the names of its field comes to the same, or is
refused for the same kind of error. The field is given under no third name, and each field consulted
among the members goes by both of the names or by neither: the other name is read for nothing else,
and whatever reads the one reads the other. -/
theorem readCondition_renamed {value renamedValue : Json} {members renamed : Fields}
    {names : List String} {key other : String} (listed : names ∈ Names.ofCondition)
    (keyListed : key ∈ names) (otherListed : other ∈ names)
    (alone : ∀ name ∈ names, name ≠ key → given? members name = none)
    (renames : Renames key other members renamed)
    (placed : RenamedIn members renamed value renamedValue)
    (nothingElse : ∀ others, Consults value members others → other ∈ others → key ∈ others)
    (nothingLess : ∀ others, Consults value members others → key ∈ others → other ∈ others) :
    conditionOutcome renamedValue = conditionOutcome value := by
  rw [conditionOutcome, conditionOutcome, ← Field.found?_faithful.run_condition value,
    ← Field.found?_faithful.run_condition renamedValue]
  have here : ∀ field ∈ (Reading.condition value).lookedUp Field.found?, field.members = members →
      field.names ∈ Names.ofLookups → field? renamed field.names = field.found? := by
    rintro ⟨fieldMembers, fieldNames, kinds⟩ looked rfl fieldListed
    have consults : Consults value fieldMembers fieldNames := ⟨kinds, looked⟩
    exact renames.field?_eq listed keyListed otherListed alone fieldListed
      ⟨nothingLess fieldNames consults, nothingElse fieldNames consults⟩
  cases placed with
  | whole =>
      let pair := fun former latter : Fields => former = members ∧ latter = renamed
      have paired : pair members renamed := ⟨rfl, rfl⟩
      refine (Reading.Alike.condition paired).run ?_
      rintro field looked _ ⟨sameMembers, rfl⟩ fieldListed
      rw [here field looked sameMembers fieldListed]
      exact .same _
  | @within host outer others hostListed before after kept =>
      let pair := fun former latter : Fields =>
        former = members ∧ latter = renamed ∨ former = outer ∧ latter = others
      have paired : pair outer others := .inr ⟨rfl, rfl⟩
      refine (Reading.Alike.condition paired).run ?_
      rintro field looked _ (⟨sameMembers, rfl⟩ | ⟨sameMembers, rfl⟩) fieldListed
      · rw [here field looked sameMembers fieldListed]
        exact .same _
      · rw [Field.found?, sameMembers]
        exact answers_of_kept hostListed before after kept (.inl ⟨rfl, rfl⟩) fieldListed

/-- What is looked up by either of two names is looked up by both. -/
theorem Consults.agree {value : Json} {key other : String}
    (checked : ((Reading.condition value).lookedUp Field.found?).all (fun field =>
      field.names.contains key == field.names.contains other) = true)
    {members : Fields} {names : List String} (consults : Consults value members names) :
    key ∈ names ↔ other ∈ names := by
  obtain ⟨kinds, looked⟩ := consults
  have same := eq_of_beq (List.all_eq_true.1 checked _ looked)
  rw [← List.contains_iff_mem, ← List.contains_iff_mem, same]

theorem toOption_mapError {ε ε' α : Type} (change : ε → ε') (result : Except ε α) :
    (result.mapError change).toOption = result.toOption := by
  cases result <;> rfl

/-- An indicator below 30, named under a name of the field. -/
def belowThirty (name : String) (others : Fields) : Fields :=
  (name, .string "RSI") :: ("op", .string "<") :: ("value", .number (.integer 30)) :: others

/-- The closing price against an average, named under a name of the field. -/
def aboveAverage (name : String) : Fields :=
  [("kind", .string "price"), ("op", .string "crosses_above"),
   ("compare_indicator", .object [(name, .string "EMA"), ("period", .number (.integer 50))])]

/-- With the kind said, an indicator may go by a name that does not suggest one; and so may an
indicator to compare with. -/
theorem indicator_read_by_last_names :
    conditionOutcome (Json.object (belowThirty "name" [("kind", .string "indicator")])).normal =
        conditionOutcome
          (Json.object (belowThirty "indicator" [("kind", .string "indicator")])).normal ∧
      conditionOutcome (.object (aboveAverage "pattern")) =
        conditionOutcome (.object (aboveAverage "indicator")) := by
  constructor
  · have agree := @Consults.agree
      (Json.object (belowThirty "indicator" [("kind", .string "indicator")])).normal
      "indicator" "name" (by decide +kernel)
    have renames : Renames "indicator" "name"
        (belowThirty "indicator" [("kind", .string "indicator")])
        (belowThirty "name" [("kind", .string "indicator")]) := renames_rename (by decide)
    exact readCondition_renamed (show Names.indicator ∈ Names.ofCondition by decide) (by decide)
      (by decide) (by decide +kernel) renames.normal .whole
      (fun others consults => (agree consults).2) (fun others consults => (agree consults).1)
  · have agree := @Consults.agree (.object (aboveAverage "indicator")) "indicator" "pattern"
      (by decide +kernel)
    have kept : ∀ name, name ≠ "compare_indicator" →
        Json.lookup? (aboveAverage "pattern") name =
          Json.lookup? (aboveAverage "indicator") name := by
      intro name other
      simp [aboveAverage, Json.lookup?_cons, other.symm]
    exact readCondition_renamed (show Names.indicator ∈ Names.ofCondition by decide) (by decide)
      (by decide) (by decide +kernel) (renames_rename (by decide))
      (.within (by decide) rfl rfl kept)
      (fun others consults => (agree consults).2) (fun others consults => (agree consults).1)

/-- Without a kind, an indicator is only looked for under the first three of its names. -/
theorem indicator_renamed_to_name :
    ((readCondition (.object (belowThirty "indicator" []))).toOption.map Condition.kind =
        some .indicator ∧
      (readCondition (.object (belowThirty "name" []))).toOption.map Condition.kind =
        some .price) ∧
    ¬ ∀ (names : List String) (key other : String) (members renamed : Fields),
      names ∈ Names.ofCondition → key ∈ names → other ∈ names →
      (Json.lookup? members key).isSome = true →
      (∀ name ∈ names, name ≠ key → Json.lookup? members name = none) →
      (∀ others ∈ Names.ofLookups, other ∈ others → others = names) →
      Renames key other members renamed →
        conditionOutcome (.object renamed) = conditionOutcome (.object members) := by
  have kinds : (readCondition (.object (belowThirty "indicator" []))).toOption.map Condition.kind =
        some .indicator ∧
      (readCondition (.object (belowThirty "name" []))).toOption.map Condition.kind =
        some .price := by
    decide +kernel
  refine ⟨kinds, fun interchangeable => ?_⟩
  have same := interchangeable Names.indicator "indicator" "name" (belowThirty "indicator" [])
    (belowThirty "name" []) (by decide) (by decide) (by decide) (by decide) (by decide) (by decide)
    (renames_rename (by decide))
  have sameKind := congrArg (fun read => read.toOption.map Condition.kind) same
  simp only [conditionOutcome, toOption_mapError, kinds] at sameKind
  cases sameKind

end Definition

end CandleAlerts
