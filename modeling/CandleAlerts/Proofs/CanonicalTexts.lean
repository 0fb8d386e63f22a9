import CandleAlerts.Proofs.ByteOrder
import CandleAlerts.Proofs.DescentReading
import CandleAlerts.Proofs.EventTexts

/-!
Canonical texts.

Two values are the same when their objects answer the same under every name. Canonical texts tell
values apart exactly when they are not the same: members are written in one order, by the bytes of
their names, and every text is read back by the grammar alone.
-/

namespace CandleAlerts.Json

/-! ## Values that are the same -/

/-- Whether two values are the same, their objects being maps from names to values. -/
inductive Same : Json → Json → Prop
  | null : Same null null
  | boolean (value : Bool) : Same (boolean value) (boolean value)
  | number (value : Number) : Same (number value) (number value)
  | string (text : String) : Same (string text) (string text)
  | array {items others : List Json} (length : items.length = others.length)
      (each : ∀ (place : Nat) (item other : Json), items[place]? = some item →
        others[place]? = some other → Same item other) :
      Same (array items) (array others)
  | object {members others : List (String × Json)}
      (names : ∀ name, (lookup? members name).isSome = (lookup? others name).isSome)
      (each : ∀ name value other, lookup? members name = some value →
        lookup? others name = some other → Same value other) :
      Same (object members) (object others)

/-- Values that are the same have one normal form. -/
theorem Same.normal_eq {value other : Json} (same : Same value other) :
    value.normal = other.normal := by
  induction same with
  | null => rfl
  | boolean value => rfl
  | number value => rfl
  | string text => rfl
  | @array items others length each induction =>
      refine congrArg Json.array ?_
      rw [normalItems_eq_map, normalItems_eq_map]
      apply List.ext_getElem?
      intro place
      rw [List.getElem?_map, List.getElem?_map]
      cases found : items[place]? with
      | none =>
          have beyond : others.length ≤ place := length ▸ List.getElem?_eq_none_iff.1 found
          rw [List.getElem?_eq_none_iff.2 beyond]
      | some item =>
          obtain ⟨within, -⟩ := List.getElem?_eq_some_iff.1 found
          have otherFound := List.getElem?_eq_getElem (length ▸ within : place < others.length)
          rw [otherFound]
          exact congrArg some (induction place item _ found otherFound)
  | @object members others names each induction =>
      refine congrArg (fun table : Table Json => Json.object table.entries) (Table.eq_of_get? ?_)
      intro name
      rw [get?_normalMembers, get?_normalMembers]
      have named := names name
      cases found : lookup? members name with
      | none =>
          rw [found] at named
          cases otherFound : lookup? others name with
          | none => rfl
          | some other =>
              rw [otherFound] at named
              cases named
      | some value =>
          rw [found] at named
          obtain ⟨other, otherFound⟩ := Option.isSome_iff_exists.1 named.symm
          rw [otherFound]
          exact congrArg some (induction name value other found otherFound)

/-- Values of one normal form are the same. -/
theorem same_of_normal_eq {value other : Json} (equal : value.normal = other.normal) :
    Same value other := by
  induction value using inductionOnParts generalizing other with
  | null =>
      cases other <;> cases equal
      exact .null
  | boolean value =>
      cases other <;> cases equal
      exact .boolean value
  | number value =>
      cases other <;> cases equal
      exact .number value
  | string text =>
      cases other <;> cases equal
      exact .string text
  | array items induction =>
      cases other with
      | array others =>
          have lists : items.map normal = others.map normal := by
            rw [← normalItems_eq_map, ← normalItems_eq_map]
            injection equal
          refine .array (by simpa using congrArg List.length lists) ?_
          intro place item other found otherFound
          have both := congrArg (fun list : List Json => list[place]?) lists
          simp only [List.getElem?_map, found, otherFound] at both
          exact induction item (List.mem_of_getElem? found) (Option.some.inj both)
      | _ => cases equal
  | object members induction =>
      cases other with
      | object others =>
          have answers (name : String) : (lookup? members name).map normal =
              (lookup? others name).map normal := by
            rw [← get?_object, ← get?_normal, equal, get?_normal, get?_object]
          refine .object ?_ ?_
          · intro name
            rw [← Option.isSome_map (f := normal), answers, Option.isSome_map]
          · intro name value other found otherFound
            have both := answers name
            rw [found, otherFound] at both
            exact induction (name, value) (mem_of_lookup? found) (Option.some.inj both)
      | _ => cases equal

theorem same_iff_normal_eq {value other : Json} :
    Same value other ↔ value.normal = other.normal :=
  ⟨Same.normal_eq, same_of_normal_eq⟩

theorem lookup?_eq_some_iff {members : List (String × Json)}
    (distinct : (members.map Prod.fst).Nodup) {name : String} {value : Json} :
    lookup? members name = some value ↔ (name, value) ∈ members := by
  induction members with
  | nil => simp [lookup?]
  | cons member rest induction =>
      rcases member with ⟨key, given⟩
      rw [List.map_cons, List.nodup_cons] at distinct
      rw [lookup?_cons, Option.or_eq_some_iff, List.mem_cons, ← induction distinct.2]
      by_cases same : key = name
      · subst same
        have absent : lookup? rest key = none := by
          apply lookup?_of_forall_ne
          intro other among again
          exact distinct.1 (List.mem_map.2 ⟨other, among, again⟩)
        simp [absent, eq_comm]
      · simp [same, Ne.symm same]

/-- The order in which members with names of their own were put in makes no difference. -/
theorem same_of_perm {members reordered : List (String × Json)} (perm : members.Perm reordered)
    (distinct : (members.map Prod.fst).Nodup) : Same (object members) (object reordered) := by
  have answers (name : String) : lookup? members name = lookup? reordered name := by
    apply Option.ext
    intro value
    rw [lookup?_eq_some_iff distinct, lookup?_eq_some_iff ((perm.map Prod.fst).nodup distinct),
      perm.mem_iff]
  apply same_of_normal_eq
  refine congrArg (fun table : Table Json => object table.entries) (Table.eq_of_get? ?_)
  intro name
  rw [get?_normalMembers, get?_normalMembers, answers]

/-! ## Properties that a normal form keeps -/

theorem EachNumber.normal {holds : Number → Prop} {value : Json} (each : EachNumber holds value) :
    EachNumber holds value.normal := by
  induction value using inductionOnParts with
  | null => exact each
  | boolean value => exact each
  | number value => exact each
  | string text => exact each
  | array items induction =>
      rw [eachNumber_array_iff] at each
      rw [Json.normal, normalItems_eq_map, eachNumber_array_iff, List.forall_mem_map]
      intro item among
      exact induction item among (each item among)
  | object members induction =>
      rw [eachNumber_object_iff] at each
      rw [Json.normal, eachNumber_object_iff]
      intro member among
      obtain ⟨given, listed, same⟩ := exists_of_mem_normalMembers among
      rw [same]
      exact induction given listed (each given listed)

mutual

/-- Whether the bytes of the names increase in every object. -/
def NamesIncrease : Json → Prop
  | array items => NamesIncreaseItems items
  | object members =>
      members.Pairwise (fun first second => Text.bytes first.1 < Text.bytes second.1) ∧
        NamesIncreaseMembers members
  | _ => True

def NamesIncreaseItems : List Json → Prop
  | [] => True
  | item :: rest => NamesIncrease item ∧ NamesIncreaseItems rest

def NamesIncreaseMembers : List (String × Json) → Prop
  | [] => True
  | (_, value) :: rest => NamesIncrease value ∧ NamesIncreaseMembers rest

end

theorem namesIncrease_array_iff {items : List Json} :
    NamesIncrease (array items) ↔ ∀ item ∈ items, NamesIncrease item := by
  rw [NamesIncrease]
  induction items with
  | nil => simp [NamesIncreaseItems]
  | cons item rest induction => simp [NamesIncreaseItems, induction]

theorem namesIncreaseMembers_iff {members : List (String × Json)} :
    NamesIncreaseMembers members ↔ ∀ member ∈ members, NamesIncrease member.2 := by
  induction members with
  | nil => simp [NamesIncreaseMembers]
  | cons member rest induction => simp [NamesIncreaseMembers, induction]

/-- The names of a normal form increase, and so do their bytes. -/
theorem namesIncrease_normal (value : Json) : NamesIncrease value.normal := by
  induction value using inductionOnParts with
  | null => trivial
  | boolean value => trivial
  | number value => trivial
  | string text => trivial
  | array items induction =>
      rw [normal, normalItems_eq_map, namesIncrease_array_iff, List.forall_mem_map]
      exact induction
  | object members induction =>
      refine ⟨(normalMembers members).ordered.imp Text.bytes_lt, namesIncreaseMembers_iff.2 ?_⟩
      intro member among
      obtain ⟨given, listed, same⟩ := exists_of_mem_normalMembers among
      rw [same]
      exact induction given listed

theorem rereadItems_eq_map (items : List Json) : rereadItems items = items.map reread := by
  induction items with
  | nil => rfl
  | cons item rest induction => rw [rereadItems, induction, List.map_cons]

/-- It makes no difference whether a value is brought into normal form before it is read back. -/
theorem normal_reread_normal (value : Json) : value.normal.reread.normal = value.reread.normal := by
  induction value using inductionOnParts with
  | null => rfl
  | boolean value => rfl
  | number value => rfl
  | string text => rfl
  | array items induction =>
      refine congrArg array ?_
      rw [normalItems_eq_map, normalItems_eq_map, normalItems_eq_map, rereadItems_eq_map,
        rereadItems_eq_map, List.map_map, List.map_map, List.map_map]
      exact List.map_congr_left induction
  | object members induction =>
      refine congrArg (fun table : Table Json => object table.entries) (Table.eq_of_get? ?_)
      intro name
      rw [get?_normalMembers, lookup?_rereadMembers, lookup?_entries, get?_normalMembers,
        get?_normalMembers, lookup?_rereadMembers]
      cases found : lookup? members name with
      | none => rfl
      | some value => exact congrArg some (induction _ (mem_of_lookup? found))

/-! ## Canonical texts -/

/-- A canonical text is the compact text of the same value, with the names in the order of their
bytes in every object. It is read back to this value by the grammar, and by the reader of this
program if that goes deep enough. -/
structure IsCanonicalText (numberOf : List Char → Option Number) (value written : Json) : Prop where
  same : Same value written
  text : value.canonical = written.compact
  names : written.NamesIncrease
  read : Descent.read? numberOf value.canonical = some written
  parsed : value.ReadsBack maximalDepth → parse? value.canonical = some written

theorem isCanonicalText_normal {numberOf : List Char → Option Number} {value : Json}
    (exactly : EachNumber (Number.ReadExactly numberOf) value) :
    IsCanonicalText numberOf value value.normal where
  same := same_iff_normal_eq.2 value.normal_normal.symm
  text := rfl
  names := namesIncrease_normal value
  read := Descent.read?_compact exactly.normal
  parsed readsBack := by
    rw [parse?_canonical readsBack.readable, normal_reread_normal, readsBack.reread]

/-- Whatever the numerals of a standard reading stand for, if the numbers of two values are what
their own numerals stand for: the canonical texts of the values are equal exactly when the values
are the same, and each is read back. The order in which members were put in does not show. -/
theorem canonical_faithful (numberOf : List Char → Option Number) {value other : Json}
    (exactly : EachNumber (Number.ReadExactly numberOf) value)
    (otherExactly : EachNumber (Number.ReadExactly numberOf) other) :
    (value.canonical = other.canonical ↔ Same value other) ∧
    (∀ members reordered, value = object members → members.Perm reordered →
      (members.map Prod.fst).Nodup → (object reordered).canonical = value.canonical) ∧
    ∃ written, IsCanonicalText numberOf value written := by
  refine ⟨⟨?_, ?_⟩, ?_, value.normal, isCanonicalText_normal exactly⟩
  · intro texts
    have read := (isCanonicalText_normal exactly).read
    rw [texts, (isCanonicalText_normal otherExactly).read] at read
    exact same_iff_normal_eq.2 (Option.some.inj read).symm
  · intro same
    rw [canonical, canonical, same.normal_eq]
  · rintro members reordered rfl perm distinct
    rw [canonical, canonical, (same_of_perm perm distinct).normal_eq]

/-! Two orders of the same members, within each other, with names and texts that need escapes. -/

def nestedValue : Json := .object
  [("b", .array [.number (.integer 1), .number (.double 1.5), .null]),
   ("a\"", .object [("é", .string "x\n,\\"), ("", .boolean true)])]

def nestedReordered : Json := .object
  [("a\"", .object [("", .boolean true), ("é", .string "x\n,\\")]),
   ("b", .array [.number (.integer 1), .number (.double 1.5), .null])]

theorem nested_orders_share_a_text :
    EachNumber (Number.ReadExactly number?) nestedValue ∧
      EachNumber (Number.ReadExactly number?) nestedReordered ∧
      nestedValue.canonical = nestedReordered.canonical ∧ Same nestedValue nestedReordered ∧
      ∃ written, IsCanonicalText number? nestedValue written := by
  have one : (Number.integer 1).ReadExactly number? := ⟨⟨by decide, by decide⟩, rfl⟩
  have half : (Number.double 1.5).ReadExactly number? := ⟨rfl, by decide +kernel⟩
  have exactly : EachNumber (Number.ReadExactly number?) nestedValue :=
    ⟨⟨one, half, trivial, trivial⟩, ⟨trivial, trivial, trivial⟩, trivial⟩
  have otherExactly : EachNumber (Number.ReadExactly number?) nestedReordered :=
    ⟨⟨trivial, trivial, trivial⟩, ⟨one, half, trivial, trivial⟩, trivial⟩
  obtain ⟨texts, -, written⟩ := canonical_faithful number? exactly otherExactly
  have shared : nestedValue.canonical = nestedReordered.canonical := by decide +kernel
  exact ⟨exactly, otherExactly, shared, texts.1 shared, written⟩

end CandleAlerts.Json
