import CandleAlerts.Proofs.JsonTexts
import CandleAlerts.Proofs.TableLaws

/-!
The members of JSON objects by name.

Of members of one name the last answers. Bringing an object into normal form, writing it and reading
it back change neither which names answer nor, but for the same changes to the values, what they
answer.
-/

namespace CandleAlerts.Json

/-- Induction by the items of an array and by the values of the members of an object. -/
@[elab_as_elim]
theorem inductionOnParts {motive : Json → Prop} (value : Json) (null : motive null)
    (boolean : ∀ value, motive (boolean value)) (number : ∀ value, motive (number value))
    (string : ∀ text, motive (string text))
    (array : ∀ items, (∀ item ∈ items, motive item) → motive (array items))
    (object : ∀ members, (∀ member ∈ members, motive member.2) → motive (object members)) :
    motive value := by
  refine @Json.rec motive (fun items => ∀ item ∈ items, motive item)
    (fun members => ∀ member ∈ members, motive member.2) (fun member => motive member.2)
    null boolean number string array object ?_ ?_ ?_ ?_ ?_ value
  · nofun
  · intro item items first others
    exact List.forall_mem_cons.2 ⟨first, others⟩
  · nofun
  · intro member members first others
    exact List.forall_mem_cons.2 ⟨first, others⟩
  · intro name value holds
    exact holds

/-! ## Looking a member up -/

theorem lookup?_cons (key : String) (value : Json) (rest : List (String × Json)) (name : String) :
    lookup? ((key, value) :: rest) name =
      (lookup? rest name).or (if key = name then some value else none) := by
  unfold lookup?
  rw [List.reverse_cons, List.find?_append]
  cases rest.reverse.find? (fun member => member.1 == name) with
  | some member => rfl
  | none => by_cases same : key = name <;> simp [same]

theorem lookup?_append (members others : List (String × Json)) (name : String) :
    lookup? (members ++ others) name = (lookup? others name).or (lookup? members name) := by
  unfold lookup?
  rw [List.reverse_append, List.find?_append]
  cases others.reverse.find? (fun member => member.1 == name) <;> rfl

theorem lookup?_of_forall_ne {members : List (String × Json)} {name : String}
    (absent : ∀ member ∈ members, member.1 ≠ name) : lookup? members name = none := by
  induction members with
  | nil => rfl
  | cons member rest induction =>
      rw [lookup?_cons, induction (fun other among => absent other (List.mem_cons_of_mem _ among)),
        if_neg (absent member List.mem_cons_self)]
      rfl

theorem mem_of_lookup? {members : List (String × Json)} {name : String} {value : Json}
    (found : lookup? members name = some value) : (name, value) ∈ members := by
  unfold lookup? at found
  obtain ⟨member, isFound, rfl⟩ := Option.map_eq_some_iff.1 found
  have sameName : member.1 = name := by simpa using List.find?_some isFound
  rw [← sameName]
  exact List.mem_reverse.1 (List.mem_of_find?_eq_some isFound)

/-- In a table every name answers once. -/
theorem lookup?_entries (table : Table Json) (name : String) :
    lookup? table.entries name = table.get? name := by
  rcases table with ⟨entries, ordered⟩
  change lookup? entries name = (entries.find? (fun entry => entry.1 == name)).map Prod.snd
  induction entries with
  | nil => rfl
  | cons entry rest induction =>
      rw [List.pairwise_cons] at ordered
      rw [lookup?_cons]
      by_cases same : entry.1 = name
      · rw [List.find?_cons_of_pos (by simpa using same)]
        have later : lookup? rest name = none := lookup?_of_forall_ne (fun other among again => by
          have less := ordered.1 other among
          rw [same, again] at less
          exact Std.lt_irrefl less)
        simp [same, later]
      · rw [List.find?_cons_of_neg (by simpa using same), ← induction ordered.2, if_neg same,
          Option.or_none]

theorem get?_object (members : List (String × Json)) (name : String) :
    (object members).get? name = lookup? members name := rfl

/-! ## Normal forms -/

/-- A table of normal forms answers the normal form of the member that prevails. -/
theorem get?_normalMembers (members : List (String × Json)) (name : String) :
    (normalMembers members).get? name = (lookup? members name).map normal := by
  induction members generalizing name with
  | nil => rfl
  | cons member rest induction =>
      rcases member with ⟨key, value⟩
      have repeated : (normalMembers rest).contains key = (lookup? rest key).isSome := by
        rw [Table.contains, induction, Option.isSome_map]
      rw [lookup?_cons, normalMembers, repeated]
      by_cases same : key = name
      · subst same
        cases later : lookup? rest key with
        | none => simp [Table.get?_insert]
        | some prevailing => simp [induction, later]
      · cases (lookup? rest key).isSome <;> simp [induction, Table.get?_insert, same]

/-- A member of the normal form is the normal form of the member. -/
theorem get?_normal (value : Json) (name : String) :
    value.normal.get? name = (value.get? name).map normal := by
  cases value with
  | object members =>
      rw [normal, get?_object, get?_object, lookup?_entries, get?_normalMembers]
  | _ => rfl

theorem normalItems_eq_map (items : List Json) : normalItems items = items.map normal := by
  induction items with
  | nil => rfl
  | cons item rest induction => rw [normalItems, induction, List.map_cons]

/-- A value in the normal form of an object is the normal form of a member's value. -/
theorem exists_of_mem_normalMembers {members : List (String × Json)} {member : String × Json}
    (among : member ∈ (normalMembers members).entries) :
    ∃ given ∈ members, member.2 = given.2.normal := by
  have answered := (Table.mem_entries_iff _ member.1 member.2).1 among
  rw [get?_normalMembers, Option.map_eq_some_iff] at answered
  obtain ⟨value, found, same⟩ := answered
  exact ⟨(member.1, value), mem_of_lookup? found, same.symm⟩

/-- What is in normal form stays as it is. -/
theorem normal_normal (value : Json) : value.normal.normal = value.normal := by
  induction value using inductionOnParts with
  | null => rfl
  | boolean value => rfl
  | number value => rfl
  | string text => rfl
  | array items induction =>
      refine congrArg array ?_
      rw [normalItems_eq_map, normalItems_eq_map, List.map_map]
      exact List.map_congr_left induction
  | object members induction =>
      refine congrArg (fun table : Table Json => object table.entries) (Table.eq_of_get? ?_)
      intro name
      rw [get?_normalMembers, lookup?_entries, get?_normalMembers]
      cases found : lookup? members name with
      | none => rfl
      | some value => exact congrArg some (induction _ (mem_of_lookup? found))

/-! ## Written and read back -/

theorem lookup?_rereadMembers (members : List (String × Json)) (name : String) :
    lookup? (rereadMembers members) name = (lookup? members name).map reread := by
  induction members with
  | nil => rfl
  | cons member rest induction =>
      rcases member with ⟨key, value⟩
      rw [rereadMembers, lookup?_cons, lookup?_cons, induction]
      cases lookup? rest name with
      | some prevailing => rfl
      | none => by_cases same : key = name <;> simp [same]

theorem get?_reread (value : Json) (name : String) :
    value.reread.get? name = (value.get? name).map reread := by
  cases value with
  | object members => rw [reread, get?_object, get?_object, lookup?_rereadMembers]
  | _ => rfl

/-! ## What the reader keeps -/

theorem readableItems_iff {room : Nat} {items : List Json} :
    ReadableItems room items ↔ ∀ item ∈ items, item.Readable room := by
  induction items with
  | nil => simp [ReadableItems]
  | cons item rest induction => simp [ReadableItems, induction]

theorem readableMembers_iff {room : Nat} {members : List (String × Json)} :
    ReadableMembers room members ↔ ∀ member ∈ members, member.2.Readable room := by
  induction members with
  | nil => simp [ReadableMembers]
  | cons member rest induction => simp [ReadableMembers, induction]

theorem readableMembers_entries_iff {room : Nat} {table : Table Json} :
    ReadableMembers room table.entries ↔
      ∀ name value, table.get? name = some value → value.Readable room := by
  rw [readableMembers_iff]
  constructor
  · intro all name value answered
    exact all (name, value) ((table.mem_entries_iff name value).mpr answered)
  · intro all member among
    exact all member.1 member.2 ((table.mem_entries_iff member.1 member.2).mp among)

theorem readable_ofFloat (room : Nat) (value : Float) : (ofFloat value).Readable room := by
  unfold ofFloat
  split
  next finite => exact finite
  next => trivial

theorem readable_ofList {α : Type} {room : Nat} {encode : α → Json} (items : List α)
    (each : ∀ item ∈ items, (encode item).Readable room) :
    (ofList encode items).Readable (room + 1) := by
  refine ⟨Nat.succ_pos room, readableItems_iff.mpr ?_⟩
  intro item member
  obtain ⟨original, among, rfl⟩ := List.mem_map.mp member
  exact each original among

theorem readable_ofInt {room : Nat} {value : Int} (holds : Word.Holds value) :
    (ofInt value).Readable room :=
  ⟨holds.1, Int.lt_of_le_of_lt holds.2 (by decide)⟩

theorem readable_ofOption {α : Type} {room : Nat} {encode : α → Json} (option : Option α)
    (each : ∀ value, option = some value → (encode value).Readable room) :
    (ofOption encode option).Readable room := by
  cases option with
  | none => trivial
  | some value => exact each value rfl

/-- The normal form of a value is kept by the reader if the value is. -/
theorem Readable.normal (value : Json) {room : Nat} (readable : value.Readable room) :
    value.normal.Readable room := by
  induction value using inductionOnParts generalizing room with
  | null => exact readable
  | boolean value => exact readable
  | number value => exact readable
  | string text => exact readable
  | array items induction =>
      refine ⟨readable.1, ?_⟩
      rw [normalItems_eq_map, readableItems_iff, List.forall_mem_map]
      intro item among
      exact induction item among (readableItems_iff.1 readable.2 item among)
  | object members induction =>
      refine ⟨readable.1, readableMembers_iff.2 ?_⟩
      intro member among
      obtain ⟨given, listed, same⟩ := exists_of_mem_normalMembers among
      rw [same]
      exact induction given listed (readableMembers_iff.1 readable.2 given listed)

/-- Canonical text is read back as the value's normal form. -/
theorem parse?_canonical {value : Json} (readable : value.Readable maximalDepth) :
    parse? value.canonical = some value.normal.reread.normal := by
  rw [parse?, canonical, read?_compact (Readable.normal value readable), Option.map_some]

/-- A text that a member holds is found in the canonical text. -/
theorem text?_parse?_canonical {value : Json} (readable : value.Readable maximalDepth)
    {name text : String} (holds : value.get? name = some (.string text)) :
    ((parse? value.canonical).bind (fun read => read.get? name)).bind text? = some text := by
  rw [parse?_canonical readable, Option.bind_some, get?_normal, get?_reread, get?_normal, holds]
  rfl

end CandleAlerts.Json
