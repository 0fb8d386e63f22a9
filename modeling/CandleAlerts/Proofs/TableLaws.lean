import CandleAlerts.Table

/-!
Laws of tables: every operation described by the look-ups after it.
-/

namespace CandleAlerts.Table

variable {ν : Type u} {μ : Type v}

/-- An entry is listed exactly when its key answers its value. -/
theorem mem_entries_iff (table : Table ν) (key : String) (value : ν) :
    (key, value) ∈ table.entries ↔ table.get? key = some value := by
  constructor
  · intro member
    have found : table.entries.find? (fun entry => entry.1 == key) = some (key, value) := by
      rw [List.find?_eq_some_iff_append]
      refine ⟨by simp, ?_⟩
      rcases List.append_of_mem member with ⟨before, after, split⟩
      refine ⟨before, after, split, ?_⟩
      intro entry entryMember
      have ordered := table.ordered
      rw [split, List.pairwise_append] at ordered
      have less : entry.1 < key := ordered.2.2 entry entryMember (key, value) (by simp)
      have different : entry.1 ≠ key := fun same => by
        rw [same] at less
        exact Std.lt_irrefl less
      simpa using different
    simp [get?, found]
  · intro answered
    rcases Option.map_eq_some_iff.1 answered with ⟨entry, found, same⟩
    have member := List.mem_of_find?_eq_some found
    have keySame : entry.1 = key := by simpa using List.find?_some found
    rw [← keySame, ← same]
    exact member

theorem mem_values_iff (table : Table ν) (value : ν) :
    value ∈ table.values ↔ ∃ key, table.get? key = some value := by
  simp only [values, List.mem_map, Prod.exists, exists_eq_right, mem_entries_iff]

/-- A filtered table answers what passes the filter. -/
theorem get?_filter (table : Table ν) (keeps : String → ν → Bool) (key : String) :
    (table.filter keeps).get? key = (table.get? key).filter (keeps key) := by
  apply Option.ext
  intro value
  rw [← mem_entries_iff, Option.filter_eq_some_iff, ← mem_entries_iff]
  simp [filter]

theorem get?_mapValues (table : Table ν) (change : String → ν → μ) (key : String) :
    (table.mapValues change).get? key = (table.get? key).map (change key) := by
  apply Option.ext
  intro value
  rw [← mem_entries_iff, Option.map_eq_some_iff]
  simp only [mapValues, List.mem_map, Prod.mk.injEq, Prod.exists]
  constructor
  · rintro ⟨other, old, member, rfl, rfl⟩
    exact ⟨old, (table.mem_entries_iff other old).1 member, rfl⟩
  · rintro ⟨old, answered, rfl⟩
    exact ⟨key, old, (table.mem_entries_iff key old).2 answered, rfl, rfl⟩

theorem get?_insert_self (table : Table ν) (key : String) (value : ν) :
    (table.insert key value).get? key = some value := by
  simp [get?_insert]

theorem get?_insert_of_ne (table : Table ν) {key other : String} (value : ν)
    (different : key ≠ other) : (table.insert key value).get? other = table.get? other := by
  simp [get?_insert, different]

/-- A table holds an entry for each key that answers. -/
theorem contains_eq_isSome (table : Table ν) (key : String) :
    table.contains key = (table.get? key).isSome := rfl

/-! ## Tables of entries -/

theorem eq_of_entries {first second : Table ν} (same : first.entries = second.entries) :
    first = second := by
  cases first
  cases second
  cases same
  rfl

/-- A key beyond all others goes to the end. -/
theorem insertEntry_of_beyond (key : String) (value : ν) {entries : List (String × ν)}
    (beyond : ∀ entry ∈ entries, entry.1 < key) :
    insertEntry key value entries = entries ++ [(key, value)] := by
  induction entries with
  | nil => rfl
  | cons head rest induction =>
      have less := beyond head List.mem_cons_self
      have notBefore : ¬ key < head.1 := fun more => Std.lt_irrefl (Std.lt_trans less more)
      have notSame : ¬ key = head.1 := fun same => Std.lt_irrefl (same ▸ less)
      rw [insertEntry, if_neg notBefore, if_neg notSame, List.cons_append,
        induction (fun entry member => beyond entry (List.mem_cons_of_mem _ member))]

/-- Entries in order are put one behind the other. -/
theorem entries_foldl_insert (rest : List (String × ν)) (table : Table ν)
    (ordered : (table.entries ++ rest).Pairwise (fun first second => first.1 < second.1)) :
    (rest.foldl (fun table entry => table.insert entry.1 entry.2) table).entries =
      table.entries ++ rest := by
  induction rest generalizing table with
  | nil => rw [List.append_nil]; rfl
  | cons entry rest induction =>
      have beyond := (List.pairwise_append.1 ordered).2.2
      have inserted : (table.insert entry.1 entry.2).entries = table.entries ++ [entry] :=
        insertEntry_of_beyond entry.1 entry.2 (fun earlier member =>
          beyond earlier member entry List.mem_cons_self)
      rw [List.foldl_cons, induction, inserted, List.append_assoc, List.singleton_append]
      rw [inserted, List.append_assoc, List.singleton_append]
      exact ordered

/-- Entries put into another table under keys of their own: each key answers its entry, or else what
it answered before. -/
theorem get?_foldl_insert {key : String → String} (injective : ∀ {first second : String},
    key first = key second → first = second) (change : μ → ν) (added : Table μ) (table : Table ν)
    (name : String) :
    (added.entries.foldl (fun table entry => table.insert (key entry.1) (change entry.2))
      table).get? (key name) = ((added.get? name).map change).or (table.get? (key name)) := by
  rcases added with ⟨entries, ordered⟩
  simp only [get?.eq_def (Table.mk entries ordered)]
  induction entries generalizing table with
  | nil => rfl
  | cons entry rest induction =>
      rw [List.pairwise_cons] at ordered
      rw [List.foldl_cons, induction _ ordered.2, get?_insert]
      by_cases same : entry.1 = name
      · have others : rest.find? (fun other => other.1 == name) = none := by
          rw [List.find?_eq_none]
          intro other member
          have less := ordered.1 other member
          rw [same] at less
          have different : other.1 ≠ name := fun again => Std.lt_irrefl (again ▸ less)
          simpa using different
        rw [List.find?_cons_of_pos (by simpa using same), others, if_pos (congrArg key same)]
        rfl
      · rw [List.find?_cons_of_neg (by simpa using same),
          if_neg (fun again => same (injective again))]

/-- Tables that answer every key alike are equal. -/
theorem eq_of_get? {first second : Table ν} (same : ∀ key, first.get? key = second.get? key) :
    first = second := by
  have distinct (table : Table ν) : table.entries.Nodup := by
    refine List.Pairwise.imp ?_ table.ordered
    intro entry other less same
    rw [same] at less
    exact Std.lt_irrefl less
  apply eq_of_entries
  refine List.Perm.eq_of_pairwise ?_ first.ordered second.ordered
    ((List.perm_ext_iff_of_nodup (distinct first) (distinct second)).2 ?_)
  · intro entry other _ _ less more
    exact absurd (Std.lt_trans less more) Std.lt_irrefl
  · intro entry
    rw [mem_entries_iff, mem_entries_iff, same]

/-- The entries of a table make the table again. -/
theorem ofList_entries (table : Table ν) : ofList table.entries = table :=
  eq_of_entries (entries_foldl_insert table.entries empty table.ordered)

/-- What a table that was made of entries answers was among them, or was in the table to begin
with. -/
theorem mem_or_of_get?_foldl_insert {entries : List (String × ν)} {table : Table ν} {key : String}
    {value : ν}
    (found : (entries.foldl (fun table entry => table.insert entry.1 entry.2) table).get? key =
      some value) :
    (key, value) ∈ entries ∨ table.get? key = some value := by
  induction entries generalizing table with
  | nil => exact .inr found
  | cons entry rest induction =>
      rcases induction found with later | inserted
      · exact .inl (List.mem_cons_of_mem _ later)
      · rw [get?_insert] at inserted
        split at inserted
        · next same =>
            cases inserted
            exact .inl (same ▸ List.mem_cons_self)
        · exact .inr inserted

theorem mem_of_get?_ofList {entries : List (String × ν)} {key : String} {value : ν}
    (found : (ofList entries).get? key = some value) : (key, value) ∈ entries := by
  rcases mem_or_of_get?_foldl_insert found with member | absent
  · exact member
  · cases absent

/-- A filter that every entry passes leaves a table as it is. -/
theorem filter_eq_self {table : Table ν} {keeps : String → ν → Bool}
    (passes : ∀ key value, table.get? key = some value → keeps key value = true) :
    table.filter keeps = table := by
  apply eq_of_get?
  intro key
  rw [get?_filter]
  cases found : table.get? key with
  | none => rfl
  | some value => simp [Option.filter, passes key value found]

/-! ## Sizes -/

theorem length_insertEntry_of_absent (key : String) (value : ν) {entries : List (String × ν)}
    (absent : ∀ entry ∈ entries, entry.1 ≠ key) :
    (insertEntry key value entries).length = entries.length + 1 := by
  induction entries with
  | nil => rfl
  | cons head rest induction =>
      have different : ¬ key = head.1 := fun same => absent head List.mem_cons_self same.symm
      rw [insertEntry, if_neg different]
      split
      · rfl
      · rw [List.length_cons, List.length_cons,
          induction (fun entry member => absent entry (List.mem_cons_of_mem _ member))]

/-- A key in order that is there already is replaced. -/
theorem length_insertEntry_of_present (key : String) (value : ν) {entries : List (String × ν)}
    (ordered : entries.Pairwise (fun first second => first.1 < second.1))
    (present : ∃ entry ∈ entries, entry.1 = key) :
    (insertEntry key value entries).length = entries.length := by
  induction entries with
  | nil => simp at present
  | cons head rest induction =>
      rw [List.pairwise_cons] at ordered
      obtain ⟨entry, member, rfl⟩ := present
      rcases List.mem_cons.1 member with rfl | inRest
      · rw [insertEntry, if_neg Std.lt_irrefl, if_pos rfl, List.length_cons, List.length_cons]
      · have less := ordered.1 entry inRest
        have notBefore : ¬ entry.1 < head.1 := fun more => Std.lt_irrefl (Std.lt_trans less more)
        have notSame : ¬ entry.1 = head.1 := fun same => Std.lt_irrefl (same ▸ less)
        rw [insertEntry, if_neg notBefore, if_neg notSame, List.length_cons, List.length_cons,
          induction ordered.2 ⟨entry, inRest, rfl⟩]

/-- A table grows by one when a key is bound that was not. -/
theorem size_insert (table : Table ν) (key : String) (value : ν) :
    (table.insert key value).size = table.size + if (table.get? key).isSome then 0 else 1 := by
  cases found : table.get? key with
  | some old =>
      have member := (table.mem_entries_iff key old).2 found
      exact length_insertEntry_of_present key value table.ordered ⟨_, member, rfl⟩
  | none =>
      refine length_insertEntry_of_absent key value (fun entry member same => ?_)
      rw [(table.mem_entries_iff key entry.2).1 (same ▸ member)] at found
      cases found

/-- What a filter keeps and what it drops make up a table. -/
theorem size_filter_add (table : Table ν) (keeps : String → ν → Bool) :
    (table.filter keeps).size + (table.filter (fun key value => !keeps key value)).size =
      table.size := by
  have split := List.length_eq_countP_add_countP (l := table.entries)
    (fun entry => keeps entry.1 entry.2)
  simp only [Bool.not_eq_true, Bool.decide_eq_false] at split
  simp only [size, filter, ← List.countP_eq_length_filter, split]

end CandleAlerts.Table
