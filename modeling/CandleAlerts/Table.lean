/-!
Finite maps from text to values, kept as their entries in increasing key order.

The order is part of the type, so two tables that answer every look-up alike are equal, and reading
a table's entries never shows the order in which they were inserted.
-/

namespace CandleAlerts

/-- A finite map from text to `ν`, stored as entries with strictly increasing keys. -/
structure Table (ν : Type u) where
  entries : List (String × ν) := []
  ordered : entries.Pairwise (fun first second => first.1 < second.1) := by exact List.Pairwise.nil

namespace Table

variable {ν : Type u}

def empty : Table ν := {}

instance : EmptyCollection (Table ν) := ⟨empty⟩
instance : Inhabited (Table ν) := ⟨empty⟩

private theorem lt_of_not_lt_of_ne {first second : String}
    (notLess : ¬ first < second) (different : first ≠ second) : second < first := by
  rcases Std.lt_trichotomy first second with less | same | more
  · exact absurd less notLess
  · exact absurd same different
  · exact more

/-- Put an entry where its key belongs, replacing the entry of an equal key. -/
def insertEntry (key : String) (value : ν) : List (String × ν) → List (String × ν)
  | [] => [(key, value)]
  | head :: tail =>
      if key < head.1 then (key, value) :: head :: tail
      else if key = head.1 then (key, value) :: tail
      else head :: insertEntry key value tail

private theorem mem_insertEntry {key : String} {value : ν} {entry : String × ν} :
    ∀ {entries : List (String × ν)}, entry ∈ insertEntry key value entries →
      entry = (key, value) ∨ entry ∈ entries
  | [], member => by simpa [insertEntry] using member
  | head :: tail, member => by
      unfold insertEntry at member
      split at member
      · simpa using member
      · split at member
        · simp only [List.mem_cons] at member ⊢
          rcases member with same | inTail
          · exact .inl same
          · exact .inr (.inr inTail)
        · simp only [List.mem_cons] at member ⊢
          rcases member with same | inTail
          · exact .inr (.inl same)
          · rcases mem_insertEntry inTail with same | inTail
            · exact .inl same
            · exact .inr (.inr inTail)

private theorem insertEntry_ordered (key : String) (value : ν) :
    ∀ {entries : List (String × ν)},
      entries.Pairwise (fun first second => first.1 < second.1) →
      (insertEntry key value entries).Pairwise (fun first second => first.1 < second.1)
  | [], _ => by simp [insertEntry]
  | head :: tail, ordered => by
      rw [List.pairwise_cons] at ordered
      unfold insertEntry
      split
      · rename_i less
        refine List.pairwise_cons.2 ⟨?_, List.pairwise_cons.2 ordered⟩
        intro entry member
        rcases List.mem_cons.1 member with same | inTail
        · exact same ▸ less
        · exact Std.lt_trans less (ordered.1 entry inTail)
      · rename_i notLess
        split
        · rename_i same
          refine List.pairwise_cons.2 ⟨?_, ordered.2⟩
          intro entry member
          exact same ▸ ordered.1 entry member
        · rename_i different
          refine List.pairwise_cons.2 ⟨?_, insertEntry_ordered key value ordered.2⟩
          intro entry member
          rcases mem_insertEntry member with same | inTail
          · exact same ▸ lt_of_not_lt_of_ne notLess different
          · exact ordered.1 entry inTail

/-- The table with `key` bound to `value`. -/
def insert (table : Table ν) (key : String) (value : ν) : Table ν where
  entries := insertEntry key value table.entries
  ordered := insertEntry_ordered key value table.ordered

/-- The value bound to `key`. -/
def get? (table : Table ν) (key : String) : Option ν :=
  (table.entries.find? (fun entry => entry.1 == key)).map Prod.snd

/-- Whether `key` is bound. -/
def contains (table : Table ν) (key : String) : Bool :=
  (table.get? key).isSome

/-- The value bound to `key`, or `default`. -/
def getD (table : Table ν) (key : String) (default : ν) : ν :=
  (table.get? key).getD default

/-- Keep the entries that satisfy `keeps`. -/
def filter (table : Table ν) (keeps : String → ν → Bool) : Table ν where
  entries := table.entries.filter (fun entry => keeps entry.1 entry.2)
  ordered := table.ordered.filter _

/-- The table without `key`. -/
def erase (table : Table ν) (key : String) : Table ν :=
  table.filter (fun other _ => other != key)

def mapValues (table : Table ν) (change : String → ν → μ) : Table μ where
  entries := table.entries.map (fun entry => (entry.1, change entry.1 entry.2))
  ordered := List.pairwise_map.2 table.ordered

/-- Change the value of `key`, if it is bound. -/
def modify (table : Table ν) (key : String) (change : ν → ν) : Table ν :=
  table.mapValues (fun other value => if other = key then change value else value)

/-- The keys in increasing order. -/
def keys (table : Table ν) : List String :=
  table.entries.map Prod.fst

def values (table : Table ν) : List ν :=
  table.entries.map Prod.snd

def size (table : Table ν) : Nat :=
  table.entries.length

def isEmpty (table : Table ν) : Bool :=
  table.entries.isEmpty

/-- The table of a list of entries; of two entries with one key the later stays. -/
def ofList (entries : List (String × ν)) : Table ν :=
  entries.foldl (fun table entry => table.insert entry.1 entry.2) empty

@[simp] theorem get?_empty (key : String) : (empty : Table ν).get? key = none := rfl

private theorem find?_insertEntry (key : String) (value : ν) (other : String) :
    ∀ {entries : List (String × ν)},
      entries.Pairwise (fun first second => first.1 < second.1) →
      (insertEntry key value entries).find? (fun entry => entry.1 == other) =
        if key = other then some (key, value) else entries.find? (fun entry => entry.1 == other)
  | [], _ => by by_cases same : key = other <;> simp [insertEntry, same]
  | head :: tail, ordered => by
      rw [List.pairwise_cons] at ordered
      unfold insertEntry
      split
      · by_cases same : key = other <;> simp [same]
      · split
        · rename_i sameHead
          by_cases same : key = other
          · simp [same]
          · have headDiffers : ¬ head.1 = other := fun equal => same (sameHead.trans equal)
            simp [same, headDiffers]
        · rename_i different
          by_cases headSame : head.1 = other
          · have keyDiffers : ¬ key = other := fun equal => different (equal.trans headSame.symm)
            simp [headSame, keyDiffers]
          · simpa [headSame] using find?_insertEntry key value other ordered.2

/-- After an insertion the new key answers its value and every other key answers as before. -/
theorem get?_insert (table : Table ν) (key : String) (value : ν) (other : String) :
    (table.insert key value).get? other = if key = other then some value else table.get? other := by
  unfold get? insert
  rw [find?_insertEntry key value other table.ordered]
  by_cases same : key = other <;> simp [same]

/-- A table without a key answers every other key as before. -/
theorem get?_erase (table : Table ν) (key other : String) :
    (table.erase key).get? other = if other = key then none else table.get? other := by
  unfold get? erase filter
  simp only [List.find?_filter]
  by_cases same : other = key
  · subst same
    simp only [if_true]
    rw [Option.map_eq_none_iff, List.find?_eq_none]
    intro entry _
    by_cases equal : entry.1 = other <;> simp [equal]
  · simp only [same, if_false]
    congr 1
    congr 1
    funext entry
    by_cases equal : entry.1 = other
    · simp [equal, same]
    · simp [equal]

end Table

end CandleAlerts
