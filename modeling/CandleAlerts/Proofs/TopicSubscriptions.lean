import CandleAlerts.Broker.Regex
import CandleAlerts.Broker.Topic

/-!
The subscription of a pattern selects what the pattern selects.

The expression of a family is read back as the start of the text, the characters of its beginning
one by one, and anything. So it is found in the topics with that beginning and in no others.
-/

namespace CandleAlerts

namespace Regex

/-! ## Reading a text that is to match itself -/

theorem foldlM_cons_of_some {reader next : Reader} {character : Char} (rest : List Char)
    (taken : reader.take character = some next) :
    (character :: rest).foldlM Reader.take reader = rest.foldlM Reader.take next := by
  rw [List.foldlM_cons, taken]
  rfl

/-- A character of no meaning of its own is read as itself. -/
theorem takePlain_of_not_mem {character : Char}
    (ordinary : character ∉ TopicPattern.metacharacters) (reader : Reader) :
    reader.takePlain character = some (reader.add (exactly character)) := by
  unfold Reader.takePlain
  split
  case h_13 => rfl
  all_goals exact absurd (by decide) ordinary

/-- Every character that is written after a backslash is read as itself there. -/
theorem specials_contains_of_mem :
    ∀ character ∈ TopicPattern.metacharacters, specials.contains character = true :=
  List.all_eq_true.1 (by decide)

/-- The parts of an expression that matches a text alone. -/
def spelled (text : List Char) : List Regex := text.map exactly

/-- A text written literally is read as its characters, by induction on the characters. -/
theorem foldlM_take_literally (text : List Char) (reader : Reader) (plain : reader.mode = .plain)
    (rest : List Char) :
    (TopicPattern.literally text ++ rest).foldlM Reader.take reader =
      rest.foldlM Reader.take
        { reader with
          draft := { reader.draft with parts := reader.draft.parts ++ spelled text } } := by
  induction text generalizing reader with
  | nil =>
      rw [spelled, List.map_nil, List.append_nil]
      rfl
  | cons character text induction =>
      have added : (TopicPattern.literally (character :: text) ++ rest).foldlM Reader.take reader =
          (TopicPattern.literally text ++ rest).foldlM Reader.take
            (reader.add (exactly character)) := by
        rw [TopicPattern.literally, List.flatMap_cons, List.append_assoc]
        split
        · -- written after a backslash
          rename_i special
          have isSpecial := specials_contains_of_mem character (List.contains_iff_mem.1 special)
          have backslash : reader.take '\\' = some { reader with mode := .escaped } := by
            rw [Reader.take, plain]
            rfl
          have escaped : ({ reader with mode := .escaped } : Reader).take character =
              some (reader.add (exactly character)) := if_pos isSpecial
          exact (foldlM_cons_of_some _ backslash).trans (foldlM_cons_of_some _ escaped)
        · -- written as it is
          rename_i ordinary
          have taken : reader.take character = some (reader.add (exactly character)) := by
            rw [Reader.take, plain]
            exact takePlain_of_not_mem (fun among => ordinary (List.contains_iff_mem.2 among)) _
          exact foldlM_cons_of_some _ taken
      rw [added, induction (reader.add (exactly character)) rfl]
      simp only [Reader.add, Draft.add, spelled, List.map_cons, List.append_assoc,
        List.singleton_append, plain]

/-- The expression of a family: its beginning at the start of the text, then anything. -/
def ofFamily (beginning : List Char) : Regex :=
  both start ((spelled beginning ++ [times 0 none any]).foldr both empty)

theorem read?_family (beginning : List Char) :
    read? ('^' :: (TopicPattern.literally beginning ++ ['.', '*'])) =
      some (ofFamily beginning) := by
  have anchored : ({} : Reader).take '^' = some (({} : Reader).add start) := rfl
  have starred : ∀ parts : List Regex, ['.', '*'].foldlM Reader.take
      { draft := { parts := [start] ++ parts } } =
        some { draft := { parts := start :: (parts ++ [times 0 none any]) } } := by
    intro parts
    have dotted : ({ draft := { parts := [start] ++ parts } } : Reader).take '.' =
        some { draft := { parts := [start] ++ parts ++ [any] } } := rfl
    rw [foldlM_cons_of_some _ dotted]
    have repeated : ({ draft := { parts := [start] ++ parts ++ [any] } } : Reader).take '*' =
        some { draft := { parts := start :: (parts ++ [times 0 none any]) } } := by
      change Reader.repeatLast { draft := { parts := [start] ++ parts ++ [any] } } 0 none = _
      rw [Reader.repeatLast, Draft.repeatLast, List.getLast?_concat, List.dropLast_concat]
      rfl
    rw [foldlM_cons_of_some _ repeated]
    rfl
  rw [read?, foldlM_cons_of_some _ anchored,
    foldlM_take_literally beginning (({} : Reader).add start) rfl]
  change (['.', '*'].foldlM Reader.take
    { draft := { parts := [start] ++ spelled beginning } }).bind _ = _
  rw [starred]
  rfl

/-! ## What the expression matches -/

theorem repeats_any_iff (count : Nat) (before matched after : List Char) :
    Repeats any.Matches count before matched after ↔
      matched.length = count ∧ '\n' ∉ matched := by
  induction count generalizing before matched with
  | zero =>
      rw [Repeats]
      constructor
      · rintro rfl
        simp
      · exact fun empty => List.length_eq_zero_iff.1 empty.1
  | succ count induction =>
      rw [Repeats]
      constructor
      · rintro ⟨head, tail, rfl, ⟨character, rfl, accepted⟩, repeated⟩
        obtain ⟨rfl, noBreak⟩ := (induction _ _).1 repeated
        have other : character ≠ '\n' := by simpa using accepted
        simp [noBreak, other.symm]
      · rintro ⟨length, noBreak⟩
        obtain ⟨character, tail, rfl⟩ := List.exists_cons_of_length_eq_add_one length
        rw [List.mem_cons, not_or] at noBreak
        refine ⟨[character], tail, rfl, ⟨character, rfl, ?_⟩, (induction _ _).2 ⟨?_, noBreak.2⟩⟩
        · simpa using Ne.symm noBreak.1
        · simpa using length

/-- Spelled out, a text matches itself before what comes next, by induction on the text. -/
theorem matches_spelled_iff (text : List Char) (next : List Regex)
    (before matched after : List Char) :
    ((spelled text ++ next).foldr both empty).Matches before matched after ↔
      ∃ tail, matched = text ++ tail ∧
        (next.foldr both empty).Matches (before ++ text) tail after := by
  induction text generalizing before matched with
  | nil => simp [spelled]
  | cons character text induction =>
      change (both (exactly character) ((spelled text ++ next).foldr both empty)).Matches
        before matched after ↔ _
      simp only [Matches, exactly, induction, beq_iff_eq]
      constructor
      · rintro ⟨head, tail, rfl, ⟨same, rfl, rfl⟩, rest, rfl, holds⟩
        exact ⟨rest, rfl, by simpa using holds⟩
      · rintro ⟨rest, rfl, holds⟩
        exact ⟨[character], text ++ rest, rfl, ⟨character, rfl, rfl⟩, rest, rfl,
          by simpa using holds⟩

theorem matches_ofFamily_iff (beginning before matched after : List Char) :
    (ofFamily beginning).Matches before matched after ↔
      before = [] ∧ ∃ tail, matched = beginning ++ tail ∧ '\n' ∉ tail := by
  have matchesLast : ∀ before tail after,
      (both (times 0 none any) empty).Matches before tail after ↔ '\n' ∉ tail := by
    intro before tail after
    simp [Matches, repeats_any_iff]
  rw [ofFamily, Matches]
  constructor
  · rintro ⟨head, rest, rfl, ⟨rfl, rfl⟩, holds⟩
    obtain ⟨tail, rfl, last⟩ := (matches_spelled_iff _ _ _ _ _).1 holds
    exact ⟨rfl, tail, rfl, (matchesLast _ _ _).1 last⟩
  · rintro ⟨rfl, tail, rfl, noBreak⟩
    refine ⟨[], beginning ++ tail, rfl, ⟨rfl, rfl⟩, ?_⟩
    exact (matches_spelled_iff _ _ _ _ _).2 ⟨tail, rfl, (matchesLast _ _ _).2 noBreak⟩

/-- The expression of a family is found in the texts with its beginning: what follows the beginning
need not be matched. -/
theorem foundIn_ofFamily_iff (beginning text : List Char) :
    (ofFamily beginning).FoundIn text ↔ beginning <+: text := by
  constructor
  · rintro ⟨before, matched, after, rfl, holds⟩
    obtain ⟨rfl, tail, rfl, -⟩ := (matches_ofFamily_iff _ _ _ _).1 holds
    exact ⟨tail ++ after, by simp⟩
  · rintro ⟨after, rfl⟩
    refine ⟨[], beginning, after, rfl, (matches_ofFamily_iff _ _ _ _).2 ⟨rfl, [], ?_, ?_⟩⟩
    · rw [List.append_nil]
    · exact List.not_mem_nil

/-- Up to its end a text is matched if it has no line breaks. -/
theorem matchesWhole_ofFamily_iff (beginning : List Char) {text : List Char}
    (noBreak : '\n' ∉ text) : (ofFamily beginning).MatchesWhole text ↔ beginning <+: text := by
  rw [MatchesWhole, matches_ofFamily_iff]
  constructor
  · rintro ⟨-, tail, rfl, -⟩
    exact ⟨tail, rfl⟩
  · rintro ⟨tail, rfl⟩
    exact ⟨rfl, tail, rfl, fun among => noBreak (List.mem_append_right _ among)⟩

end Regex

/-! ## Patterns and their subscriptions -/

namespace TopicPattern

variable {selects : Regex → List Char → Prop}

theorem clientSelects_family_iff (start topic : String) :
    ClientSelects selects (family start).subscription topic ↔
      selects (Regex.ofFamily start.toList) topic.toList := by
  rw [ClientSelects, subscription, String.toList_ofList]
  simp only [Regex.read?_family, Option.some.injEq, exists_eq_left']

theorem clientSelects_single_iff {name : String} (plain : Text.startsWith name "^" = false)
    (topic : String) : ClientSelects selects (single name).subscription topic ↔ topic = name := by
  rw [ClientSelects, subscription]
  split
  next rest leads =>
    rw [Text.startsWith, leads] at plain
    cases plain
  next => rfl

theorem selects_family_iff (start topic : String) :
    (family start).selects topic = true ↔ start.toList <+: topic.toList := by
  rw [TopicPattern.selects, Text.startsWith, List.isPrefixOf_iff_prefix]

theorem selects_single_iff (name topic : String) :
    (single name).selects topic = true ↔ topic = name := by
  rw [TopicPattern.selects, beq_iff_eq, eq_comm]

/-- A pattern that was read from a text, and is not a single name beginning with `^`, selects the
topics that a client subscribed with its subscription is given. For topics without line breaks that
is so, too, for a client that wants expressions to match a topic up to its end. -/
theorem selects_iff_clientSelects (text topic : String)
    (named : ∀ name, parse text = single name → Text.startsWith name "^" = false) :
    ((parse text).selects topic = true ↔
      ClientSelects Regex.FoundIn (parse text).subscription topic) ∧
    ('\n' ∉ topic.toList →
      ((parse text).selects topic = true ↔
        ClientSelects Regex.MatchesWhole (parse text).subscription topic)) := by
  cases pattern : parse text with
  | single name =>
      have plain := named name pattern
      rw [selects_single_iff, clientSelects_single_iff plain, clientSelects_single_iff plain]
      exact ⟨Iff.rfl, fun _ => Iff.rfl⟩
  | family start =>
      rw [selects_family_iff, clientSelects_family_iff, clientSelects_family_iff]
      exact ⟨(Regex.foundIn_ofFamily_iff _ _).symm,
        fun noBreak => (Regex.matchesWhole_ofFamily_iff _ noBreak).symm⟩

/-- A beginning in which nearly everything would mean something else if it were not escaped. -/
theorem quantified_family_selects :
    (∀ name, parse "a.(b|c)+[^$]*" = single name → Text.startsWith name "^" = false) ∧
    parse "a.(b|c)+[^$]*" = family "a.(b|c)+[^$]" ∧
    (parse "a.(b|c)+[^$]*").subscription = "^a\\.\\(b\\|c\\)\\+\\[\\^\\$\\].*" ∧
    ((parse "a.(b|c)+[^$]*").selects "a.(b|c)+[^$]7" = true ↔
      ClientSelects Regex.FoundIn (parse "a.(b|c)+[^$]*").subscription "a.(b|c)+[^$]7") ∧
    (parse "a.(b|c)+[^$]*").selects "a.(b|c)+[^$]7" = true ∧
    (parse "a.(b|c)+[^$]*").selects "axbbc$" = false := by
  have named : ∀ name, parse "a.(b|c)+[^$]*" = single name →
      Text.startsWith name "^" = false := by
    intro name pattern
    have isFamily : parse "a.(b|c)+[^$]*" = family "a.(b|c)+[^$]" := by decide
    cases isFamily.symm.trans pattern
  exact ⟨named, by decide, by decide, (selects_iff_clientSelects _ _ named).1, by decide, by decide⟩

end TopicPattern

end CandleAlerts
