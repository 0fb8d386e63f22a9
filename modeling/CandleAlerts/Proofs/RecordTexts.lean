import CandleAlerts.Proofs.JsonMembers

/-!
Records within records read back.

The reader of a record wants some of its members whole and of others only certain fields again. What
matters of a value is that its text takes the reader to where the value is complete; if it does so
for every member, as far as the member is wanted, it does so for the record.
-/

namespace CandleAlerts.Json

open Reader

/-- Whether the text of a value takes a reader that wants so much of it, with so many arrays and
objects open around it, to where the value is complete. -/
def Takes (shape : Shape) (depth : Nat) (value : Json) : Prop :=
  ∀ (reader next : Reader) (rest : List Char), reader.wanted = shape →
    reader.mayStartValue = true → reader.lexeme = .none → reader.stack.length = depth →
    reader.complete value.reread = some next → Ends rest →
    reader.advance (value.write ++ rest) = next.advance rest

/-- A value that the reader keeps is taken whole. -/
theorem takes_whole {depth : Nat} {value : Json}
    (readable : value.Readable (maximalDepth - depth)) : Takes .whole depth value := by
  intro reader next rest wanted expects between depthIs completes ends
  exact advance_write value next ⟨wanted, expects, between⟩ (depthIs ▸ readable) completes ends

/-! ## Members -/

theorem ends_writeMembers (members : List (String × Json)) (rest : List Char) :
    Ends (writeMembers members ++ rest) := by
  cases members <;> exact ends_cons _ (by simp)

section Members

variable {shape : Shape} (wanted : shape.isPassed = false)

include wanted

/-- A member takes the reader from its name to where its value is complete. -/
theorem advance_member {name : String} {value : Json} {top : Shape}
    {done : List (String × Json)} {below : List Frame} {expected : Expected}
    (takes : Takes (shape.member name) (below.length + 1) value)
    (named : expected = .name ∨ expected = .nameOrClose) {rest : List Char} (ends : Ends rest) :
    (Reader.mk top (.object shape done :: below) expected .none).advance
        (quoted name ++ ':' :: (value.write ++ rest)) =
      (Reader.mk top (.object shape ((name, value.reread) :: done) :: below) .commaOrClose
        .none).advance rest := by
  rw [advance_name named wanted]
  exact takes _ _ rest rfl rfl rfl rfl rfl ends

/-- The further members of an object, up to where the object is complete. -/
theorem advance_furtherMembers {members : List (String × Json)} {top : Shape}
    {done : List (String × Json)} {below : List Frame} {next : Reader} {rest : List Char}
    (each : ∀ member ∈ members, Takes (shape.member member.1) (below.length + 1) member.2)
    (completes : (Reader.mk top below .commaOrClose .none).complete
      (.object (done.reverse ++ rereadMembers members)) = some next) :
    (Reader.mk top (.object shape done :: below) .commaOrClose .none).advance
      (writeMembers members ++ rest) = next.advance rest := by
  induction members generalizing done with
  | nil =>
      rw [rereadMembers, List.append_nil] at completes
      exact advance_cons _ completes
  | cons member members induction =>
      rcases member with ⟨name, value⟩
      have takes := each (name, value) List.mem_cons_self
      rw [writeMembers, List.cons_append,
        advance_cons ⟨top, .object shape done :: below, .name, .none⟩ rfl]
      simp only [List.append_assoc, List.cons_append]
      rw [advance_member wanted takes (.inl rfl) (ends_writeMembers members rest)]
      refine induction (fun other among => each other (List.mem_cons_of_mem _ among)) ?_
      rw [List.reverse_cons, List.append_assoc]
      exact completes

end Members

/-- A record is taken if each of its members is, as far as it is wanted. -/
theorem takes_record {fields : List (String × Shape)} {depth : Nat}
    {members : List (String × Json)} (room : depth < maximalDepth)
    (each : ∀ member ∈ members,
      Takes ((Shape.record fields).member member.1) (depth + 1) member.2) :
    Takes (.record fields) depth (.object members) := by
  rintro ⟨top, stack, expected, lexeme⟩ next rest wanted expects rfl rfl completes ends
  have opened : (Reader.mk top stack expected .none).openFrame (.object · []) .nameOrClose =
      some ⟨top, .object (.record fields) [] :: stack, .nameOrClose, .none⟩ := by
    unfold openFrame
    rw [wanted, if_pos]
    simpa [Shape.isPassed] using room
  have brace : (Reader.mk top stack expected .none).take '\x7b' =
      some ⟨top, .object (.record fields) [] :: stack, .nameOrClose, .none⟩ := by
    unfold mayStartValue at expects
    split at expects
    · rename_i same
      cases same
      exact opened
    · rename_i same
      cases same
      exact opened
    · cases expects
  rw [write_object, List.cons_append, advance_cons _ brace]
  cases members with
  | nil => exact advance_cons _ completes
  | cons member members =>
      rcases member with ⟨name, value⟩
      have takes := each (name, value) List.mem_cons_self
      rw [membersText]
      simp only [List.append_assoc, List.cons_append]
      rw [advance_member rfl takes (.inr rfl) (ends_writeMembers members rest)]
      exact advance_furtherMembers rfl
        (fun other among => each other (List.mem_cons_of_mem _ among)) completes

/-- A value that a reader is taken through is read. -/
theorem readAs?_of_takes {shape : Shape} {value : Json} (takes : Takes shape 0 value) :
    readAs? shape value.compact = some value.reread := by
  have advanced : (Reader.mk shape [] .value .none).advance (value.write ++ []) =
      (Reader.mk shape [] (.nothing value.reread) .none).advance [] :=
    takes _ _ [] rfl rfl rfl rfl rfl ends_nil
  rw [List.append_nil] at advanced
  unfold readAs? compact
  rw [String.toList_ofList, advanced]
  rfl

end CandleAlerts.Json
