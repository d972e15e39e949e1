import ResultLint.Proofs.Text.Lines
import ResultLint.Source.Position

/-!
The line and the column of a place. Lines are counted by the line feeds before the place, columns by
the bytes behind the last of them.
-/
namespace ResultLint.Source

open Text

theorem advance_cons (c : Char) (cs : List Char) (bytes line column : Nat) :
    advance (c.utf8Size + bytes) line column (c :: cs) =
      if c = '\n' then advance bytes (line + 1) 1 cs
      else advance bytes line (column + c.utf8Size) cs := by
  have size := c.utf8Size_pos
  rw [advance, if_neg (by omega), Nat.add_sub_cancel_left]

theorem advance_tail (tail behind : List Char) (line column : Nat) (last : '\n' ∉ tail) :
    advance (byteLength tail) line column (tail ++ behind) = (line, column + byteLength tail) := by
  induction tail generalizing column with
  | nil => cases behind <;> rfl
  | cons c cs ih =>
    have feed : c ≠ '\n' := fun same => last (by simp [same])
    rw [byteLength, List.cons_append, advance_cons, if_neg feed,
      ih _ (List.not_mem_of_not_mem_cons last), Nat.add_assoc]

theorem advance_lead (front rest : List Char) (bytes line column : Nat) :
    advance (byteLength (front ++ ['\n']) + bytes) line column (front ++ ['\n'] ++ rest) =
      advance bytes (line + (front ++ ['\n']).count '\n') 1 rest := by
  induction front generalizing line column with
  | nil => exact advance_cons '\n' rest bytes line column
  | cons c cs ih =>
    rw [List.cons_append, byteLength, Nat.add_assoc, List.cons_append, advance_cons]
    by_cases feed : c = '\n'
    · rw [if_pos feed, ih, feed, List.count_cons_self, Nat.add_assoc, Nat.add_comm 1]
    · rw [if_neg feed, ih, List.count_cons_of_ne feed]

/-- Behind whole lines the line has gone up by the line feeds, and the column begins anew. -/
theorem advance_place (lead tail behind : List Char) (whole : WholeLines lead)
    (last : '\n' ∉ tail) :
    advance (byteLength lead + byteLength tail) 1 1 (lead ++ (tail ++ behind)) =
      (1 + lead.count '\n', 1 + byteLength tail) := by
  rcases whole with rfl | ⟨front, rfl⟩
  · rw [byteLength, Nat.zero_add]
    exact advance_tail tail behind 1 1 last
  · rw [advance_lead, advance_tail tail behind _ 1 last]

/-- Where a place is in bytes, lines and columns, the lines and columns counted from one: behind
whole lines, one for each line feed, and a part of a line. -/
structure IsPlace (source : List Char) (start line column : Nat) : Prop where
  divided : ∃ lead tail behind, source = lead ++ (tail ++ behind) ∧ WholeLines lead ∧
    '\n' ∉ tail ∧ start = byteLength lead + byteLength tail ∧ line = 1 + lead.count '\n' ∧
    column = 1 + byteLength tail

theorem spanOf_isPlace (before behind : List Char) (stop : Nat) :
    let span := spanOf (before ++ behind) (byteLength before) stop
    IsPlace (before ++ behind) span.start span.line span.column := by
  obtain ⟨lead, tail, rfl, whole, last⟩ := split_lastLine before
  unfold spanOf
  rw [byteLength_append, List.append_assoc, advance_place lead tail behind whole last]
  exact ⟨lead, tail, behind, rfl, whole, last, rfl, rfl, rfl⟩

end ResultLint.Source
