import Mathlib.Data.List.Forall2
import ResultLint.Proofs.Text.Slice
import ResultLint.Text.Lines

/-!
Which line a place of a text is on. What stands before the place is divided behind its last line
feed; the line feeds up to there are as many as the lines before that of the place.
-/
namespace ResultLint.Text

/-- Whole lines: nothing, or a text that ends with a line feed. -/
def WholeLines (lead : List Char) : Prop :=
  lead = [] ∨ ∃ front, lead = front ++ ['\n']

/-- Every text is divided behind its last line feed. -/
theorem split_lastLine (s : List Char) :
    ∃ lead tail, s = lead ++ tail ∧ WholeLines lead ∧ '\n' ∉ tail := by
  induction s with
  | nil => exact ⟨[], [], rfl, .inl rfl, by simp⟩
  | cons c cs ih =>
    obtain ⟨lead, tail, rfl, whole, last⟩ := ih
    rcases whole with rfl | ⟨front, rfl⟩
    · by_cases feed : c = '\n'
      · exact ⟨[c], tail, rfl, .inr ⟨[], by rw [feed]; rfl⟩, last⟩
      · exact ⟨[], c :: tail, rfl, .inl rfl, by simp [last, Ne.symm feed]⟩
    · exact ⟨c :: (front ++ ['\n']), tail, rfl, .inr ⟨c :: front, rfl⟩, last⟩

theorem lines_return_feed (cs : List Char) : lines ('\r' :: '\n' :: cs) = lines ('\n' :: cs) := rfl

/-- A character that is not part of a line end belongs to the first line. -/
theorem lines_cons (c : Char) (cs : List Char) (feed : c ≠ '\n')
    (ends : c = '\r' → cs.head? ≠ some '\n') :
    lines (c :: cs) = match lines cs with
      | [] => [[c]]
      | l :: ls => (c :: l) :: ls := by
  rw [lines.eq_def]
  split
  · next same => cases same
  · next same => exact absurd (List.cons.inj same).1 feed
  · next cs' same =>
    obtain ⟨rfl, rfl⟩ := List.cons.inj same
    exact absurd rfl (ends rfl)
  · next same =>
    obtain ⟨rfl, rfl⟩ := List.cons.inj same
    rfl

/-- Whole lines come before the lines of the rest, one for each line feed. -/
theorem lines_append (lead rest : List Char) (whole : WholeLines lead) :
    ∃ before, before.length = lead.count '\n' ∧ lines (lead ++ rest) = before ++ lines rest := by
  rcases whole with rfl | ⟨front, rfl⟩
  · exact ⟨[], rfl, rfl⟩
  · rw [List.append_assoc, List.singleton_append]
    induction front with
    | nil => exact ⟨[[]], rfl, rfl⟩
    | cons c cs ih =>
      obtain ⟨before, size, divided⟩ := ih
      rw [List.cons_append, List.cons_append]
      by_cases feed : c = '\n'
      · subst feed
        refine ⟨[] :: before, by simp [size], ?_⟩
        rw [lines, divided, List.cons_append]
      · have count : (c :: (cs ++ ['\n'])).count '\n' = (cs ++ ['\n']).count '\n' :=
          List.count_cons_of_ne feed
        rw [count]
        by_cases ends : c = '\r' ∧ (cs ++ '\n' :: rest).head? = some '\n'
        · obtain ⟨rfl, next⟩ := ends
          obtain ⟨more, starts⟩ : ∃ more, cs ++ '\n' :: rest = '\n' :: more := by
            cases whole : cs ++ '\n' :: rest with
            | nil => simp [whole] at next
            | cons d more =>
              rw [whole] at next
              cases next
              exact ⟨more, rfl⟩
          refine ⟨before, size, ?_⟩
          rw [starts, lines_return_feed, ← starts, divided]
        · rw [lines_cons c _ feed fun cr next => ends ⟨cr, next⟩, divided]
          cases before with
          | nil => simp at size
          | cons l ls => exact ⟨(c :: l) :: ls, size, rfl⟩

/-- A line at the beginning of a text: up to a line feed, or the carriage return before it, or up to
the end. -/
structure IsFirstLine (line s : List Char) : Prop where
  feedless : '\n' ∉ line
  ends : ∃ rest, s = line ++ rest ∧
    (rest = [] ∨ (∃ more, rest = '\n' :: more ∧ line.getLast? ≠ some '\r') ∨
      ∃ more, rest = '\r' :: '\n' :: more)

theorem lines_head (s : List Char) (nonempty : s ≠ []) :
    ∃ line more, lines s = line :: more ∧ IsFirstLine line s := by
  induction s with
  | nil => exact absurd rfl nonempty
  | cons c cs ih =>
    by_cases feed : c = '\n'
    · subst feed
      exact ⟨[], lines cs, rfl, by simp, '\n' :: cs, rfl, .inr (.inl ⟨cs, rfl, by simp⟩)⟩
    · cases cs with
      | nil =>
        refine ⟨[c], [], ?_, by simpa using Ne.symm feed, [], rfl, .inl rfl⟩
        rw [lines_cons c [] feed (by simp)]
        rfl
      | cons d ds =>
        by_cases ends : c = '\r' ∧ d = '\n'
        · obtain ⟨rfl, rfl⟩ := ends
          exact ⟨[], lines ds, rfl, by simp, '\r' :: '\n' :: ds, rfl, .inr (.inr ⟨ds, rfl⟩)⟩
        · obtain ⟨line, more, divided, feedless, rest, whole, last⟩ := ih (by simp)
          refine ⟨c :: line, more, ?_, by simp [feedless, Ne.symm feed], rest, ?_, ?_⟩
          · rw [lines_cons c _ feed fun cr next => ends ⟨cr, by simpa using next⟩, divided]
          · rw [whole, List.cons_append]
          · refine last.imp_right (Or.imp_left ?_)
            rintro ⟨more, rfl, bare⟩
            refine ⟨more, rfl, ?_⟩
            cases line with
            | nil =>
              cases whole
              simpa using fun cr => ends ⟨cr, rfl⟩
            | cons e es => simpa [List.getLast?_cons_cons] using bare

/-- A line goes on up to a character that belongs to no line end. -/
theorem IsFirstLine.reaches {line s : List Char} (isFirst : IsFirstLine line s) (front : List Char)
    (c : Char) (behind : List Char) (whole : s = front ++ c :: behind) (last : '\n' ∉ front)
    (feed : c ≠ '\n') (cr : c ≠ '\r') : ∃ more, line = front ++ c :: more := by
  obtain ⟨rest, parts, ends⟩ := isFirst.ends
  rw [whole] at parts
  -- a line end has no character before its line feed that is visible
  have clash (between : List Char) (start : rest = between ++ c :: behind) : '\n' ∈ between := by
    rcases ends with rfl | ⟨more, rfl, -⟩ | ⟨more, rfl⟩
    · simp at start
    · cases between with
      | nil => exact absurd (List.cons.inj start).1.symm feed
      | cons d ds =>
        cases start
        simp
    · rcases between with _ | ⟨d, _ | ⟨e, es⟩⟩
      · exact absurd (List.cons.inj start).1.symm cr
      · exact absurd (List.cons.inj (List.cons.inj start).2).1.symm feed
      · cases start
        simp
  rcases List.append_eq_append_iff.mp parts with ⟨between, rfl, back⟩ | ⟨between, rfl, back⟩
  · cases between with
    | nil => exact absurd (clash [] back.symm) (by simp)
    | cons d ds =>
      obtain ⟨rfl, -⟩ := List.cons.inj back
      exact ⟨ds, rfl⟩
  · exact absurd (List.mem_append_right line (clash between back)) last

theorem IsFirstLine.unique {line other s : List Char} (isFirst : IsFirstLine line s)
    (isFirst' : IsFirstLine other s) : line = other := by
  -- the longer one would hold a line feed, or end in the carriage return before one
  have shorter (a b : List Char) (first : IsFirstLine a s) (second : IsFirstLine b s)
      (x : List Char) (longer : b = a ++ x) : x = [] := by
    obtain ⟨rest, whole, ends⟩ := first.ends
    obtain ⟨rest', whole', ends'⟩ := second.ends
    have behind : rest = x ++ rest' := by
      rw [whole', longer, List.append_assoc] at whole
      exact (List.append_cancel_left whole).symm
    cases x with
    | nil => rfl
    | cons d ds =>
      have free := second.feedless
      rcases ends with rfl | ⟨more, rfl, -⟩ | ⟨more, rfl⟩
      · cases behind
      · cases behind
        simp [longer] at free
      · cases ds with
        | cons e es =>
          cases behind
          simp [longer] at free
        | nil =>
          cases behind
          rcases ends' with none | ⟨_, _, bare⟩ | ⟨_, returned⟩
          · cases none
          · simp [longer] at bare
          · cases returned
  obtain ⟨rest, whole, -⟩ := isFirst.ends
  obtain ⟨rest', whole', -⟩ := isFirst'.ends
  rw [whole] at whole'
  rcases List.append_eq_append_iff.mp whole' with ⟨x, longer, -⟩ | ⟨x, longer, -⟩
  · rw [longer, shorter line other isFirst isFirst' x longer, List.append_nil]
  · rw [longer, shorter other line isFirst' isFirst x longer, List.append_nil]

/-- A text without a line feed is one line. -/
theorem lines_of_feedless (s : List Char) (nonempty : s ≠ []) (feedless : '\n' ∉ s) :
    lines s = [s] := by
  induction s with
  | nil => exact absurd rfl nonempty
  | cons c cs ih =>
    rw [List.mem_cons, not_or] at feedless
    have ends : c = '\r' → cs.head? ≠ some '\n' :=
      fun _ next => feedless.2 (List.mem_of_head? next)
    rw [lines_cons c cs (Ne.symm feedless.1) ends]
    cases cs with
    | nil => rfl
    | cons d ds => rw [ih (by simp) feedless.2]

/-- A line of a text, and the whole lines before it. -/
structure IsLine (s lead line : List Char) : Prop where
  whole : WholeLines lead
  first : ∃ rest, s = lead ++ rest ∧ rest ≠ [] ∧ IsFirstLine line rest

theorem line_of_isLine {s lead line : List Char} (isLine : IsLine s lead line) :
    line? s (1 + lead.count '\n') = some line := by
  obtain ⟨rest, rfl, nonempty, isFirst⟩ := isLine.first
  obtain ⟨before, size, divided⟩ := lines_append lead rest isLine.whole
  obtain ⟨first, more, start, isFirst'⟩ := lines_head rest nonempty
  rw [isFirst.unique isFirst', Nat.add_comm, line?, divided, start, ← size]
  simp

theorem IsLine.below {s lead line : List Char} (isLine : IsLine s lead line) (front : List Char) :
    IsLine (front ++ ['\n'] ++ s) (front ++ ['\n'] ++ lead) line := by
  obtain ⟨closed, rest, rfl, nonempty, isFirst⟩ := isLine
  refine ⟨.inr ?_, rest, (List.append_assoc _ lead rest).symm, nonempty, isFirst⟩
  rcases closed with rfl | ⟨last, rfl⟩
  · exact ⟨front, List.append_nil _⟩
  · exact ⟨front ++ ['\n'] ++ last, (List.append_assoc _ last _).symm⟩

/-- Every line by its number has its place in the text. -/
theorem isLine_of_line (s line : List Char) (number : Nat) (found : line? s number = some line) :
    ∃ lead, IsLine s lead line ∧ number = 1 + lead.count '\n' := by
  cases number with
  | zero => cases found
  | succ n =>
    rw [line?] at found
    induction n generalizing s with
    | zero =>
      cases s with
      | nil => cases found
      | cons c cs =>
        obtain ⟨first, more, start, isFirst⟩ := lines_head (c :: cs) (by simp)
        rw [start] at found
        cases found
        exact ⟨[], ⟨.inl rfl, c :: cs, rfl, by simp, isFirst⟩, rfl⟩
    | succ n ih =>
      by_cases feed : '\n' ∈ s
      · -- the text behind its first line feed has all lines but the first
        obtain ⟨front, rest, whole, feedless⟩ := List.eq_append_cons_of_mem feed
        have parts : s = front ++ ['\n'] ++ rest := by simp [whole]
        obtain ⟨before, size, divided⟩ := lines_append (front ++ ['\n']) rest (.inr ⟨front, rfl⟩)
        have one : (front ++ ['\n']).count '\n' = 1 := by
          rw [List.count_append, List.count_eq_zero.mpr feedless]
          rfl
        rw [one] at size
        rw [parts, divided, List.getElem?_append_right (by omega), size,
          Nat.add_sub_cancel] at found
        obtain ⟨lead, isLine, number⟩ := ih rest found
        refine ⟨front ++ ['\n'] ++ lead, parts ▸ isLine.below front, ?_⟩
        rw [List.count_append, one]
        omega
      · cases s with
        | nil => cases found
        | cons c cs =>
          rw [lines_of_feedless _ (by simp) feed] at found
          cases found

/-- Whole lines in front of a text are told by the number of their line feeds. -/
theorem wholeLines_unique (lead other rest rest' : List Char) (same : lead ++ rest = other ++ rest')
    (whole : WholeLines lead) (whole' : WholeLines other)
    (count : lead.count '\n' = other.count '\n') : lead = other := by
  have shorter (a b x : List Char) (closed : WholeLines b) (longer : b = a ++ x)
      (count : a.count '\n' = b.count '\n') : x = [] := by
    rw [longer, List.count_append] at count
    have none : x.count '\n' = 0 := by omega
    rw [List.count_eq_zero] at none
    rcases List.eq_nil_or_concat x with empty | ⟨front, c, rfl⟩
    · exact empty
    · rcases closed with rfl | ⟨start, rfl⟩
      · simp at longer
      · rw [List.concat_eq_append, ← List.append_assoc] at longer
        have last := (List.append_inj' longer rfl).2
        cases last
        simp at none
  rcases List.append_eq_append_iff.mp same with ⟨x, longer, -⟩ | ⟨x, longer, -⟩
  · rw [longer, shorter lead other x whole' longer count, List.append_nil]
  · rw [longer, shorter other lead x whole longer count.symm, List.append_nil]

/-- A line of a text that holds a position: between whole lines and a line end. -/
structure HoldsLine (s : List Char) (position : Nat) (line : List Char) : Prop where
  place : ∃ lead rest, s = lead ++ rest ∧ WholeLines lead ∧ IsFirstLine line rest ∧
    byteLength lead ≤ position ∧ position < byteLength lead + byteLength line

/-- A character that is not part of a line end stands on the line that is counted by the line feeds
before it. -/
theorem line_of_visible (lead tail : List Char) (c : Char) (behind : List Char)
    (whole : WholeLines lead) (last : '\n' ∉ tail) (feed : c ≠ '\n') (cr : c ≠ '\r') :
    ∃ line, line? (lead ++ (tail ++ c :: behind)) (1 + lead.count '\n') = some line ∧
      HoldsLine (lead ++ (tail ++ c :: behind)) (byteLength lead + byteLength tail) line := by
  obtain ⟨before, size, divided⟩ := lines_append lead (tail ++ c :: behind) whole
  obtain ⟨line, more, first, isFirst⟩ := lines_head (tail ++ c :: behind) (by simp)
  refine ⟨line, ?_, lead, _, rfl, whole, isFirst, by omega, ?_⟩
  · rw [Nat.add_comm, line?, divided, first, ← size]
    simp
  · obtain ⟨more, rfl⟩ := isFirst.reaches tail c behind rfl last feed cr
    have size := byteLength_pos (c :: more) (by simp)
    rw [byteLength_append]
    omega

/-- A text with a carriage return put in front of each line feed. -/
def withReturns (s : List Char) : List Char :=
  s.flatMap fun c => if c = '\n' then ['\r', '\n'] else [c]

theorem withReturns_feed (cs : List Char) :
    withReturns ('\n' :: cs) = '\r' :: '\n' :: withReturns cs := rfl

theorem withReturns_cons (c : Char) (cs : List Char) (feed : c ≠ '\n') :
    withReturns (c :: cs) = c :: withReturns cs := by
  rw [withReturns, List.flatMap_cons, if_neg feed]
  rfl

theorem head_withReturns (s : List Char) : (withReturns s).head? ≠ some '\n' := by
  cases s with
  | nil => simp [withReturns]
  | cons c cs =>
    by_cases feed : c = '\n'
    · rw [feed, withReturns_feed]
      simp
    · rw [withReturns_cons c cs feed]
      simpa using feed

/-- Returns in front of line feeds belong to the line ends, unless there was one before. -/
theorem lines_withReturns (s : List Char) :
    List.Forall₂ (fun line other => other = line ∨ other = line ++ ['\r']) (lines s)
      (lines (withReturns s)) := by
  fun_induction lines s with
  | case1 => exact .nil
  | case2 cs ih =>
    rw [withReturns_feed]
    exact .cons (.inl rfl) ih
  | case3 cs ih =>
    rw [withReturns_cons '\r' ('\n' :: cs) (by decide), withReturns_feed,
      lines_cons '\r' ('\r' :: '\n' :: withReturns cs) (by decide) (by simp)]
    exact .cons (.inr rfl) ih
  | case4 c cs feed _ empty ih =>
    rw [empty, List.forall₂_nil_left_iff] at ih
    rw [withReturns_cons c cs feed, lines_cons c _ feed fun _ => head_withReturns cs, ih]
    exact .cons (.inl rfl) .nil
  | case5 c cs feed _ line more parts ih =>
    rw [parts, List.forall₂_cons_left_iff] at ih
    obtain ⟨other, others, same, rest, parts'⟩ := ih
    rw [withReturns_cons c cs feed, lines_cons c _ feed fun _ => head_withReturns cs, parts']
    refine .cons ?_ rest
    rcases same with rfl | rfl
    · exact .inl rfl
    · exact .inr rfl

/-- What is read off a line by its number is the same with returns put in, wherever a return at the
end of a line makes no difference. -/
theorem bind_line_withReturns {α : Type} (read : List Char → Option α)
    (same : ∀ line, read (line ++ ['\r']) = read line) (s : List Char) (number : Nat) :
    (line? (withReturns s) number).bind read = (line? s number).bind read := by
  cases number with
  | zero => rfl
  | succ n =>
    have alike : (lines (withReturns s)).map read = (lines s).map read := by
      apply Eq.symm
      rw [← List.forall₂_eq_eq_eq, List.forall₂_map_left_iff, List.forall₂_map_right_iff]
      refine (lines_withReturns s).imp ?_
      rintro line other (rfl | rfl)
      · rfl
      · exact (same line).symm
    have here := congrArg (fun found => found[n]?.bind id) alike
    simpa only [List.getElem?_map, Option.bind_map, Function.id_comp, line?] using here

end ResultLint.Text
