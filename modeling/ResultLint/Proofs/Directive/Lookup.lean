import ResultLint.Proofs.Directive
import ResultLint.Proofs.Directive.Spelling

/-!
Where a directive is looked for. What a text allows on a line hangs on two of its lines only, the
one above and the line itself; the one above goes first if it has a directive about the rule.
-/
namespace ResultLint

open Text

namespace Directive

namespace Spelling

/-- A spelled line up to its closing parenthesis. -/
def head (s : Spelling) : List Char :=
  s.front ++ '/' :: '/' :: (List.replicate s.slashes '/' ++ (s.lead.chars ++
    "railway-lint:".toList ++ (s.gap.chars ++ "allow(".toList ++ Entry.list s.entries)))

theorem line_eq (s : Spelling) : s.line = s.head ++ ')' :: s.clause.text := by
  simp [line, comment, head]

/-- Whatever follows the parenthesis, the line is read, and only the reason is taken from there. -/
theorem ofLine?_head (s : Spelling) (tail : List Char) :
    ofLine? (s.head ++ ')' :: tail) = some ⟨Entry.rules s.entries, reasonOf? tail⟩ := by
  obtain ⟨clause, rfl⟩ := Clause.exists_text tail
  have read := ofLine?_line { s with clause := clause }
  rw [line_eq, directive, ← Clause.reasonOf?_text] at read
  exact read

end Spelling

/-- A blank at the end of a line makes no difference. -/
theorem ofLine?_append_blank (line : List Char) (c : Char) (blank : isBlank c = true) :
    ofLine? (line ++ [c]) = ofLine? line := by
  have behind (tail : List Char) : reasonOf? (tail ++ [c]) = reasonOf? tail :=
    reasonOf?_append_blanks tail ⟨[c], by simpa using blank⟩
  ext d
  constructor
  · intro read
    obtain ⟨s, whole, rfl, -⟩ := Spelling.exists_line _ d read
    rw [s.line_eq] at whole
    rcases List.eq_nil_or_concat s.clause.text with empty | ⟨tail, last, ended⟩
    · -- the closing parenthesis is no blank
      rw [empty] at whole
      obtain ⟨-, same⟩ := List.append_inj' whole rfl
      cases same
      cases blank
    · rw [ended, List.concat_eq_append, ← List.cons_append, ← List.append_assoc] at whole
      obtain ⟨rfl, same⟩ := List.append_inj' whole rfl
      cases same
      rw [s.ofLine?_head, Spelling.directive, ← Clause.reasonOf?_text, ended,
        List.concat_eq_append, behind]
  · intro read
    obtain ⟨s, rfl, rfl, -⟩ := Spelling.exists_line line d read
    rw [s.line_eq, List.append_assoc, List.cons_append, s.ofLine?_head, behind,
      Clause.reasonOf?_text]
    rfl

end Directive

/-- A line with this number, counted from one, on which a directive is written that names a rule or
all of them. -/
def Spelled (source : List Char) (number : Nat) (rule : String) (reason : Option String) : Prop :=
  ∃ (s : Directive.Spelling) (lead : List Char), IsLine source lead s.line ∧
    number = 1 + lead.count '\n' ∧
    (rule ∈ s.directive.rules ∨ "all" ∈ s.directive.rules) ∧ s.directive.reason = reason

theorem carries_iff_spelled (source : List Char) (number : Nat) (rule : String)
    (reason : Option String) :
    Carries source number rule reason ↔ Spelled source number rule reason := by
  have covers (d : Directive) : d.covers rule = true ↔ rule ∈ d.rules ∨ "all" ∈ d.rules := by
    simp [Directive.covers]
  constructor
  · rintro ⟨d, read, names, told⟩
    obtain ⟨line, found, read⟩ := Option.bind_eq_some_iff.mp read
    obtain ⟨s, rfl, rfl, -⟩ := Directive.Spelling.exists_line line d read
    obtain ⟨lead, isLine, counted⟩ := isLine_of_line source _ number found
    exact ⟨s, lead, isLine, counted, (covers _).mp names, told⟩
  · rintro ⟨s, lead, isLine, rfl, names, told⟩
    refine ⟨s.directive, ?_, (covers _).mpr names, told⟩
    rw [line_of_isLine isLine, Option.bind_some, s.ofLine?_line]

namespace Allowance

theorem check_congr (source other : List Char) (number : Nat) (rule : String)
    (above : (line? other (number - 1)).bind Directive.ofLine? =
      (line? source (number - 1)).bind Directive.ofLine?)
    (here : (line? other number).bind Directive.ofLine? =
      (line? source number).bind Directive.ofLine?) :
    check other number rule = check source number rule := by
  simp only [check, List.findSome?, above, here]

theorem check_denied_iff (source : List Char) (number : Nat) (rule : String) :
    check source number rule = .denied ↔ ∀ reason,
      ¬ Spelled source (number - 1) rule reason ∧ ¬ Spelled source number rule reason := by
  have allowed := check_allowed_iff source number rule
  simp only [carries_iff_spelled] at allowed
  constructor
  · intro denied reason
    rw [denied] at allowed
    have silent (other : Option String) : ¬ Spelled source (number - 1) rule other :=
      fun above => absurd ((allowed other).mpr (.inl above)) (by simp)
    exact ⟨silent reason, fun here => absurd ((allowed reason).mpr (.inr ⟨silent, here⟩)) (by simp)⟩
  · intro silent
    cases verdict : check source number rule with
    | denied => rfl
    | allowed reason =>
      rcases (allowed reason).mp verdict with above | ⟨-, here⟩
      · exact absurd above (silent reason).1
      · exact absurd here (silent reason).2

/-- A rule is allowed on a line exactly if a directive about it is written on the line above or on
the line itself, with the reason of the one above if there is one; no other line has a part in it,
nor has the way in which the lines end. -/
theorem check_by_two_lines (source : List Char) (number : Nat) (rule : String) :
    (∀ reason, check source number rule = .allowed reason ↔
      Spelled source (number - 1) rule reason ∨
        (∀ other, ¬ Spelled source (number - 1) rule other) ∧
          Spelled source number rule reason) ∧
    (check source number rule = .denied ↔ ∀ reason,
      ¬ Spelled source (number - 1) rule reason ∧ ¬ Spelled source number rule reason) ∧
    (∀ other, line? other (number - 1) = line? source (number - 1) →
      line? other number = line? source number →
      check other number rule = check source number rule) ∧
    check (withReturns source) number rule = check source number rule := by
  refine ⟨fun reason => ?_, check_denied_iff source number rule, fun other above here => ?_, ?_⟩
  · simp only [check_allowed_iff, carries_iff_spelled]
  · exact check_congr source other number rule (by rw [above]) (by rw [here])
  · have same := bind_line_withReturns Directive.ofLine?
      fun line => Directive.ofLine?_append_blank line '\r' (by decide)
    exact check_congr source _ number rule (same source (number - 1)) (same source number)

/-- A directive above about another rule does not hide one on the line, whatever comes below. -/
theorem check_by_two_lines_shadowed :
    let source :=
      "// railway-lint: allow(x) reason=\"a\"\nf() // railway-lint: allow(all)\ng()".toList
    let other := "// railway-lint: allow(x) reason=\"a\"\r\nf() // railway-lint: allow(all)".toList
    line? other 1 = line? source 1 ∧ line? other 2 = line? source 2 ∧
      check other 2 "y" = check source 2 "y" ∧ check source 2 "y" = .allowed none := by
  intro source other
  have above : line? other 1 = line? source 1 := by decide +kernel
  have here : line? other 2 = line? source 2 := by decide +kernel
  exact ⟨above, here, (check_by_two_lines source 2 "y").2.2.1 other above here, by decide +kernel⟩

end Allowance

end ResultLint
