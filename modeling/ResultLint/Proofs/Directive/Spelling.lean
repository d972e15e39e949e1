import Mathlib.Data.Set.List
import ResultLint.Directive
import ResultLint.Proofs.Text.Blank
import ResultLint.Proofs.Text.Occurrence

/-!
How a directive can be written. A spelling is a line with all that is left to its writer: the text
before the slashes, further slashes, blanks, empty entries between commas, and what follows the
parenthesis. A line that is spelled so is read as what it says, and no other line is read.
-/
namespace ResultLint.Directive

open Text

/-- What stands between two commas of a parenthesis: blanks with a name between, or only blanks. -/
structure Entry where
  before : Blanks
  name : List Char
  behind : Blanks
  trimmed : trim name = name
  unmarked : ',' ∉ name ∧ ')' ∉ name

namespace Entry

def text (e : Entry) : List Char :=
  e.before.chars ++ e.name ++ e.behind.chars

theorem trim_text (e : Entry) : trim e.text = e.name := by
  rw [text, trim_between, e.trimmed]

theorem text_unmarked (e : Entry) : ',' ∉ e.text ∧ ')' ∉ e.text := by
  have free (mark : Char) (visible : isBlank mark = false) (absent : mark ∉ e.name) :
      mark ∉ e.text := by
    simp [text, absent, Blanks.not_mem _ mark visible]
  exact ⟨free ',' (by decide) e.unmarked.1, free ')' (by decide) e.unmarked.2⟩

theorem exists_text (piece : List Char) (comma : ',' ∉ piece) (closing : ')' ∉ piece) :
    ∃ e : Entry, e.text = piece := by
  obtain ⟨before, behind, whole⟩ := exists_trim piece
  have inside : trim piece ⊆ piece := by
    intro c member
    rw [whole]
    simp [member]
  exact ⟨⟨before, trim piece, behind, trim_trim piece, fun member => comma (inside member),
    fun member => closing (inside member)⟩, whole.symm⟩

/-- What stands in a parenthesis with these entries. -/
def list (entries : List Entry) : List Char :=
  [','].intercalate (entries.map text)

/-- The names in their order; entries without one are left out. -/
def rules (entries : List Entry) : List String :=
  ((entries.map name).filter fun name => !name.isEmpty).map String.ofList

theorem rules_ne_nil_iff (entries : List Entry) :
    rules entries ≠ [] ↔ ∃ e ∈ entries, e.name ≠ [] := by
  simp [rules]

theorem names_list (entries : List Entry) (nonempty : entries ≠ []) :
    names (list entries) = rules entries := by
  have pieces : splitOn ',' (list entries) = entries.map text := by
    rw [splitOn_eq, list, List.splitOn_intercalate ',' _ (by simpa using nonempty)]
    intro piece member
    obtain ⟨e, -, rfl⟩ := List.mem_map.mp member
    exact e.text_unmarked.1
  have trimmed : (entries.map text).map trim = entries.map name := by
    rw [List.map_map]
    exact List.map_congr_left fun e _ => e.trim_text
  rw [names, pieces, trimmed]
  rfl

theorem list_unclosed (entries : List Entry) : ')' ∉ list entries := by
  induction entries with
  | nil => simp [list]
  | cons e rest ih =>
    have free := e.text_unmarked.2
    cases rest with
    | nil => simpa [list] using free
    | cons d rest =>
      have split : list (e :: d :: rest) = e.text ++ ',' :: list (d :: rest) := by
        simp [list]
      rw [split]
      simp [free, ih]

/-- Every text without a closing parenthesis is made of entries. -/
theorem exists_list (inside : List Char) (unclosed : ')' ∉ inside) :
    ∃ entries, entries ≠ [] ∧ list entries = inside := by
  have spelled : splitOn ',' inside ∈ Set.range (List.map text) := by
    rw [Set.range_list_map]
    intro piece member
    obtain ⟨comma, within⟩ := piece_of_splitOn ',' inside piece member
    exact exists_text piece comma fun closing => unclosed (within closing)
  obtain ⟨entries, pieces⟩ := spelled
  refine ⟨entries, ?_, ?_⟩
  · rintro rfl
    exact List.splitOn_ne_nil ',' inside (by rw [← splitOn_eq, ← pieces]; rfl)
  · rw [list, pieces, splitOn_eq, List.intercalate_splitOn]

end Entry

/-- What follows the parenthesis: a reason in quotes, or something else that gives none. -/
inductive Clause where
  | reason (before gap : Blanks) (text more : List Char) (closed : '"' ∉ text)
      (said : ∃ c ∈ text, isBlank c = false)
  | blank (before gap text : Blanks) (more : List Char)
  | unclosed (before gap : Blanks) (text : List Char) (unending : '"' ∉ text)
  | unquoted (before gap : Blanks) (more : List Char)
      (bare : ∀ c, more.head? = some c → isBlank c = false ∧ c ≠ '"')
  | missing (before : Blanks) (more : List Char)
      (visible : ∀ c, more.head? = some c → isBlank c = false)
      (absent : ¬ "reason=".toList <+: more)

namespace Clause

def text : Clause → List Char
  | .reason before gap text more _ _ =>
    before.chars ++ "reason=".toList ++ (gap.chars ++ '"' :: (text ++ '"' :: more))
  | .blank before gap text more =>
    before.chars ++ "reason=".toList ++ (gap.chars ++ '"' :: (text.chars ++ '"' :: more))
  | .unclosed before gap text _ => before.chars ++ "reason=".toList ++ (gap.chars ++ '"' :: text)
  | .unquoted before gap more _ => before.chars ++ "reason=".toList ++ (gap.chars ++ more)
  | .missing before more _ _ => before.chars ++ more

def reason? : Clause → Option (List Char)
  | .reason _ _ text _ _ _ => some text
  | .blank .. | .unclosed .. | .unquoted .. | .missing .. => none

end Clause

/-- A mark behind blanks is all that stripping a trimmed text looks for. -/
theorem strip_trim_iff (mark s rest : List Char) (visible : ∀ c ∈ mark, isBlank c = false)
    (nonempty : mark ≠ []) :
    stripStart? mark (trim s) = some rest ↔
      ∃ (front : Blanks) (tail : List Char), s = front.chars ++ mark ++ tail ∧
        rest = trimEnd tail := by
  rw [stripStart_some_iff]
  constructor
  · intro found
    obtain ⟨front, behind, whole⟩ := exists_trim s
    have ended : mark ++ trimEnd rest = mark ++ rest := by
      rw [← trimEnd_mark mark rest visible nonempty, ← found, trimEnd_trim]
    refine ⟨front, rest ++ behind.chars, by rw [whole, found]; simp, ?_⟩
    rw [trimEnd_blanks]
    exact (List.append_cancel_left ended).symm
  · rintro ⟨front, tail, rfl, rfl⟩
    obtain ⟨c, more, rfl⟩ := List.exists_cons_of_ne_nil nonempty
    have first : trimStart (c :: more ++ tail) = c :: more ++ tail :=
      trimStart_visible c _ (visible c List.mem_cons_self)
    rw [List.append_assoc, trim_blanks_append, trim, first, trimEnd_mark _ tail visible nonempty]

/-- Where something else stands behind the blanks, there is nothing to strip. -/
theorem strip_trim_none (mark : List Char) (front : Blanks) (s : List Char)
    (visible : ∀ c ∈ mark, isBlank c = false) (nonempty : mark ≠ [])
    (begins : ∀ c, s.head? = some c → isBlank c = false) (absent : ¬ mark <+: s) :
    stripStart? mark (trim (front.chars ++ s)) = none := by
  rw [Option.eq_none_iff_forall_ne_some]
  intro rest found
  obtain ⟨other, tail, whole, -⟩ := (strip_trim_iff mark _ rest visible nonempty).mp found
  obtain ⟨c, more, rfl⟩ := List.exists_cons_of_ne_nil nonempty
  have same : s = c :: more ++ tail := by
    rw [← trimStart_behind front s begins, whole, List.append_assoc]
    refine trimStart_behind other _ fun d first => visible d ?_
    cases first
    exact List.mem_cons_self
  exact absent ⟨tail, same.symm⟩

theorem quote_visible : ∀ c ∈ ['"'], isBlank c = false :=
  visible_of_any _ (by decide)

theorem reasonMark_visible : ∀ c ∈ "reason=".toList, isBlank c = false :=
  visible_of_any _ (by decide)

theorem directiveMark_visible : ∀ c ∈ "railway-lint:".toList, isBlank c = false :=
  visible_of_any _ (by decide)

theorem listMark_visible : ∀ c ∈ "allow(".toList, isBlank c = false :=
  visible_of_any _ (by decide)

/-- The reason in a text behind its opening quote. -/
def quotedReason? (quoted : List Char) : Option String :=
  (cut? ['"'] quoted).bind fun parts =>
    if (trim parts.1).isEmpty then none else some (String.ofList parts.1)

theorem reasonOf?_trimEnd (rest : List Char) : reasonOf? (trimEnd rest) = reasonOf? rest := by
  rw [reasonOf?, trim_trimEnd, ← reasonOf?]

theorem reasonOf?_append_blanks (rest : List Char) (behind : Blanks) :
    reasonOf? (rest ++ behind.chars) = reasonOf? rest := by
  rw [reasonOf?, trim_append_blanks, ← reasonOf?]

theorem reasonOf?_eq (before : Blanks) (tail : List Char) :
    reasonOf? (before.chars ++ "reason=".toList ++ tail) =
      (stripStart? ['"'] (trim tail)).bind quotedReason? := by
  have named := (strip_trim_iff _ _ (trimEnd tail) reasonMark_visible (by decide)).mpr
    ⟨before, tail, rfl, rfl⟩
  rw [reasonOf?, named, Option.bind_eq_bind, Option.bind_some, trim_trimEnd]
  rfl

theorem reasonOf?_quoted (before gap : Blanks) (tail : List Char) :
    reasonOf? (before.chars ++ "reason=".toList ++ (gap.chars ++ '"' :: tail)) =
      quotedReason? (trimEnd tail) := by
  have opened := (strip_trim_iff ['"'] (gap.chars ++ '"' :: tail) (trimEnd tail) quote_visible
    (by decide)).mpr ⟨gap, tail, by simp, rfl⟩
  rw [reasonOf?_eq, opened, Option.bind_some]

theorem quotedReason?_closed (text more : List Char) (closed : '"' ∉ text) :
    quotedReason? (trimEnd (text ++ '"' :: more)) =
      if (trim text).isEmpty then none else some (String.ofList text) := by
  rw [trimEnd_visible text '"' more (by decide), quotedReason?,
    (cut_char_iff '"' _ text (trimEnd more)).mpr ⟨rfl, closed⟩, Option.bind_some]

namespace Clause

theorem reasonOf?_text (c : Clause) : reasonOf? c.text = c.reason?.map String.ofList := by
  cases c with
  | reason before gap text more closed said =>
    have visible : trim text ≠ [] := by
      rw [Ne, trim_eq_nil_iff]
      obtain ⟨c, member, seen⟩ := said
      intro blank
      rw [blank c member] at seen
      cases seen
    rw [Clause.text, reasonOf?_quoted, quotedReason?_closed text more closed,
      if_neg (by simpa using visible)]
    rfl
  | blank before gap text more =>
    rw [Clause.text, reasonOf?_quoted, quotedReason?_closed _ more (text.not_mem '"' (by decide)),
      (trim_eq_nil_iff text.chars).mpr text.blank]
    rfl
  | unclosed before gap text unending =>
    have open_ : cut? ['"'] (trimEnd text) = none := by
      rw [Option.eq_none_iff_forall_ne_some]
      rintro ⟨front, behind⟩ found
      obtain ⟨blanks, whole⟩ := exists_trimEnd text
      rw [((cut_char_iff '"' _ front behind).mp found).1] at whole
      exact unending (by rw [whole]; simp)
    rw [Clause.text, reasonOf?_quoted, quotedReason?, open_]
    rfl
  | unquoted before gap more bare =>
    have unopened : stripStart? ['"'] (trim (gap.chars ++ more)) = none := by
      refine strip_trim_none _ gap more quote_visible (by decide)
        (fun c first => (bare c first).1) ?_
      rintro ⟨tail, rfl⟩
      exact (bare '"' rfl).2 rfl
    rw [Clause.text, reasonOf?_eq, unopened]
    rfl
  | missing before more visible absent =>
    rw [Clause.text, reasonOf?,
      strip_trim_none _ before more reasonMark_visible (by decide) visible absent]
    rfl

/-- Whatever follows a parenthesis is one of these. -/
theorem exists_text (tail : List Char) : ∃ c : Clause, c.text = tail := by
  have front := leading_trimStart tail
  by_cases named : "reason=".toList <+: trimStart tail
  · obtain ⟨value, same⟩ := named
    rw [← same] at front
    have inner := leading_trimStart value
    by_cases quoted : ['"'] <+: trimStart value
    · obtain ⟨more, same⟩ := quoted
      rw [← same, List.singleton_append] at inner
      by_cases ends : '"' ∈ more
      · obtain ⟨said, rest, whole, closed⟩ := List.eq_append_cons_of_mem ends
        rw [whole] at inner
        by_cases blank : ∀ c ∈ said, isBlank c = true
        · refine ⟨.blank (leading tail) (leading value) ⟨said, blank⟩ rest, ?_⟩
          rw [text, inner, List.append_assoc, front]
        · have some : ∃ c ∈ said, isBlank c = false := by simpa using blank
          refine ⟨.reason (leading tail) (leading value) said rest closed some, ?_⟩
          rw [text, inner, List.append_assoc, front]
      · refine ⟨.unclosed (leading tail) (leading value) more ends, ?_⟩
        rw [text, inner, List.append_assoc, front]
    · refine ⟨.unquoted (leading tail) (leading value) (trimStart value) ?_, ?_⟩
      · intro c first
        refine ⟨head_trimStart value c first, ?_⟩
        rintro rfl
        obtain ⟨more, whole⟩ := List.head?_eq_some_iff.mp first
        exact quoted ⟨more, whole.symm⟩
      · rw [text, inner, List.append_assoc, front]
  · exact ⟨.missing (leading tail) (trimStart tail) (head_trimStart tail) named, front⟩

end Clause

/-- Blanks before the first name of a parenthesis do not count. -/
theorem names_blanks_append (front : Blanks) (inside : List Char) :
    names (front.chars ++ inside) = names inside := by
  obtain ⟨front, blank⟩ := front
  induction front with
  | nil => rfl
  | cons c cs ih =>
    obtain ⟨first, rest⟩ := List.forall_mem_cons.mp blank
    have apart : c ≠ ',' := by
      rintro rfl
      cases first
    rw [← ih rest]
    obtain ⟨piece, pieces, parts⟩ := List.exists_cons_of_ne_nil
      (List.splitOn_ne_nil ',' (cs ++ inside))
    have same : trim (c :: piece) = trim piece :=
      trim_blanks_append ⟨[c], by simpa using first⟩ piece
    have split : splitOn ',' (c :: cs ++ inside) = (c :: piece) :: pieces := by
      rw [splitOn_eq, List.cons_append, List.splitOn_cons_eq_if_modifyHead, parts,
        if_neg (by simpa using apart)]
      rfl
    rw [← splitOn_eq] at parts
    rw [names, names, split, parts, List.map_cons, List.map_cons, same]

theorem names_trimStart (inside : List Char) : names (trimStart inside) = names inside := by
  conv_rhs => rw [← leading_trimStart inside, names_blanks_append]

/-- The comment of a directive, in its parts. -/
theorem ofComment?_trim_iff (comment : List Char) (d : Directive) :
    ofComment? (trim comment) = some d ↔
      ∃ (lead gap : Blanks) (inside tail : List Char),
        comment = lead.chars ++ "railway-lint:".toList ++
          (gap.chars ++ "allow(".toList ++ (inside ++ ')' :: tail)) ∧
        ')' ∉ inside ∧ names inside ≠ [] ∧ d = ⟨names inside, reasonOf? tail⟩ := by
  have begun := fun s rest => strip_trim_iff _ s rest directiveMark_visible (by decide)
  have opened := fun s rest => strip_trim_iff _ s rest listMark_visible (by decide)
  constructor
  · intro read
    unfold ofComment? at read
    simp only [Option.bind_eq_bind, Option.bind_eq_some_iff] at read
    obtain ⟨directive, marked, list, listed, ⟨inside, rest⟩, cut, kept⟩ := read
    obtain ⟨lead, tail, rfl, rfl⟩ := (begun _ _).mp marked
    rw [trim_trimEnd] at listed
    obtain ⟨gap, tail, rfl, rfl⟩ := (opened _ _).mp listed
    rw [trim_trimEnd] at cut
    obtain ⟨front, behind, whole⟩ := exists_trim tail
    obtain ⟨trimmed, absent⟩ := (cut_char_iff _ _ _ _).mp cut
    rw [trimmed] at whole
    refine ⟨lead, gap, front.chars ++ inside, rest ++ behind.chars, by rw [whole]; simp, ?_, ?_⟩
    · simp [absent, front.not_mem ')' (by decide)]
    · rw [names_blanks_append, reasonOf?_append_blanks]
      dsimp only at kept
      split at kept
      · cases kept
      · next some =>
        cases kept
        exact ⟨by simpa using some, rfl⟩
  · rintro ⟨lead, gap, inside, tail, rfl, absent, some, rfl⟩
    have shorter : ')' ∉ trimStart inside :=
      fun member => absent ((List.dropWhile_suffix isBlank).subset member)
    have cut := (cut_char_iff ')' _ (trimStart inside) (trimEnd tail)).mpr ⟨rfl, shorter⟩
    rw [ofComment?, (begun _ _).mpr ⟨lead, _, rfl, rfl⟩]
    simp only [Option.bind_eq_bind, Option.bind_some, trim_trimEnd,
      (opened _ _).mpr ⟨gap, _, rfl, rfl⟩, trim_visible inside ')' tail (by decide), cut,
      names_trimStart, reasonOf?_trimEnd, List.isEmpty_iff, if_neg some]

/-- The first two slashes of a line stand behind a text without any, or one sign before its end. -/
theorem cut_slashes (front more : List Char) (uncommented : ¬ ['/', '/'] <:+: front) :
    ∃ before after, cut? ['/', '/'] (front ++ '/' :: '/' :: more) = some (before, after) ∧
      after.dropWhile (· == '/') = more.dropWhile (· == '/') := by
  cases cut : cut? ['/', '/'] (front ++ '/' :: '/' :: more) with
  | none => exact absurd ⟨front, more, by simp⟩ (cut_none _ _ cut)
  | some parts =>
    obtain ⟨before, after⟩ := parts
    refine ⟨before, after, rfl, ?_⟩
    have whole := cut_some _ _ _ _ cut
    obtain ⟨between, rfl⟩ := cut_first _ _ _ _ front more cut (by simp)
    rw [List.append_assoc, List.append_assoc, List.append_cancel_left_eq] at whole
    rcases between with _ | ⟨c, _ | ⟨d, more⟩⟩
    · cases whole
      rfl
    · cases whole
      rfl
    · cases whole
      exact absurd ⟨before, more, by simp⟩ uncommented

/-- A line on which a directive is written. -/
structure Spelling where
  front : List Char
  /-- How many slashes there are besides the two that open the comment. -/
  slashes : Nat
  lead : Blanks
  gap : Blanks
  entries : List Entry
  clause : Clause
  uncommented : ¬ ['/', '/'] <:+: front
  named : ∃ e ∈ entries, e.name ≠ []

namespace Spelling

/-- What follows the slashes. -/
def comment (s : Spelling) : List Char :=
  s.lead.chars ++ "railway-lint:".toList ++
    (s.gap.chars ++ "allow(".toList ++ (Entry.list s.entries ++ ')' :: s.clause.text))

def line (s : Spelling) : List Char :=
  s.front ++ '/' :: '/' :: (List.replicate s.slashes '/' ++ s.comment)

def directive (s : Spelling) : Directive :=
  ⟨Entry.rules s.entries, s.clause.reason?.map String.ofList⟩

theorem dropWhile_comment (s : Spelling) (n : Nat) :
    (List.replicate n '/' ++ s.comment).dropWhile (· == '/') = s.comment := by
  rw [List.dropWhile_append_of_pos (by simp [List.mem_replicate])]
  cases blanks : s.lead.chars with
  | nil => simp [comment, blanks]
  | cons c cs =>
    have apart : c ≠ '/' := by
      rintro rfl
      have blank := s.lead.blank '/' (by simp [blanks])
      cases blank
    simp [comment, blanks, apart]

theorem ofLine?_line (s : Spelling) : ofLine? s.line = some s.directive := by
  obtain ⟨before, after, cut, rest⟩ := cut_slashes s.front
    (List.replicate s.slashes '/' ++ s.comment) s.uncommented
  obtain ⟨e, member, -⟩ := s.named
  have rules := Entry.names_list s.entries (List.ne_nil_of_mem member)
  rw [ofLine?, line, cut, Option.bind_eq_bind, Option.bind_some]
  dsimp only
  rw [rest, dropWhile_comment, ofComment?_trim_iff]
  refine ⟨s.lead, s.gap, Entry.list s.entries, s.clause.text, rfl, Entry.list_unclosed s.entries,
    ?_, ?_⟩
  · rw [rules, Entry.rules_ne_nil_iff]
    exact s.named
  · rw [rules, Clause.reasonOf?_text]
    rfl

/-- A line is read only if a directive is written on it, behind its first two slashes. -/
theorem exists_line (line : List Char) (d : Directive) (read : ofLine? line = some d) :
    ∃ s : Spelling, s.line = line ∧ s.directive = d ∧ ¬ ['/', '/'] <:+: s.front ++ ['/'] := by
  unfold ofLine? at read
  rw [Option.bind_eq_bind, Option.bind_eq_some_iff] at read
  obtain ⟨⟨front, after⟩, cut, read⟩ := read
  obtain ⟨lead, gap, inside, tail, parts, unclosed, named, rfl⟩ :=
    (ofComment?_trim_iff _ d).mp read
  obtain ⟨entries, nonempty, rfl⟩ := Entry.exists_list inside unclosed
  obtain ⟨clause, rfl⟩ := Clause.exists_text tail
  have rules := Entry.names_list entries nonempty
  have whole := cut_some _ _ _ _ cut
  have slashes : after.takeWhile (· == '/') =
      List.replicate (after.takeWhile (· == '/')).length '/' :=
    List.eq_replicate_of_mem fun c member => by simpa using List.mem_takeWhile_imp member
  have first : ¬ ['/', '/'] <:+: front ++ ['/'] := by
    rintro ⟨before, more, earlier⟩
    have place : line = before ++ (['/', '/'] ++ (more ++ '/' :: after)) := by
      calc
        line = front ++ ['/'] ++ '/' :: after := by rw [whole]; simp
        _ = before ++ ['/', '/'] ++ more ++ '/' :: after := by rw [earlier]
        _ = before ++ (['/', '/'] ++ (more ++ '/' :: after)) := by simp
    have longer := (cut_first _ _ _ _ before _ cut place).length_le
    have size := congrArg List.length earlier
    simp only [List.length_append, List.length_cons, List.length_nil] at size
    omega
  rw [rules, Entry.rules_ne_nil_iff] at named
  refine ⟨⟨front, (after.takeWhile (· == '/')).length, lead, gap, entries, clause, ?_, named⟩, ?_,
    ?_, first⟩
  · intro inner
    exact first (inner.trans (List.prefix_append _ _).isInfix)
  · simp only [Spelling.line, comment]
    rw [← slashes, ← parts, List.takeWhile_append_dropWhile, whole]
    simp
  · rw [directive, rules, Clause.reasonOf?_text]

end Spelling

/-- What is spelled on a line is what is read off it, names in order and reason letter by letter;
and a line is read only as what is spelled on it behind its first two slashes. -/
theorem spellings_read_back :
    (∀ s : Spelling, ofLine? s.line = some s.directive) ∧
    ∀ line d, ofLine? line = some d ↔
      ∃ s : Spelling, s.line = line ∧ s.directive = d ∧ ¬ ['/', '/'] <:+: s.front ++ ['/'] := by
  refine ⟨Spelling.ofLine?_line, fun line d => ⟨Spelling.exists_line line d, ?_⟩⟩
  rintro ⟨s, rfl, rfl, -⟩
  exact s.ofLine?_line

/-- A directive with a further slash, other blanks than spaces, an entry without a name, and signs
in its reason that have a meaning elsewhere. -/
theorem spellings_read_back_two_names :
    ofLine? "x = 1 / 2; ///\u00a0railway-lint:\tallow( a , ,日本)reason= \"x) // y\" z".toList =
      some ⟨["a", "日本"], some "x) // y"⟩ := by
  let s : Spelling := {
    front := "x = 1 / 2; ".toList
    slashes := 1
    lead := .of ['\u00a0'] rfl
    gap := .of ['\t'] rfl
    entries := [⟨.of [' '] rfl, ['a'], .of [' '] rfl, by decide, by decide⟩,
      ⟨.of [' '] rfl, [], .of [] rfl, by decide, by decide⟩,
      ⟨.of [] rfl, "日本".toList, .of [] rfl, by decide, by decide⟩]
    clause := .reason (.of [] rfl) (.of [' '] rfl) "x) // y".toList " z".toList (by decide)
      ⟨'x', by decide, by decide⟩
    uncommented := by decide +kernel
    named := ⟨_, List.mem_cons_self, by decide⟩ }
  exact spellings_read_back.1 s

end ResultLint.Directive
