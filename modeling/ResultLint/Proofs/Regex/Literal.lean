import Mathlib.Tactic.FinCases
import ResultLint.Proofs.Regex.Sequence
import ResultLint.Regex.Pattern

/-!
Patterns that write a text. Whatever signs the text has, its pattern is read back as the characters
of the text, so between both ends of the text it matches that one text; only a pattern that grows
beyond the limit is refused.
-/
namespace ResultLint.Regex

/-- The expression that matches a text as a whole. -/
def exactly (text : List Char) : Regex :=
  seqAll (.assertion .textStart ::
    (text.map (fun c => .char (.single c)) ++ [.assertion .textEnd]))

theorem exactly_isMatch_iff (text other : List Char) :
    (exactly text).isMatch other = true ↔ other = text := by
  have sensible : ∀ r ∈ text.map (fun c => Regex.char (.single c)), r.Sensible := by
    intro r member
    obtain ⟨c, -, rfl⟩ := List.mem_map.mp member
    trivial
  rw [exactly, isMatch_between_ends _ sensible]
  exact literal_matches text

namespace Pattern

/-- A character of a sequence, as it is read. -/
def charItem (c : Char) : Item := ⟨.char (.single c), 0, true⟩

theorem isMeta_iff (c : Char) :
    isMeta c = true ↔ c ∈ ['\\', '.', '+', '*', '?', '(', ')', '|', '[', ']', '\x7b', '\x7d', '^',
      '$', '#', '&', '-', '~'] := by
  unfold isMeta
  rw [List.contains_iff_mem]
  rfl

section Body

variable (fuel : Nat) (branches items : List Item) (rest : List Char) (names : List (List Char))

theorem body_escaped (c : Char) (special : isMeta c = true) :
    (body (fuel + 1) branches items).run ⟨'\\' :: c :: rest, .initial, names⟩ =
      (body fuel branches (charItem c :: items)).run ⟨rest, .initial, names⟩ := by
  rw [isMeta_iff] at special
  fin_cases special <;> rfl

theorem body_plain (c : Char) (plain : isMeta c = false) :
    (body (fuel + 1) branches items).run ⟨c :: rest, .initial, names⟩ =
      (body fuel branches (charItem c :: items)).run ⟨rest, .initial, names⟩ := by
  rw [Bool.eq_false_iff, Ne, isMeta_iff] at plain
  simp only [List.mem_cons, List.not_mem_nil, or_false, not_or] at plain
  rw [body]
  simp [skipIgnored, Flags.initial, peek, plain, primitive, bump, Primitive.regex, foldCase,
    charItem]

/-- The pattern of a text is read character by character. -/
theorem body_ofText (text : List Char) :
    (body (fuel + text.length) branches items).run ⟨ofText text ++ rest, .initial, names⟩ =
      (body fuel branches ((text.map charItem).reverse ++ items)).run ⟨rest, .initial, names⟩ := by
  induction text generalizing items with
  | nil => rfl
  | cons c cs ih =>
    have onward := ih (charItem c :: items)
    rw [List.map_cons, List.reverse_cons, List.append_assoc, List.singleton_append, ← onward,
      List.length_cons, ← Nat.add_assoc, ofText, List.flatMap_cons]
    split
    · next special => exact body_escaped _ branches items _ names c special
    · next plain => exact body_plain _ branches items _ names c (by simpa using plain)

end Body

theorem length_le_ofText (text : List Char) : text.length ≤ (ofText text).length := by
  induction text with
  | nil => simp
  | cons c cs ih =>
    rw [ofText, List.flatMap_cons, List.length_append, List.length_cons]
    have more : 1 ≤ (if isMeta c then ['\\', c] else [c]).length := by split <;> simp
    have others : cs.length ≤ (cs.flatMap fun c => if isMeta c then ['\\', c] else [c]).length := ih
    omega

theorem depthOf_eq_zero (items : List Item) (flat : ∀ i ∈ items, i.depth = 0) :
    depthOf items = 0 := by
  unfold depthOf
  induction items with
  | nil => rfl
  | cons i items ih =>
    rw [List.forall_mem_cons] at flat
    rw [List.foldl_cons, flat.1]
    exact ih flat.2

/-- Items without any nesting make a sequence of little depth. -/
theorem sequence_depth_le (items : List Item) (flat : ∀ i ∈ items, i.depth = 0) :
    (sequence items).depth ≤ 1 := by
  unfold sequence
  dsimp only
  split
  · exact Nat.zero_le 1
  · next i => rw [flat i List.mem_cons_self]; exact Nat.zero_le 1
  · rw [depthOf_eq_zero _ flat]

/-- The pattern for exactly a text is well formed; it is refused only if it grows too big. -/
theorem parse_exactly (text : List Char) :
    parse ('^' :: ofText text ++ ['$']) =
      if weight (exactly text) > sizeLimit then .error .tooBig else .ok (exactly text) := by
  let first : Item := ⟨.assertion .textStart, 0, true⟩
  let last : Item := ⟨.assertion .textEnd, 0, true⟩
  let items : List Item := last :: ((text.map charItem).reverse ++ [first])
  obtain ⟨fuel, enough⟩ : ∃ fuel, 4 * ('^' :: ofText text ++ ['$']).length + 8 =
      fuel + 1 + 1 + text.length + 1 := by
    have long := length_le_ofText text
    exact ⟨4 * ('^' :: ofText text ++ ['$']).length + 5 - text.length, by
      simp only [List.length_append, List.length_cons, List.length_nil]
      omega⟩
  have start : (body (fuel + 1 + 1 + text.length + 1) [] []).run
        ⟨'^' :: ofText text ++ ['$'], .initial, []⟩ =
      (body (fuel + 1 + 1 + text.length) [] [first]).run ⟨ofText text ++ ['$'], .initial, []⟩ := rfl
  have finish : (body (fuel + 1 + 1) [] ((text.map charItem).reverse ++ [first])).run
      ⟨['$'], .initial, []⟩ = some (sequence items, ⟨[], .initial, []⟩) := rfl
  have flat : ∀ i ∈ items, i.depth = 0 := by
    intro i member
    rcases List.mem_cons.mp member with rfl | inner
    · rfl
    · rcases List.mem_append.mp inner with inside | front
      · obtain ⟨c, -, rfl⟩ := List.mem_map.mp (List.mem_reverse.mp inside)
        rfl
      · rw [List.mem_singleton.mp front]
  have shallow := sequence_depth_le items flat
  have expression : (sequence items).regex = exactly text := by
    simp [sequence, items, first, last, charItem, exactly, Function.comp_def]
  unfold parse
  rw [enough, start, body_ofText, finish]
  have nested : ¬ (sequence items).depth > nestLimit := by
    have limit : nestLimit = 250 := rfl
    omega
  simp only [List.isEmpty_nil, Bool.not_true, Bool.false_or, decide_eq_true_eq, nested, if_false,
    expression]

end Pattern

end ResultLint.Regex
