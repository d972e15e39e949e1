import ResultLint.Proofs.Regex.Sequence
import ResultLint.Regex.Pattern
import ResultLint.ReturnType.Shape

/-!
What the shapes of a result match: a result of one non-empty text without a closing angle bracket,
or a promise of one, and nothing else. The shapes with a comma match nothing of their own.
-/
namespace ResultLint.ReturnType

open Regex Unicode

/-- A result as it is written: one opening, anything but a closing angle bracket, and the
closing. -/
inductive ResultShaped : List Char → Prop
  | plain (inside : List Char) (nonempty : inside ≠ []) (unclosed : '>' ∉ inside) :
      ResultShaped ("Result<".toList ++ inside ++ ">".toList)
  | promised (inside : List Char) (nonempty : inside ≠ []) (unclosed : '>' ∉ inside) :
      ResultShaped ("Promise<Result<".toList ++ inside ++ ">>".toList)

namespace Shape

/-- The shapes as patterns, in their order. -/
def patterns : List String := [
  "^Result<[^>]+,\\s*[^>]+>$", "^Result<[^>]+>$", "^Promise<Result<[^>]+,\\s*[^>]+>>$",
  "^Promise<Result<[^>]+>>$"]

theorem unclosing_contains_iff (c : Char) :
    (CharSet.single '>').complement.contains c = true ↔ c ≠ '>' := by
  have whole : (CharSet.single '>').complement = ⟨[(0, 0x3D), (0x3F, CharSet.greatest)]⟩ := by
    decide
  have last : c.toNat ≤ CharSet.greatest := by
    have valid := c.valid
    unfold CharSet.greatest
    change c.val.toNat ≤ 0x10FFFF
    simp only [UInt32.isValidChar, Nat.isValidChar] at valid
    omega
  have same : c = '>' ↔ c.toNat = 0x3E := Char.toNat_inj.symm
  rw [whole, Ne, same]
  simp only [CharSet.contains, List.any_cons, List.any_nil, Bool.or_false, Bool.or_eq_true,
    Bool.and_eq_true, decide_eq_true_eq]
  omega

section Arguments

variable {before : Option Char} {piece rest : List Char}

theorem argument_matches :
    argument.Matches before piece rest ↔ piece ≠ [] ∧ '>' ∉ piece := by
  have unclosed : (∀ c ∈ piece, (CharSet.single '>').complement.contains c = true) ↔
      '>' ∉ piece := by
    simp only [unclosing_contains_iff]
    exact ⟨fun each closing => each _ closing rfl, fun free c member same => free (same ▸ member)⟩
  rw [argument, repeated_char_matches, unclosed]
  refine and_congr_left fun _ => ?_
  rw [Nat.one_le_iff_ne_zero, Ne, List.length_eq_zero_iff]

/-- Arguments with a comma between them are one argument. -/
theorem argument_of_arguments (matched : arguments.Matches before piece rest) :
    argument.Matches before piece rest := by
  obtain ⟨first, _, rfl, left, comma, _, rfl, ⟨c, rfl, separator⟩, blanks, last, rfl, space,
    right⟩ := matched
  obtain ⟨nonempty, unclosed⟩ := argument_matches.mp left
  have notBlank : '>' ∉ blanks := by
    intro closing
    have blank := ((repeated_char_matches CharSet.blank 0).mp space).2 '>' closing
    exact absurd blank (by decide)
  have notComma : '>' ≠ c := by
    rintro rfl
    exact absurd separator (by decide)
  refine argument_matches.mpr ⟨by simp [nonempty], ?_⟩
  simp [unclosed, notBlank, notComma, (argument_matches.mp right).2]

end Arguments

theorem argument_sensible : argument.Sensible :=
  ⟨trivial, by simp⟩

theorem arguments_sensible : arguments.Sensible :=
  seqAll_sensible _ (by simp [argument_sensible, Sensible])

/-- An opening, a sequence of expressions and a closing between both ends of a text. -/
theorem enclosed_matches (opening closing type : List Char) (inside : List Regex) :
    (seqAll (opening.map (fun c => .char (.single c)) ++
        (inside ++ closing.map fun c => .char (.single c)))).Matches none type [] ↔
      ∃ x, type = opening ++ x ++ closing ∧
        (seqAll inside).Matches (lastOf none opening) x closing := by
  rw [seqAll_append_matches]
  constructor
  · rintro ⟨front, _, rfl, first, others⟩
    obtain ⟨x, back, rfl, body, last⟩ := (seqAll_append_matches _ _).mp others
    obtain rfl := (literal_matches opening).mp first
    obtain rfl := (literal_matches closing).mp last
    exact ⟨x, (List.append_assoc _ _ _).symm, by simpa using body⟩
  · rintro ⟨x, rfl, body⟩
    refine ⟨opening, x ++ closing, List.append_assoc _ _ _, (literal_matches opening).mpr rfl, ?_⟩
    exact (seqAll_append_matches _ _).mpr
      ⟨x, closing, rfl, by simpa using body, (literal_matches closing).mpr rfl⟩

/-- The same shape written as one sequence of signs, as a pattern is read. -/
theorem written_isMatch_iff (opening closing type : List Char) (inside : List Regex)
    (sensible : ∀ r ∈ inside, r.Sensible) :
    (seqAll (.assertion .textStart :: ((opening.map (fun c => .char (.single c)) ++
        (inside ++ closing.map fun c => .char (.single c))) ++ [.assertion .textEnd]))).isMatch
        type = true ↔
      ∃ x, type = opening ++ x ++ closing ∧
        (seqAll inside).Matches (lastOf none opening) x closing := by
  rw [isMatch_between_ends, enclosed_matches]
  intro r member
  simp only [List.mem_append, List.mem_map] at member
  rcases member with ⟨c, -, rfl⟩ | listed | ⟨c, -, rfl⟩
  · trivial
  · exact sensible r listed
  · trivial

theorem whole_isMatch_iff (opening closing : String) (inside : Regex) (type : List Char)
    (sensible : inside.Sensible) :
    (whole opening inside closing).isMatch type = true ↔
      ∃ x, type = opening.toList ++ x ++ closing.toList ∧
        inside.Matches (lastOf none opening.toList) x closing.toList := by
  have parts : whole opening inside closing = seqAll (.assertion .textStart ::
      ([.literal opening.toList, inside, .literal closing.toList] ++ [.assertion .textEnd])) := rfl
  rw [parts, isMatch_between_ends _ (by simp [literal_sensible, sensible])]
  constructor
  · rintro ⟨front, _, rfl, first, x, back, rfl, body, last⟩
    obtain rfl := (literal_matches opening.toList).mp first
    obtain rfl := (literal_matches closing.toList).mp last
    exact ⟨x, (List.append_assoc _ _ _).symm, by simpa using body⟩
  · rintro ⟨x, rfl, body⟩
    exact ⟨opening.toList, x ++ closing.toList, List.append_assoc _ _ _,
      (literal_matches _).mpr rfl, x, closing.toList, rfl, by simpa using body,
      (literal_matches _).mpr rfl⟩

/-- A shape with a comma matches only what the one without it does. -/
theorem whole_argument_of_arguments (opening closing : String) (type : List Char)
    (matched : (whole opening arguments closing).isMatch type = true) :
    (whole opening argument closing).isMatch type = true := by
  rw [whole_isMatch_iff _ _ _ _ arguments_sensible] at matched
  rw [whole_isMatch_iff _ _ _ _ argument_sensible]
  obtain ⟨x, whole, body⟩ := matched
  exact ⟨x, whole, argument_of_arguments body⟩

theorem whole_argument_iff (opening closing : String) (type : List Char) :
    (whole opening argument closing).isMatch type = true ↔
      ∃ inside, inside ≠ [] ∧ '>' ∉ inside ∧
        type = opening.toList ++ inside ++ closing.toList := by
  rw [whole_isMatch_iff _ _ _ _ argument_sensible]
  simp only [argument_matches]
  constructor
  · rintro ⟨x, whole, nonempty, unclosed⟩
    exact ⟨x, nonempty, unclosed, whole⟩
  · rintro ⟨x, nonempty, unclosed, whole⟩
    exact ⟨x, whole, nonempty, unclosed⟩

/-- A pattern that is read as the parts of a shape matches what the shape does. -/
theorem isMatch_eq_whole (opening closing : String) (parts : List Regex)
    (sensible : ∀ r ∈ parts, r.Sensible) (type : List Char) :
    (seqAll (.assertion .textStart :: ((opening.toList.map (fun c => .char (.single c)) ++
        (parts ++ closing.toList.map fun c => .char (.single c))) ++
          [.assertion .textEnd]))).isMatch type =
      (whole opening (seqAll parts) closing).isMatch type := by
  rw [Bool.eq_iff_iff, written_isMatch_iff _ _ _ _ sensible,
    whole_isMatch_iff _ _ _ _ (seqAll_sensible parts sensible)]

/-- The patterns are read as expressions that match what the shapes do. -/
theorem patterns_match :
    List.Forall₂ (fun (pattern : String) shape => ∃ r,
      Regex.Pattern.parse pattern.toList = .ok r ∧ ∀ type, r.isMatch type = shape.isMatch type)
      patterns all := by
  have pair : ∀ r ∈ [argument, .char (.single ','), .repeated (.char CharSet.blank) 0 none,
      argument], r.Sensible := by
    simp [argument_sensible, Sensible]
  have one : ∀ r ∈ [argument], r.Sensible := by
    simp [argument_sensible]
  refine .cons ⟨_, ?_, isMatch_eq_whole "Result<" ">" _ pair⟩
    (.cons ⟨_, ?_, isMatch_eq_whole "Result<" ">" _ one⟩
      (.cons ⟨_, ?_, isMatch_eq_whole "Promise<Result<" ">>" _ pair⟩
        (.cons ⟨_, ?_, isMatch_eq_whole "Promise<Result<" ">>" _ one⟩ .nil)))
  all_goals decide +kernel

end Shape

/-- A type has the shape of a result just if it is one, or a promise of one, over a non-empty text
without a closing angle bracket. The shapes with a comma add nothing to those without, and all four
are what their patterns match. -/
theorem isResult_iff_shaped :
    (∀ type, isResult type = true ↔ ResultShaped type) ∧
    (∀ opening closing type,
      ((Shape.whole opening Shape.arguments closing).isMatch type ||
        (Shape.whole opening Shape.argument closing).isMatch type) =
      (Shape.whole opening Shape.argument closing).isMatch type) ∧
    List.Forall₂ (fun (pattern : String) shape => ∃ r,
      Regex.Pattern.parse pattern.toList = .ok r ∧ ∀ type, r.isMatch type = shape.isMatch type)
      Shape.patterns Shape.all := by
  have comma (opening closing : String) (type : List Char) :
      ((Shape.whole opening Shape.arguments closing).isMatch type ||
        (Shape.whole opening Shape.argument closing).isMatch type) =
      (Shape.whole opening Shape.argument closing).isMatch type := by
    rw [Bool.or_eq_right_iff_imp]
    exact Shape.whole_argument_of_arguments opening closing type
  refine ⟨?_, comma, Shape.patterns_match⟩
  intro type
  have shapes : isResult type = ((Shape.whole "Result<" Shape.argument ">").isMatch type ||
      (Shape.whole "Promise<Result<" Shape.argument ">>").isMatch type) := by
    rw [← comma "Result<", ← comma "Promise<Result<"]
    simp only [isResult, Shape.all, List.any_cons, List.any_nil, Bool.or_false, Bool.or_assoc]
  rw [shapes, Bool.or_eq_true, Shape.whole_argument_iff, Shape.whole_argument_iff]
  constructor
  · rintro (⟨inside, nonempty, unclosed, rfl⟩ | ⟨inside, nonempty, unclosed, rfl⟩)
    · exact .plain inside nonempty unclosed
    · exact .promised inside nonempty unclosed
  · rintro (⟨inside, nonempty, unclosed⟩ | ⟨inside, nonempty, unclosed⟩)
    · exact .inl ⟨inside, nonempty, unclosed, rfl⟩
    · exact .inr ⟨inside, nonempty, unclosed, rfl⟩

end ResultLint.ReturnType
