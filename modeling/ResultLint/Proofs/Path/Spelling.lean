import ResultLint.Proofs.Path.Below

/-!
Spellings of one path. The pieces of an absolute path that are not idle are what its components
say, so two spellings of a path differ in idle pieces only; and these have no part in what is seen
from the path, nor in the marks of test files.
-/
namespace ResultLint

namespace Path

/-- The text that a relative path is put behind when it is joined to a base. -/
def closing (base : Path) : List Char :=
  match base.chars.getLast? with
  | none => []
  | some last => if last = '/' then base.chars else base.chars ++ ['/']

theorem join_of_relative (base p : Path) (relative : p.isAbsolute = false) :
    base.join p = ⟨closing base ++ p.chars⟩ := by
  unfold join closing
  rw [if_neg (by simp [relative])]
  cases base.chars.getLast? with
  | none => rfl
  | some last =>
    dsimp only
    split <;> simp

theorem join_of_absolute (base p : Path) (absolute : p.isAbsolute = true) : base.join p = p := by
  unfold join
  rw [if_pos absolute]

theorem closing_append (front s : List Char) :
    closing ⟨closing ⟨front⟩ ++ s⟩ = closing ⟨front⟩ ++ closing ⟨s⟩ := by
  rcases List.eq_nil_or_concat s with rfl | ⟨body, last, rfl⟩
  · rcases List.eq_nil_or_concat front with rfl | ⟨start, c, rfl⟩
    · rfl
    · by_cases slash : c = '/' <;> simp [closing, slash]
  · by_cases slash : last = '/' <;> simp [closing, slash, ← List.append_assoc]

theorem isAbsolute_join (base p : Path) :
    (base.join p).isAbsolute = (base.isAbsolute || p.isAbsolute) := by
  cases absolute : p.isAbsolute with
  | true => rw [join_of_absolute base p absolute, absolute, Bool.or_true]
  | false =>
    rw [join_of_relative base p absolute, Bool.or_false]
    obtain ⟨chars⟩ := base
    cases chars with
    | nil => simpa [closing, isAbsolute] using absolute
    | cons c cs =>
      unfold closing isAbsolute
      rw [List.getLast?_cons]
      dsimp only
      split <;> simp

theorem join_assoc (a b c : Path) : (a.join b).join c = a.join (b.join c) := by
  cases last : c.isAbsolute with
  | true =>
    rw [join_of_absolute _ c last, join_of_absolute b c last, join_of_absolute a c last]
  | false =>
    cases middle : b.isAbsolute with
    | true =>
      rw [join_of_absolute a b middle,
        join_of_absolute a (b.join c) (by simp [isAbsolute_join, middle])]
    | false =>
      rw [join_of_relative _ c last, join_of_relative a b middle,
        join_of_relative a (b.join c) (by simp [isAbsolute_join, middle, last]),
        join_of_relative b c last, closing_append, List.append_assoc]

/-- The piece that a component is written as behind the beginning of a path. -/
def Component.piece? : Component → Option (List Char)
  | .root | .current => none
  | .parent => some ['.', '.']
  | .name text => some text

/-- A piece that a path is followed along. -/
def isProper (piece : List Char) : Bool :=
  decide (piece ≠ [] ∧ piece ≠ ['.'])

theorem splitOn_eq_pieces (s : List Char) : Text.splitOn '/' s = (pieces s).map Prod.fst := by
  induction s with
  | nil => rfl
  | cons c cs ih =>
    rw [Text.splitOn, pieces]
    split
    · simp [ih]
    · rw [ih]
      cases pieces cs <;> rfl

theorem filter_isProper (s : List Char) :
    (Text.splitOn '/' s).filter isProper = (names s).filterMap Component.piece? := by
  rw [splitOn_eq_pieces, names_eq_filterMap, List.filterMap_filterMap, ← List.filterMap_eq_filter]
  congr 1
  funext piece
  unfold Component.ofPiece? isProper
  by_cases idle : piece = [] ∨ piece = ['.']
  · rcases idle with rfl | rfl <;> rfl
  · rw [if_neg idle]
    rw [not_or] at idle
    by_cases up : piece = ['.', '.']
    · subst up
      rfl
    · simp [up, idle, Component.piece?]

/-- The proper pieces of an absolute path are its components. -/
theorem filter_isProper_of_absolute (p : Path) (absolute : p.isAbsolute = true) :
    (Text.splitOn '/' p.chars).filter isProper = p.components.filterMap Component.piece? := by
  obtain ⟨rest, chars, components⟩ := components_of_isAbsolute p absolute
  rw [filter_isProper, chars, components, names_cons_slash]
  rfl

theorem splitOn_append (s t : List Char) :
    Text.splitOn '/' (s ++ '/' :: t) = Text.splitOn '/' s ++ Text.splitOn '/' t := by
  induction s with
  | nil => rfl
  | cons c cs ih =>
    rw [List.cons_append, Text.splitOn, Text.splitOn, ih]
    split
    · rfl
    · cases pieces : Text.splitOn '/' cs with
      | nil =>
        rw [splitOn_eq_pieces, List.map_eq_nil_iff] at pieces
        exact absurd pieces (pieces_ne_nil cs)
      | cons p ps => rfl

/-- A path behind an absolute base is followed along the base first. -/
theorem splitOn_join (base p : Path) (absolute : base.isAbsolute = true)
    (relative : p.isAbsolute = false) :
    ∃ way, Text.splitOn '/' (base.join p).chars = way ++ Text.splitOn '/' p.chars ∧
      way.filter isProper = (Text.splitOn '/' base.chars).filter isProper := by
  rw [join_of_relative base p relative]
  unfold closing
  cases final : base.chars.getLast? with
  | none =>
    rw [List.getLast?_eq_none_iff] at final
    simp [isAbsolute, final] at absolute
  | some last =>
    obtain ⟨front, whole⟩ := List.getLast?_eq_some_iff.mp final
    dsimp only
    split
    · next slash =>
      subst slash
      refine ⟨Text.splitOn '/' front, ?_, ?_⟩
      · rw [whole, List.append_assoc]
        exact splitOn_append front p.chars
      · rw [whole, splitOn_append front []]
        simp [Text.splitOn, isProper]
    · refine ⟨Text.splitOn '/' base.chars, ?_, rfl⟩
      rw [List.append_assoc]
      exact splitOn_append base.chars p.chars

section Respelled

variable {p q : Path} (atLeft : p.isAbsolute = true) (atRight : q.isAbsolute = true)
  (same : p.components = q.components)

include atLeft atRight same

theorem filter_isProper_congr :
    (Text.splitOn '/' p.chars).filter isProper = (Text.splitOn '/' q.chars).filter isProper := by
  rw [filter_isProper_of_absolute p atLeft, filter_isProper_of_absolute q atRight, same]

theorem components_join_congr (w : Path) : (p.join w).components = (q.join w).components := by
  cases absolute : w.isAbsolute with
  | true => rw [join_of_absolute p w absolute, join_of_absolute q w absolute]
  | false => rw [components_join p w atLeft absolute, components_join q w atRight absolute, same]

/-- What is seen of a path from its base does not depend on the spelling of the base. -/
theorem seen_join_congr (w : Path) :
    ((p.join w).stripBase? p).getD (p.join w) = ((q.join w).stripBase? q).getD (q.join w) := by
  cases absolute : w.isAbsolute with
  | true =>
    rw [join_of_absolute p w absolute, join_of_absolute q w absolute]
    unfold stripBase?
    rw [same]
  | false => rw [stripBase_join p w atLeft absolute, stripBase_join q w atRight absolute]; rfl

end Respelled

theorem splitOn_of_not_mem (s : List Char) (clean : '/' ∉ s) : Text.splitOn '/' s = [s] := by
  induction s with
  | nil => rfl
  | cons c cs ih =>
    simp only [List.mem_cons, not_or] at clean
    rw [Text.splitOn, if_neg (fun same => clean.1 same.symm), ih clean.2]

/-- A mark without a slash stands in a text just if it stands in a piece of it. -/
theorem infix_iff_piece (mark s : List Char) (clean : '/' ∉ mark) :
    mark <:+: s ↔ ∃ piece ∈ Text.splitOn '/' s, mark <:+: piece := by
  induction size : s.length using Nat.strongRecOn generalizing s with
  | ind n ih =>
    by_cases slash : '/' ∈ s
    · -- pieces can be taken on both sides of any slash, so it need not be the first one
      obtain ⟨front, behind, rfl⟩ := List.append_of_mem slash
      simp only [List.length_append, List.length_cons] at size
      rw [infix_append_slash mark front behind clean, splitOn_append,
        ih front.length (by omega) front rfl, ih behind.length (by omega) behind rfl]
      simp only [List.mem_append, or_and_right, exists_or]
    · simp [splitOn_of_not_mem s slash]

/-- A mark that is longer than the idle pieces stands in a proper piece. -/
theorem infix_iff_proper (mark s : List Char) (clean : '/' ∉ mark) (long : 1 < mark.length) :
    mark <:+: s ↔ ∃ piece ∈ (Text.splitOn '/' s).filter isProper, mark <:+: piece := by
  rw [infix_iff_piece mark s clean]
  constructor
  · rintro ⟨piece, member, inside⟩
    refine ⟨piece, List.mem_filter.mpr ⟨member, decide_eq_true ⟨?_, ?_⟩⟩, inside⟩
    · rintro rfl
      exact absurd inside.length_le (Nat.not_le.mpr (Nat.zero_lt_of_lt long))
    · rintro rfl
      exact absurd inside.length_le (Nat.not_le.mpr long)
  · rintro ⟨piece, member, inside⟩
    exact ⟨piece, (List.mem_filter.mp member).1, inside⟩

/-- A character that no idle piece has stands in a name. -/
theorem mem_names_iff (c : Char) (slash : c ≠ '/') (dot : c ≠ '.') (s : List Char) :
    c ∈ s ↔ ∃ name, Component.name name ∈ names s ∧ c ∈ name := by
  rw [← List.singleton_infix_iff, infix_iff_piece [c] s (by simpa using slash.symm),
    splitOn_eq_pieces]
  simp only [names_eq_filterMap, List.mem_filterMap, List.singleton_infix_iff]
  constructor
  · rintro ⟨piece, member, inside⟩
    refine ⟨piece, ⟨piece, member, ?_⟩, inside⟩
    rw [Component.ofPiece?, if_neg, if_neg]
    · rintro rfl
      simp [dot] at inside
    · rintro (rfl | rfl)
      · cases inside
      · simp [dot] at inside
  · rintro ⟨name, ⟨piece, member, kind⟩, inside⟩
    unfold Component.ofPiece? at kind
    obtain ⟨-, further⟩ := Option.ite_none_left_eq_some.mp kind
    split at further
    · cases further
    · cases further
      exact ⟨name, member, inside⟩

theorem mem_chars_iff (c : Char) (slash : c ≠ '/') (dot : c ≠ '.') (p : Path) :
    c ∈ p.chars ↔ ∃ name, Component.name name ∈ p.components ∧ c ∈ name := by
  have inner (s : List Char) (first : Component) (other : ∀ name, Component.name name ≠ first) :
      c ∈ s ↔ ∃ name, Component.name name ∈ first :: names s ∧ c ∈ name := by
    simp only [mem_names_iff c slash dot s, List.mem_cons, other, false_or]
  unfold components scan
  split
  · next rest whole =>
    rw [whole, List.mem_cons, or_iff_right slash]
    exact inner rest .root nofun
  · next whole =>
    rw [whole]
    simp [dot]
  · next rest whole =>
    rw [whole, List.mem_cons, List.mem_cons, or_iff_right dot, or_iff_right slash]
    exact inner rest .current nofun
  · exact mem_names_iff c slash dot p.chars

end Path

end ResultLint
