import Mathlib.Data.List.Infix
import ResultLint.Path

/-!
Paths below a base directory. A base ends in pieces that are each closed by a slash, so joining a
relative path puts the path's own pieces behind them, and stripping the base gives them back
without a trace of where the base was.
-/
namespace ResultLint.Path

/-- Text in which every piece is closed by a slash. -/
inductive Closed : List Char → Prop
  | nil : Closed []
  | piece (name rest : List Char) (clean : '/' ∉ name) (inner : Closed rest) :
      Closed (name ++ '/' :: rest)

theorem closed_append_slash (s : List Char) : Closed (s ++ ['/']) := by
  induction s with
  | nil => exact .piece [] [] (by simp) .nil
  | cons c cs ih =>
    by_cases slash : c = '/'
    · subst c
      exact .piece [] (cs ++ ['/']) (by simp) ih
    · generalize whole : cs ++ ['/'] = s at ih
      cases ih with
      | nil => simp at whole
      | piece name rest clean inner =>
        rw [List.cons_append, whole]
        refine .piece (c :: name) rest ?_ inner
        simp only [List.mem_cons, not_or]
        exact ⟨fun same => slash same.symm, clean⟩

theorem pieces_piece (name rest : List Char) (clean : '/' ∉ name) :
    pieces (name ++ '/' :: rest) = (name, rest) :: pieces rest := by
  induction name with
  | nil => simp [pieces]
  | cons c cs ih =>
    simp only [List.mem_cons, not_or] at clean
    rw [List.cons_append, pieces, if_neg (fun same => clean.1 same.symm), ih clean.2]

theorem pieces_ne_nil (s : List Char) : pieces s ≠ [] := by
  cases s with
  | nil => simp [pieces]
  | cons c cs =>
    rw [pieces]
    split
    · simp
    · split <;> simp

theorem map_fst_pieces_append_slash (s : List Char) :
    (pieces (s ++ ['/'])).map Prod.fst = (pieces s).map Prod.fst ++ [[]] := by
  induction s with
  | nil => simp [pieces]
  | cons c cs ih =>
    rw [List.cons_append, pieces, pieces]
    split
    · simp [ih]
    · cases left : pieces (cs ++ ['/']) with
      | nil => exact absurd left (pieces_ne_nil _)
      | cons first more =>
        cases right : pieces cs with
        | nil => exact absurd right (pieces_ne_nil _)
        | cons first' more' =>
          simp only [left, right, List.map_cons, List.cons_append, List.cons.injEq] at ih
          simp [ih.1, ih.2]

/-- The components of text behind a path's beginning. -/
def names (s : List Char) : List Component :=
  (innerComponents s).map Prod.fst

theorem names_eq_filterMap (s : List Char) :
    names s = ((pieces s).map Prod.fst).filterMap Component.ofPiece? := by
  unfold names innerComponents
  rw [List.map_filterMap, List.filterMap_map]
  congr 1
  funext piece
  simp [Function.comp_def]

theorem names_append_slash (s : List Char) : names (s ++ ['/']) = names s := by
  rw [names_eq_filterMap, names_eq_filterMap, map_fst_pieces_append_slash, List.filterMap_append]
  simp [Component.ofPiece?]

theorem innerComponents_piece (name rest : List Char) (clean : '/' ∉ name) :
    innerComponents (name ++ '/' :: rest) =
      ((Component.ofPiece? name).map (·, rest)).toList ++ innerComponents rest := by
  unfold innerComponents
  rw [pieces_piece name rest clean, List.filterMap_cons]
  dsimp only
  cases Component.ofPiece? name <;> simp

theorem names_closed_append (front s : List Char) (closed : Closed front) :
    names (front ++ s) = names front ++ names s := by
  induction closed with
  | nil => simp [names, innerComponents, pieces, Component.ofPiece?]
  | piece name rest clean inner ih =>
    unfold names at ih ⊢
    rw [List.append_assoc, List.cons_append, innerComponents_piece _ _ clean,
      innerComponents_piece _ _ clean, List.map_append, List.map_append, ih, List.append_assoc]
    cases Component.ofPiece? name <;> rfl

/-- Idle pieces in front of a path leave nothing behind. -/
theorem skipIdle_piece (name s : List Char) (idle : Component.ofPiece? name = none) :
    skipIdle (name ++ '/' :: s) = skipIdle s := by
  unfold Component.ofPiece? at idle
  split at idle
  · next blank =>
    rcases blank with rfl | rfl
    · simp [skipIdle]
    · simp [skipIdle]
  · split at idle <;> cases idle

/-- Taking the components of a closed text off the front of it leaves, up to idle pieces, what was
put behind it. -/
theorem remainder_closed (front s rest : List Char) (closed : Closed front)
    (same : skipIdle rest = skipIdle (front ++ s)) :
    ∃ left, remainder? (innerComponents (front ++ s)) (names front) (some rest) = some (some left) ∧
      skipIdle left = skipIdle s := by
  induction closed generalizing rest with
  | nil =>
    refine ⟨rest, ?_, same⟩
    simp [names, innerComponents, pieces, Component.ofPiece?, remainder?]
  | piece name inside clean inner ih =>
    unfold names at ih ⊢
    rw [List.append_assoc, List.cons_append, innerComponents_piece _ _ clean,
      innerComponents_piece _ _ clean]
    cases component : Component.ofPiece? name with
    | none =>
      apply ih
      rw [same, List.append_assoc, List.cons_append, skipIdle_piece _ _ component]
    | some c =>
      obtain ⟨left, taken, skipped⟩ := ih (inside ++ s) rfl
      refine ⟨left, ?_, skipped⟩
      simpa [remainder?] using taken

/-- Joining a relative path to an absolute base closes the base with a slash. -/
theorem join_chars (base p : Path) (absolute : base.isAbsolute = true)
    (relative : p.isAbsolute = false) :
    ∃ front, Closed front ∧ (base.join p).chars = '/' :: (front ++ p.chars) ∧
      base.components = .root :: names front := by
  obtain ⟨chars⟩ := base
  cases chars with
  | nil => simp [isAbsolute] at absolute
  | cons c cs =>
    have slash : c = '/' := by simpa [isAbsolute] using absolute
    subst c
    have components : components ⟨'/' :: cs⟩ = .root :: names cs := by
      simp [Path.components, scan, names]
    rw [components]
    unfold join
    rw [if_neg (by simp [relative])]
    cases reversed : cs.reverse with
    | nil =>
      have empty : cs = [] := by simpa using reversed
      subst cs
      exact ⟨[], .nil, rfl, rfl⟩
    | cons last body =>
      have whole : cs = body.reverse ++ [last] := by
        rw [← List.reverse_reverse cs, reversed, List.reverse_cons]
      subst whole
      have final : ('/' :: (body.reverse ++ [last])).getLast? = some last := by
        rw [← List.cons_append, List.getLast?_append]
        rfl
      dsimp only
      rw [final]
      dsimp only
      split
      · next slash =>
        subst slash
        exact ⟨_, closed_append_slash body.reverse, by simp, rfl⟩
      · refine ⟨_, closed_append_slash (body.reverse ++ [last]), by simp, ?_⟩
        rw [names_append_slash]

/-- A relative path below a base is seen from there as it is seen from any other base. -/
theorem stripBase_join (base p : Path) (absolute : base.isAbsolute = true)
    (relative : p.isAbsolute = false) :
    (base.join p).stripBase? base = some ⟨skipIdleEnd (skipIdle p.chars)⟩ := by
  obtain ⟨front, closed, chars, components⟩ := join_chars base p absolute relative
  obtain ⟨left, taken, skipped⟩ := remainder_closed front p.chars (front ++ p.chars) closed rfl
  unfold stripBase?
  rw [chars, components]
  have scanned : scan ('/' :: (front ++ p.chars)) =
      (.root, front ++ p.chars) :: innerComponents (front ++ p.chars) := rfl
  rw [scanned, remainder?, if_pos rfl, taken]
  simp [skipped]

theorem components_join (base p : Path) (absolute : base.isAbsolute = true)
    (relative : p.isAbsolute = false) :
    (base.join p).components = base.components ++ names p.chars := by
  obtain ⟨front, closed, chars, components⟩ := join_chars base p absolute relative
  rw [components]
  have scanned : (base.join p).components = .root :: names (front ++ p.chars) := by
    unfold Path.components
    rw [chars]
    rfl
  rw [scanned, names_closed_append _ _ closed, List.cons_append]

/-- In a relative path all components but a leading `.` stand behind its beginning. -/
theorem mem_names_of_mem_components (p : Path) (relative : p.isAbsolute = false) (c : Component)
    (member : c ∈ p.components) (proper : c ≠ .current) : c ∈ names p.chars := by
  obtain ⟨s⟩ := p
  unfold Path.components scan at member
  dsimp only at member ⊢
  split at member
  · simp [isAbsolute] at relative
  · simp [proper] at member
  · next rest =>
    have inside : c ∈ names rest := by simpa [names, proper] using member
    have dot := innerComponents_piece ['.'] rest (by simp)
    unfold names at inside ⊢
    change c ∈ (innerComponents (['.'] ++ '/' :: rest)).map Prod.fst
    rw [dot, List.map_append]
    exact List.mem_append_right _ inside
  · exact member

/-- What begins a text at a slash and has none in it is empty. -/
theorem prefix_slash (mark s : List Char) (clean : '/' ∉ mark) (leads : mark <+: '/' :: s) :
    mark = [] := by
  cases mark with
  | nil => rfl
  | cons c cs =>
    have slash : c = '/' := (List.cons_prefix_cons.mp leads).1
    simp [slash] at clean

/-- A text without a slash in it does not reach over one. -/
theorem infix_append_slash (mark front s : List Char) (clean : '/' ∉ mark) :
    mark <:+: front ++ '/' :: s ↔ mark <:+: front ∨ mark <:+: s := by
  rw [List.infix_append_iff, List.infix_cons_iff]
  constructor
  · rintro (inFront | (leads | inside) | ⟨left, right, rfl, ends, leads⟩)
    · exact .inl inFront
    · rw [prefix_slash mark s clean leads]
      exact .inl (List.nil_infix)
    · exact .inr inside
    · have empty : right = [] := prefix_slash right s (by simp_all) leads
      rw [empty, List.append_nil]
      exact .inl ends.isInfix
  · rintro (inFront | inside)
    · exact .inl inFront
    · exact .inr (.inl (.inr inside))

/-- A mark without a slash stands in a joined path exactly if it stands in one of its parts. -/
theorem infix_join (mark : List Char) (base p : Path) (absolute : base.isAbsolute = true)
    (relative : p.isAbsolute = false) (clean : '/' ∉ mark) :
    mark <:+: (base.join p).chars ↔ mark <:+: base.chars ∨ mark <:+: p.chars := by
  unfold join
  rw [if_neg (by simp [relative])]
  cases last : base.chars.getLast? with
  | none =>
    rw [List.getLast?_eq_none_iff] at last
    simp [isAbsolute, last] at absolute
  | some c =>
    obtain ⟨front, whole⟩ := List.getLast?_eq_some_iff.mp last
    dsimp only
    split
    · next slash =>
      subst slash
      have split : front ++ ['/'] ++ p.chars = front ++ '/' :: p.chars := by simp
      rw [whole, split, infix_append_slash mark front p.chars clean,
        infix_append_slash mark front [] clean, List.infix_nil]
      constructor
      · rintro (h | h)
        · exact .inl (.inl h)
        · exact .inr h
      · rintro ((h | rfl) | h)
        · exact .inl h
        · exact .inl List.nil_infix
        · exact .inr h
    · exact infix_append_slash mark base.chars p.chars clean

end ResultLint.Path
