import ResultLint.Proofs.Path.Join

/-!
What a path is below a base directory, said by components: those of the path are those of the
base, then those of what is left. The idle pieces that are dropped at both ends of the remainder
stand for no component.
-/
namespace ResultLint.Path

theorem names_cons_slash (s : List Char) : names ('/' :: s) = names s := by
  unfold names
  exact congrArg (List.map Prod.fst) (innerComponents_piece [] s (by simp))

theorem names_dot_slash (s : List Char) : names ('.' :: '/' :: s) = names s := by
  unfold names
  exact congrArg (List.map Prod.fst) (innerComponents_piece ['.'] s (by simp))

theorem names_skipIdle (s : List Char) : names (skipIdle s) = names s := by
  fun_induction skipIdle s with
  | case1 => rfl
  | case2 cs ih => rw [ih, names_cons_slash]
  | case3 => rfl
  | case4 rest _ ih => rw [ih, names_dot_slash]
  | case5 => rfl

/-- The same for pieces dropped from the end, the text being reversed. -/
theorem names_reverse_skipIdle (s : List Char) :
    names (skipIdle s).reverse = names s.reverse := by
  fun_induction skipIdle s with
  | case1 => rfl
  | case2 cs ih => rw [ih, List.reverse_cons, names_append_slash]
  | case3 => rfl
  | case4 rest _ ih =>
    rw [ih, List.reverse_cons, List.reverse_cons,
      names_closed_append _ _ (closed_append_slash rest.reverse), names_append_slash]
    simp [names, innerComponents, pieces, Component.ofPiece?]
  | case5 => rfl

theorem names_skipIdleEnd (s : List Char) : names (skipIdleEnd s) = names s := by
  unfold skipIdleEnd
  rw [names_reverse_skipIdle, List.reverse_reverse]

/-- A text whose beginning is a piece like any other: neither a slash nor a piece `.`. -/
structure Plain (s : List Char) : Prop where
  noSlash : ∀ rest, s ≠ '/' :: rest
  noDot : s ≠ ['.']
  noDotSlash : ∀ rest, s ≠ '.' :: '/' :: rest

theorem plain_skipIdle (s : List Char) : Plain (skipIdle s) := by
  fun_induction skipIdle s with
  | case1 => exact ⟨by simp, by simp, by simp⟩
  | case2 cs ih => exact ih
  | case3 => exact ⟨by simp, by simp, by simp⟩
  | case4 rest _ ih => exact ih
  | case5 c cs dot dotSlash slash =>
    refine ⟨?_, ?_, ?_⟩
    · intro rest same
      exact slash (List.cons.inj same).1
    · intro same
      exact dot (List.cons.inj same).1 (List.cons.inj same).2
    · intro rest same
      exact dotSlash rest (List.cons.inj same).1 (List.cons.inj same).2

theorem skipIdle_suffix (s : List Char) : skipIdle s <:+ s := by
  fun_induction skipIdle s with
  | case1 => exact List.suffix_rfl
  | case2 cs ih => exact ih.trans (List.suffix_cons _ _)
  | case3 => exact List.nil_suffix
  | case4 rest _ ih => exact ih.trans ((List.suffix_cons _ _).trans (List.suffix_cons _ _))
  | case5 => exact List.suffix_rfl

theorem skipIdleEnd_prefix (s : List Char) : skipIdleEnd s <+: s := by
  rw [← List.reverse_suffix, skipIdleEnd, List.reverse_reverse]
  exact skipIdle_suffix s.reverse

theorem plain_skipIdleEnd (s : List Char) (plain : Plain s) : Plain (skipIdleEnd s) := by
  obtain ⟨behind, whole⟩ := skipIdleEnd_prefix s
  refine ⟨?_, ?_, ?_⟩
  · intro rest same
    rw [same] at whole
    exact plain.noSlash _ whole.symm
  · intro same
    have dot : skipIdle s.reverse = ['.'] := by
      rw [← List.reverse_reverse (skipIdle s.reverse)]
      exact congrArg List.reverse same
    exact (plain_skipIdle s.reverse).noDot dot
  · intro rest same
    rw [same] at whole
    exact plain.noDotSlash _ whole.symm

theorem components_of_plain (s : List Char) (plain : Plain s) : components ⟨s⟩ = names s := by
  unfold components scan
  dsimp only
  split
  · exact absurd rfl (plain.noSlash _)
  · exact absurd rfl plain.noDot
  · exact absurd rfl (plain.noDotSlash _)
  · rfl

/-- The pieces behind the first one are those of the text that follows its slash, if one does. -/
theorem pieces_tail (s piece rest : List Char) (more : List (List Char × List Char))
    (cut : pieces s = (piece, rest) :: more) :
    (more = pieces rest ∧ rest.length < s.length) ∨ (more = [] ∧ rest = []) := by
  induction s generalizing piece with
  | nil =>
    simp only [pieces, List.cons.injEq, Prod.mk.injEq] at cut
    exact .inr ⟨cut.2.symm, cut.1.2.symm⟩
  | cons c cs ih =>
    rw [pieces] at cut
    split at cut
    · simp only [List.cons.injEq, Prod.mk.injEq] at cut
      rw [← cut.2, ← cut.1.2]
      exact .inl ⟨rfl, by simp⟩
    · split at cut
      · simp only [List.cons.injEq, Prod.mk.injEq] at cut
        exact .inr ⟨cut.2.symm, cut.1.2.symm⟩
      · next piece' rest' more' deeper =>
        simp only [List.cons.injEq, Prod.mk.injEq] at cut
        obtain ⟨⟨-, rfl⟩, rfl⟩ := cut
        rcases ih piece' deeper with ⟨same, shorter⟩ | final
        · exact .inl ⟨same, Nat.lt_succ_of_lt shorter⟩
        · exact .inr final

/-- The components behind the first one are those of the text that follows it. -/
theorem innerComponents_tail (s rest : List Char) (c : Component)
    (more : List (Component × List Char)) (cut : innerComponents s = (c, rest) :: more) :
    innerComponents rest = more := by
  induction size : s.length using Nat.strongRecOn generalizing s with
  | ind n ih =>
    cases first : pieces s with
    | nil => exact absurd first (pieces_ne_nil s)
    | cons here others =>
      obtain ⟨piece, behind⟩ := here
      have inner : innerComponents s =
          ((Component.ofPiece? piece).map (·, behind)).toList ++ innerComponents behind := by
        unfold innerComponents
        rw [first, List.filterMap_cons]
        dsimp only
        rcases pieces_tail s piece behind others first with ⟨same, -⟩ | ⟨rfl, rfl⟩
        · rw [same]
          cases Component.ofPiece? piece <;> rfl
        · cases Component.ofPiece? piece <;> rfl
      rw [inner] at cut
      cases component : Component.ofPiece? piece with
      | some d =>
        simp only [component, Option.map_some, Option.toList_some, List.cons_append,
          List.nil_append, List.cons.injEq, Prod.mk.injEq] at cut
        rw [← cut.1.2, cut.2]
      | none =>
        rw [component] at cut
        rcases pieces_tail s piece behind others first with ⟨-, shorter⟩ | ⟨-, rfl⟩
        · exact ih behind.length (size ▸ shorter) behind cut rfl
        · simp [innerComponents, pieces, Component.ofPiece?] at cut

/-- Taking components off a text leaves a text with the other ones. -/
theorem names_of_remainder (base : List Component) (s start : List Char)
    (left : Option (List Char)) (begins : names start = names s)
    (taken : remainder? (innerComponents s) base (some start) = some left) :
    ∃ rest, left = some rest ∧ names s = base ++ names rest := by
  induction base generalizing s start with
  | nil =>
    simp only [remainder?, Option.some.injEq] at taken
    exact ⟨start, taken.symm, begins.symm⟩
  | cons b bs ih =>
    cases cut : innerComponents s with
    | nil => simp [cut, remainder?] at taken
    | cons here more =>
      obtain ⟨c, behind⟩ := here
      have tail := innerComponents_tail s behind c more cut
      rw [cut, remainder?] at taken
      split at taken
      · next same =>
        rw [← tail] at taken
        obtain ⟨rest, final, whole⟩ := ih behind behind rfl taken
        refine ⟨rest, final, ?_⟩
        have first : names s = c :: names behind := by
          unfold names
          rw [cut, tail]
          rfl
        rw [first, whole, same]
        rfl
      · cases taken

theorem components_of_isAbsolute (p : Path) (absolute : p.isAbsolute = true) :
    ∃ rest, p.chars = '/' :: rest ∧ p.components = .root :: names rest := by
  obtain ⟨chars⟩ := p
  cases chars with
  | nil => simp [isAbsolute] at absolute
  | cons c cs =>
    have slash : c = '/' := by simpa [isAbsolute] using absolute
    subst slash
    exact ⟨cs, rfl, rfl⟩

theorem root_not_inner (s : List Char) : Component.root ∉ names s := by
  rw [names_eq_filterMap, List.mem_filterMap]
  rintro ⟨piece, -, root⟩
  unfold Component.ofPiece? at root
  split at root
  · cases root
  · split at root <;> cases root

/-- A path below an absolute base has the base's components, then those of what is left. -/
theorem components_stripBase (p base q : Path) (absolute : base.isAbsolute = true)
    (stripped : p.stripBase? base = some q) : p.components = base.components ++ q.components := by
  obtain ⟨front, -, whole⟩ := components_of_isAbsolute base absolute
  unfold stripBase? at stripped
  obtain ⟨left, taken, result⟩ := Option.map_eq_some_iff.mp stripped
  -- the first component of the base is the root, so the path begins at the root, too
  have rooted : p.isAbsolute = true := by
    rw [whole] at taken
    by_contra relative
    have none : ∀ c ∈ p.components, c ≠ .root := by
      rintro c member rfl
      exact root_not_inner p.chars
        (mem_names_of_mem_components p (by simpa using relative) _ member (by simp))
    unfold components at none
    cases first : scan p.chars with
    | nil => simp [first, remainder?] at taken
    | cons here more =>
      rw [first, remainder?, if_neg (none here.1 (by simp [first]))] at taken
      cases taken
  obtain ⟨behind, chars, components⟩ := components_of_isAbsolute p rooted
  rw [chars, whole] at taken
  obtain ⟨rest, rfl, names⟩ := names_of_remainder (Path.names front) behind behind left rfl
    (by simpa [scan, remainder?] using taken)
  subst result
  rw [components_of_plain _ (plain_skipIdleEnd _ (plain_skipIdle rest)), names_skipIdleEnd,
    names_skipIdle, components, whole, names, List.cons_append]

theorem remainder_self (scanned : List (Component × List Char)) (start : List Char) :
    ∃ rest, remainder? scanned (scanned.map Prod.fst) (some start) = some (some rest) := by
  induction scanned generalizing start with
  | nil => exact ⟨start, rfl⟩
  | cons here more ih =>
    rw [List.map_cons, remainder?, if_pos rfl]
    exact ih here.2

/-- What is left of an absolute path below itself does not begin at the root. -/
theorem stripBase_self (p : Path) (absolute : p.isAbsolute = true) :
    ∃ q, p.stripBase? p = some q ∧ q.isAbsolute = false := by
  obtain ⟨front, chars, -⟩ := components_of_isAbsolute p absolute
  have scanned : scan p.chars = (.root, front) :: innerComponents front := by
    rw [chars]
    rfl
  obtain ⟨rest, taken⟩ := remainder_self (innerComponents front) front
  refine ⟨⟨skipIdleEnd (skipIdle rest)⟩, ?_, ?_⟩
  · unfold stripBase? components
    rw [scanned, List.map_cons, remainder?, if_pos rfl, taken]
    rfl
  · have plain := plain_skipIdleEnd _ (plain_skipIdle rest)
    cases left : skipIdleEnd (skipIdle rest) with
    | nil => rfl
    | cons c cs =>
      have other : c ≠ '/' := fun slash => plain.noSlash cs (by rw [left, slash])
      simp [isAbsolute, other]

end ResultLint.Path
