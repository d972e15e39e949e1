import ResultLint.Proofs.Path.Below

/-!
The directories above a path. Going up drops the last component, however the path is spelled, so the
ancestors of a path are, the nearest first, what its components begin with; an absolute path has
nothing above the root.
-/
namespace ResultLint.Path

theorem names_append_slash_append (front s : List Char) :
    names (front ++ '/' :: s) = names front ++ names s := by
  have closed := names_closed_append (front ++ ['/']) s (closed_append_slash front)
  rwa [List.append_assoc, List.singleton_append, names_append_slash] at closed

/-- What stands behind a slash has no part in how a path begins. -/
theorem components_append_slash_append (front s : List Char) :
    components ⟨front ++ '/' :: s⟩ = components ⟨front ++ ['/']⟩ ++ names s := by
  have apart (t : List Char) : names (t ++ '/' :: s) = names (t ++ ['/']) ++ names s := by
    rw [names_append_slash_append, names_append_slash]
  cases front with
  | nil => rfl
  | cons c cs =>
    by_cases slash : c = '/'
    · subst slash
      exact congrArg (Component.root :: ·) (apart cs)
    by_cases dot : c = '.'
    · subst dot
      cases cs with
      | nil => rfl
      | cons d ds =>
        by_cases slash : d = '/'
        · subst slash
          exact congrArg (Component.current :: ·) (apart ds)
        · have plain (t : List Char) : Plain ('.' :: d :: t) :=
            ⟨by simp, by simp, by simp [slash]⟩
          rw [List.cons_append, List.cons_append, List.cons_append, List.cons_append,
            components_of_plain _ (plain _), components_of_plain _ (plain _)]
          exact apart ('.' :: d :: ds)
    · have plain (t : List Char) : Plain (c :: t) := ⟨by simp [slash], by simp [dot], by simp [dot]⟩
      rw [List.cons_append, List.cons_append, components_of_plain _ (plain _),
        components_of_plain _ (plain _)]
      exact apart (c :: cs)

/-- The components of a path below a base are those of the base with a slash behind it, and then
its own names. -/
theorem exists_components_join (base : Path) (spelled : base.chars ≠ []) :
    ∃ front, ∀ p : Path, p.isAbsolute = false →
      (base.join p).components = front ++ Path.names p.chars := by
  obtain ⟨body, last, whole⟩ := (List.eq_nil_or_concat' base.chars).resolve_left spelled
  by_cases slash : last = '/'
  · refine ⟨components ⟨body ++ ['/']⟩, fun p relative => ?_⟩
    have joined : base.join p = ⟨body ++ '/' :: p.chars⟩ := by
      simp [join, relative, whole, slash]
    rw [joined, components_append_slash_append]
  · refine ⟨components ⟨base.chars ++ ['/']⟩, fun p relative => ?_⟩
    have joined : base.join p = ⟨base.chars ++ '/' :: p.chars⟩ := by
      simp [join, relative, whole, slash]
    rw [joined, components_append_slash_append]

/-- A path is the same without the idle pieces at its end. -/
theorem components_trimmedEnd (s : List Char) : components ⟨trimmedEnd s⟩ = components ⟨s⟩ := by
  unfold trimmedEnd
  split
  · next rest => exact congrArg (Component.root :: ·) (names_skipIdleEnd rest)
  · rfl
  · next rest =>
    have kept := names_skipIdleEnd ('/' :: rest)
    have whole : components ⟨'.' :: '/' :: rest⟩ = .current :: names ('/' :: rest) := by
      rw [names_cons_slash]
      rfl
    rw [whole, ← kept]
    cases left : skipIdleEnd ('/' :: rest) with
    | nil => rfl
    | cons c cs =>
      obtain ⟨behind, same⟩ := skipIdleEnd_prefix ('/' :: rest)
      rw [left] at same
      cases same
      rw [names_cons_slash]
      rfl
  · next noSlash noDot noDotSlash =>
    have plain : Plain s := ⟨noSlash, noDot, noDotSlash⟩
    rw [components_of_plain _ (plain_skipIdleEnd s plain), components_of_plain s plain,
      names_skipIdleEnd]

/-- The text behind the last slash. -/
def lastPiece (s : List Char) : List Char :=
  (s.reverse.takeWhile (· != '/')).reverse

/-- The text up to the last slash. -/
def uptoLastPiece (s : List Char) : List Char :=
  (s.reverse.dropWhile (· != '/')).reverse

theorem uptoLastPiece_append (s : List Char) : uptoLastPiece s ++ lastPiece s = s := by
  rw [uptoLastPiece, lastPiece, ← List.reverse_append, List.takeWhile_append_dropWhile,
    List.reverse_reverse]

theorem slash_not_mem_lastPiece (s : List Char) : '/' ∉ lastPiece s := by
  intro slash
  have other := List.all_eq_true.mp List.all_takeWhile _ (List.mem_reverse.mp slash)
  simp at other

/-- The text up to the last piece is closed by a slash. -/
theorem uptoLastPiece_cases (s : List Char) :
    uptoLastPiece s = [] ∨ ∃ front, uptoLastPiece s = front ++ ['/'] := by
  cases rest : s.reverse.dropWhile (· != '/') with
  | nil => exact .inl (by rw [uptoLastPiece, rest]; rfl)
  | cons c cs =>
    have slash : c = '/' := by
      have stopped := List.head?_dropWhile_not (· != '/') s.reverse
      rw [rest] at stopped
      simpa using stopped
    exact .inr ⟨cs.reverse, by rw [uptoLastPiece, rest, slash, List.reverse_cons]⟩

theorem names_of_piece (piece : List Char) (clean : '/' ∉ piece) :
    names piece = (Component.ofPiece? piece).toList := by
  have one := names_append_slash piece
  unfold names at one ⊢
  rw [← one, innerComponents_piece piece [] clean]
  cases Component.ofPiece? piece <;> simp [innerComponents, pieces, Component.ofPiece?]

/-- A last piece that is not idle is the last component. -/
theorem components_eq_append_last (s : List Char) (c : Component)
    (proper : Component.ofPiece? (lastPiece s) = some c) :
    components ⟨s⟩ = components ⟨uptoLastPiece s⟩ ++ [c] := by
  have clean := slash_not_mem_lastPiece s
  have last : names (lastPiece s) = [c] := by
    rw [names_of_piece _ clean, proper]
    rfl
  have whole := uptoLastPiece_append s
  rcases uptoLastPiece_cases s with empty | ⟨front, closed⟩
  · rw [empty] at whole ⊢
    rw [List.nil_append] at whole
    have plain : Plain (lastPiece s) := by
      refine ⟨?_, ?_, ?_⟩
      · intro rest same
        exact clean (same ▸ List.mem_cons_self)
      · intro same
        rw [same] at proper
        cases proper
      · intro rest same
        exact clean (same ▸ List.mem_cons_of_mem _ List.mem_cons_self)
    rw [← whole, components_of_plain _ plain, last]
    rfl
  · rw [closed, List.append_assoc, List.singleton_append] at whole
    rw [closed, ← last, ← components_append_slash_append, whole]

/-- Without idle pieces at its end a text is empty or ends in a piece that is not idle. -/
theorem skipIdleEnd_last (s : List Char) :
    skipIdleEnd s = [] ∨ ∃ c, Component.ofPiece? (lastPiece (skipIdleEnd s)) = some c := by
  have plain := plain_skipIdle s.reverse
  unfold skipIdleEnd lastPiece
  rw [List.reverse_reverse]
  cases left : skipIdle s.reverse with
  | nil => exact .inl rfl
  | cons c cs =>
    rw [left] at plain
    have slash : c ≠ '/' := fun same => plain.noSlash cs (by rw [same])
    right
    rw [List.takeWhile_cons_of_pos (by simpa using slash)]
    have marked : ¬ ((c :: cs.takeWhile (· != '/')).reverse = [] ∨
        (c :: cs.takeWhile (· != '/')).reverse = ['.']) := by
      rintro (empty | dot)
      · simp at empty
      · obtain ⟨rfl, none⟩ : c = '.' ∧ cs.takeWhile (· != '/') = [] := by
          simpa using congrArg List.reverse dot
        cases cs with
        | nil => exact plain.noDot rfl
        | cons d ds =>
          by_cases slash : d = '/'
          · exact plain.noDotSlash ds (by rw [slash])
          · simp [slash] at none
    unfold Component.ofPiece?
    rw [if_neg marked]
    split
    · exact ⟨_, rfl⟩
    · exact ⟨_, rfl⟩

theorem lastPiece_cons (c : Char) (s : List Char) (slash : c = '/' ∨ '/' ∈ s) :
    lastPiece (c :: s) = lastPiece s := by
  unfold lastPiece
  rw [List.reverse_cons, List.takeWhile_append]
  split
  · next long =>
    have all := (List.takeWhile_sublist (· != '/')).eq_of_length long
    have none : '/' ∉ s := by
      intro member
      rw [← List.mem_reverse, ← all] at member
      simpa using List.all_eq_true.mp List.all_takeWhile _ member
    have here : c = '/' := slash.resolve_right none
    subst here
    rw [all]
    simp
  · rfl

/-- A path without the idle pieces at its end is empty, its beginning alone, or it ends in a
component. -/
theorem trimmedEnd_last (s : List Char) :
    trimmedEnd s = [] ∨ trimmedEnd s = ['/'] ∨ trimmedEnd s = ['.'] ∨
      ∃ c, Component.ofPiece? (lastPiece (trimmedEnd s)) = some c := by
  unfold trimmedEnd
  split
  · next rest =>
    rcases skipIdleEnd_last rest with empty | proper
    · rw [empty]
      exact .inr (.inl rfl)
    · rw [lastPiece_cons '/' _ (.inl rfl)]
      exact .inr (.inr (.inr proper))
  · exact .inr (.inr (.inl rfl))
  · next rest =>
    rcases skipIdleEnd_last ('/' :: rest) with empty | proper
    · rw [empty]
      exact .inr (.inr (.inl rfl))
    · have slash : '/' ∈ skipIdleEnd ('/' :: rest) := by
        obtain ⟨behind, whole⟩ := skipIdleEnd_prefix ('/' :: rest)
        cases left : skipIdleEnd ('/' :: rest) with
        | nil =>
          obtain ⟨c, none⟩ := proper
          rw [left] at none
          cases none
        | cons d ds =>
          rw [left] at whole
          rw [← (List.cons.inj whole).1]
          exact List.mem_cons_self
      rw [lastPiece_cons '.' _ (.inr slash)]
      exact .inr (.inr (.inr proper))
  · rcases skipIdleEnd_last s with empty | proper
    · exact .inl empty
    · exact .inr (.inr (.inr proper))

theorem root_of_getLast (p : Path) (last : p.components.getLast? = some .root) :
    p.components = [.root] := by
  cases absolute : p.isAbsolute with
  | false =>
    have inner := mem_names_of_mem_components p absolute .root (List.mem_of_getLast? last) (by simp)
    exact absurd inner (root_not_inner p.chars)
  | true =>
    obtain ⟨rest, -, whole⟩ := components_of_isAbsolute p absolute
    rw [whole] at last ⊢
    rcases List.eq_nil_or_concat (names rest) with empty | ⟨front, c, closed⟩
    · rw [empty]
    · rw [closed, List.concat_eq_append, ← List.cons_append, List.getLast?_concat] at last
      cases last
      refine absurd ?_ (root_not_inner rest)
      rw [closed]
      simp

/-- There is nothing above the root or an empty path. -/
theorem parent_eq_none_iff (p : Path) :
    p.parent? = none ↔ p.components = [] ∨ p.components = [.root] := by
  unfold parent?
  split
  · next none => simp [List.getLast?_eq_none_iff.mp none]
  · next root => simp [root_of_getLast p root]
  · next c other last =>
    constructor
    · intro impossible
      cases impossible
    · rintro (empty | root)
      · simp [empty] at last
      · simp only [root, List.getLast?_singleton, Option.some.injEq] at last
        exact absurd last.symm other

theorem proper_of_parent (p above : Path) (up : p.parent? = some above) :
    p.components ≠ [] ∧ p.components ≠ [.root] := by
  rw [← not_or, ← parent_eq_none_iff, up]
  simp

/-- Going up drops the last component. -/
theorem components_parent (p above : Path) (up : p.parent? = some above) :
    above.components = p.components.dropLast := by
  have there := proper_of_parent p above up
  have spelled : above = ⟨trimmedEnd (uptoLastPiece (trimmedEnd p.chars))⟩ := by
    unfold parent? at up
    split at up
    · cases up
    · cases up
    · exact (Option.some.inj up).symm
  have same := components_trimmedEnd p.chars
  rw [spelled, components_trimmedEnd]
  rcases trimmedEnd_last p.chars with empty | root | dot | ⟨c, proper⟩
  · rw [empty] at same
    exact absurd same.symm there.1
  · rw [root] at same
    exact absurd same.symm there.2
  · rw [dot] at same ⊢
    change _ = p.components at same
    rw [← same]
    rfl
  · have whole := components_eq_append_last _ c proper
    rw [same] at whole
    change p.components = _ at whole
    rw [whole, List.dropLast_concat]

theorem isAbsolute_iff_root (p : Path) :
    p.isAbsolute = true ↔ Component.root ∈ p.components := by
  constructor
  · intro absolute
    obtain ⟨rest, -, whole⟩ := components_of_isAbsolute p absolute
    rw [whole]
    exact List.mem_cons_self
  · intro root
    by_contra relative
    exact root_not_inner p.chars
      (mem_names_of_mem_components p (by simpa using relative) _ root (by simp))

theorem isAbsolute_parent (p above : Path) (up : p.parent? = some above) :
    above.isAbsolute = p.isAbsolute := by
  have there := proper_of_parent p above up
  rw [Bool.eq_iff_iff, isAbsolute_iff_root, components_parent p above up]
  constructor
  · exact fun inner => (isAbsolute_iff_root p).mpr (List.mem_of_mem_dropLast inner)
  · intro absolute
    obtain ⟨rest, -, whole⟩ := components_of_isAbsolute p absolute
    rw [whole] at there ⊢
    rw [List.dropLast_cons_of_ne_nil (by simpa using there.2)]
    exact List.mem_cons_self

theorem mem_ancestorsWithin_iff (count : Nat) (p : Path) (enough : p.components.length ≤ count)
    (front : List Component) :
    (∃ a ∈ ancestorsWithin count p, a.components = front) ↔
      front <+: p.components ∧ (p.isAbsolute = true → front ≠ []) := by
  induction count generalizing p with
  | zero =>
    have empty : p.components = [] := List.eq_nil_of_length_eq_zero (Nat.le_zero.mp enough)
    have relative : p.isAbsolute = false := by
      rw [Bool.eq_false_iff, Ne, isAbsolute_iff_root, empty]
      exact List.not_mem_nil
    simp [ancestorsWithin, empty, relative, eq_comm]
  | succ count ih =>
    unfold ancestorsWithin
    cases up : p.parent? with
    | none =>
      simp only [List.mem_singleton, exists_eq_left]
      rcases (parent_eq_none_iff p).mp up with empty | root
      · have relative : p.isAbsolute = false := by
          rw [Bool.eq_false_iff, Ne, isAbsolute_iff_root, empty]
          exact List.not_mem_nil
        simp [empty, relative, eq_comm]
      · have absolute : p.isAbsolute = true := by simp [isAbsolute_iff_root, root]
        cases front <;> simp [root, absolute, eq_comm]
    | some above =>
      have there := (proper_of_parent p above up).1
      have shorter := components_parent p above up
      have fits : above.components.length ≤ count := by
        rw [shorter, List.length_dropLast]
        omega
      have parts : front <+: p.components ↔ front = p.components ∨ front <+: above.components := by
        rw [shorter]
        conv_lhs => rw [← List.dropLast_append_getLast there]
        rw [List.prefix_concat_iff, List.dropLast_append_getLast]
      simp only [List.exists_mem_cons_iff, ih above fits, isAbsolute_parent p above up, parts,
        or_and_right]
      refine or_congr_left ⟨?_, fun whole => whole.1.symm⟩
      rintro rfl
      exact ⟨rfl, fun _ => there⟩

/-- The ancestors of a path have for their components what those of the path begin with. -/
theorem mem_ancestors_iff (p : Path) (front : List Component) :
    (∃ a ∈ p.ancestors, a.components = front) ↔
      front <+: p.components ∧ (p.isAbsolute = true → front ≠ []) :=
  mem_ancestorsWithin_iff _ p le_rfl front

theorem components_prefix_of_mem (p a : Path) (member : a ∈ p.ancestors) :
    a.components <+: p.components :=
  ((mem_ancestors_iff p _).mp ⟨a, member, rfl⟩).1

theorem ancestorsWithin_descend (count : Nat) (p : Path) (enough : p.components.length ≤ count) :
    (ancestorsWithin count p).Pairwise fun near far =>
      far.components.length < near.components.length := by
  induction count generalizing p with
  | zero => simp [ancestorsWithin]
  | succ count ih =>
    unfold ancestorsWithin
    cases up : p.parent? with
    | none => simp
    | some above =>
      have there := (proper_of_parent p above up).1
      have shorter : above.components.length < p.components.length := by
        rw [components_parent p above up, List.length_dropLast]
        have some := List.length_pos_of_ne_nil there
        omega
      have fits : above.components.length ≤ count := by omega
      refine List.pairwise_cons.mpr ⟨fun a member => ?_, ih above fits⟩
      have inner := ((mem_ancestorsWithin_iff count above fits _).mp ⟨a, member, rfl⟩).1
      exact Nat.lt_of_le_of_lt inner.length_le shorter

/-- Each ancestor lies above the ones before it. -/
theorem ancestors_descend (p : Path) :
    p.ancestors.Pairwise fun near far => far.components.length < near.components.length :=
  ancestorsWithin_descend _ p le_rfl

/-- The first ancestor of a kind is the deepest one: every other one of that kind lies above it. -/
theorem find_ancestors_eq_some_iff (p a : Path) (kind : Path → Bool) :
    p.ancestors.find? kind = some a ↔ a ∈ p.ancestors ∧ kind a = true ∧
      ∀ other ∈ p.ancestors, kind other = true → other.components <+: a.components := by
  have descend := p.ancestors_descend
  have fronts := p.components_prefix_of_mem
  rw [List.find?_eq_some_iff_append]
  constructor
  · rintro ⟨holds, nearer, further, whole, none⟩
    have member : a ∈ p.ancestors := by
      rw [whole]
      exact List.mem_append_right _ List.mem_cons_self
    refine ⟨member, holds, fun other among same => ?_⟩
    refine List.prefix_of_prefix_length_le (fronts other among) (fronts a member) ?_
    rw [whole, List.pairwise_append, List.pairwise_cons] at descend
    rw [whole, List.mem_append, List.mem_cons] at among
    rcases among with before | rfl | behind
    · exact absurd same (by simpa using none other before)
    · exact le_rfl
    · exact (descend.2.1.1 other behind).le
  · rintro ⟨member, holds, deepest⟩
    obtain ⟨nearer, further, whole⟩ := List.append_of_mem member
    refine ⟨holds, nearer, further, whole, fun other before => ?_⟩
    rw [Bool.not_eq_true']
    by_contra same
    rw [whole, List.pairwise_append] at descend
    have among : other ∈ p.ancestors := by
      rw [whole]
      exact List.mem_append_left _ before
    have above := (deepest other among (by simpa using same)).length_le
    have below := descend.2.2 other before a List.mem_cons_self
    omega

end ResultLint.Path
