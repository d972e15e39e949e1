import ResultLint.Proofs.Source.Reading

/-!
Grammars that begin with a visible character. A token of such a form does not read white space, and
what may stand before it either begins with such a token itself or reads nothing.
-/
namespace ResultLint.Source

/-- The text begins with a character that is no white space. -/
def Visible (s : List Char) : Prop :=
  ∃ c cs, s = c :: cs ∧ isSpacing c = false

theorem isSpacing_of_isDigit (c : Char) (digit : c.isDigit = true) : isSpacing c = false := by
  have range : 48 ≤ c.toNat ∧ c.toNat ≤ 57 := by
    simpa [Char.isDigit, UInt32.le_iff_toNat_le] using digit
  obtain ⟨low, high⟩ := range
  simp only [isSpacing, Text.isBlank, Bool.or_eq_false_iff, Bool.and_eq_false_iff,
    decide_eq_false_iff_not, beq_eq_false_iff_ne]
  omega

namespace Terminal

theorem wordChars_visible (s : List Char) (taken : (wordChars false s).1 ≠ []) : Visible s := by
  unfold wordChars at taken
  split at taken
  · exact ⟨_, _, rfl, by decide⟩
  · exact ⟨_, _, rfl, by decide⟩
  · exact absurd rfl taken
  · next c cs _ _ =>
    simp only [Bool.false_eq_true, if_false] at taken
    split at taken
    · next isWord =>
      simp only [isWordChar, Bool.and_eq_true, Bool.not_eq_true'] at isWord
      exact ⟨c, cs, rfl, isWord.1.2⟩
    · exact absurd rfl taken

theorem anyWord_visible (s : List Char) (m : Match) (found : anyWord s = some m) : Visible s := by
  refine wordChars_visible s ?_
  intro empty
  unfold anyWord at found
  dsimp only at found
  rw [empty] at found
  cases found

theorem digits?_visible (s : List Char) (m : Match) (found : digits? Char.isDigit s = some m) :
    Visible s := by
  unfold digits? at found
  split at found
  · next c cs =>
    split at found
    · next digit => exact ⟨c, cs, rfl, isSpacing_of_isDigit c digit⟩
    · cases found
  · cases found

theorem numberLiteral_visible (s : List Char) (m : Match) (found : numberLiteral s = some m) :
    Visible s := by
  unfold numberLiteral at found
  split at found
  · exact ⟨_, _, rfl, by decide⟩
  · unfold decimal at found
    split at found
    · exact ⟨_, _, rfl, by decide⟩
    · obtain ⟨whole, read, _⟩ := Option.map_eq_some_iff.mp found
      exact digits?_visible s whole read

theorem stringLiteral_visible (s : List Char) (m : Match) (found : stringLiteral s = some m) :
    Visible s := by
  unfold stringLiteral at found
  split at found
  · next q cs =>
    split at found
    · next quote => rcases quote with rfl | rfl <;> exact ⟨_, cs, rfl, by decide⟩
    · cases found
  · cases found

/-- The terminals that begin with a visible character, as far as it is needed. -/
def isVisible : Terminal → Bool
  | .word _ | .wordExcept _ | .privateName | .number | .string => true
  | .signs text =>
    match text.toList with
    | c :: _ => !isSpacing c
    | [] => false
  | _ => false

theorem read_visible (t : Terminal) (visible : t.isVisible = true) (s : List Char) (m : Match)
    (found : t.read s = some m) : Visible s := by
  cases t with
  | word text => exact anyWord_visible s m (Option.filter_eq_some_iff.mp found).1
  | wordExcept reserved => exact anyWord_visible s m (Option.filter_eq_some_iff.mp found).1
  | privateName =>
    unfold read at found
    dsimp only at found
    split at found
    · exact ⟨_, _, rfl, by decide⟩
    · cases found
  | number => exact numberLiteral_visible s m found
  | string => exact stringLiteral_visible s m found
  | signs text =>
    obtain ⟨rest, stripped, _⟩ := Option.map_eq_some_iff.mp found
    have split := (Text.stripStart_some_iff _ s rest).mp stripped
    unfold isVisible at visible
    dsimp only at visible
    split at visible
    · next c cs letters =>
      rw [letters] at split
      exact ⟨c, cs ++ rest, split, by simpa using visible⟩
    · cases visible
  | _ => cases visible

end Terminal

namespace Grammar

/-- Whether a grammar, wherever it is followed, begins with a visible character, or else, where it
may be idle, leaves the text as it is; as far as a number of steps into it shows. -/
def opens (rules : Rule → Grammar) : Nat → Bool → Grammar → Bool
  | 0, _, _ => false
  | depth + 1, idle, g =>
    match g with
    | .token t _ | .tight t => t.isVisible
    | .sequence gs =>
      gs.foldr (fun g others => opens rules depth false g || (opens rules depth true g && others))
        idle
    | .choice gs => gs.all (opens rules depth idle)
    | .optional g => idle && opens rules depth true g
    | .node _ g | .role _ g | .within _ g | .dialect _ g | .arrowTypes g | .functionTypes g =>
      opens rules depth idle g
    | .rule r => opens rules depth idle (rules r)
    | .ahead _ | .notAhead _ | .noSemicolon => idle
    | _ => false

section Opening

variable {rules : Rule → Grammar}

/-- What following a grammar that opens shows: it began with a visible character, or it read
nothing. -/
def Opens (idle : Bool) (p q : Place) : Prop :=
  Visible p.rest ∨ (idle = true ∧ q.rest = p.rest)

theorem foldlM_opens (depth fuel : Nat) (setting : Setting) (idle : Bool) (gs : List Grammar)
    (each : ∀ g ∈ gs, ∀ (still : Bool) (p q : Place), opens rules depth still g = true →
      follow rules fuel setting g p = some q → Opens still p q)
    (p q : Place)
    (opening : gs.foldr (fun g others =>
      opens rules depth false g || (opens rules depth true g && others)) idle = true)
    (followed : gs.foldlM (fun q g => follow rules fuel setting g q) p = some q) :
    Opens idle p q := by
  induction gs generalizing p with
  | nil =>
    cases followed
    exact .inr ⟨opening, rfl⟩
  | cons g gs ih =>
    rw [List.forall_mem_cons] at each
    rw [List.foldlM_cons] at followed
    obtain ⟨r, first, others⟩ := Option.bind_eq_some_iff.mp followed
    rw [List.foldr_cons, Bool.or_eq_true, Bool.and_eq_true] at opening
    rcases opening with firm | ⟨loose, later⟩
    · rcases each.1 false p r firm first with visible | ⟨never, _⟩
      · exact .inl visible
      · cases never
    · rcases each.1 true p r loose first with visible | ⟨_, same⟩
      · exact .inl visible
      · have behind := ih each.2 r later others
        unfold Opens at behind
        rw [same] at behind
        exact behind

theorem follow_opens (depth fuel : Nat) (setting : Setting) (idle : Bool) (g : Grammar)
    (p q : Place) (opening : opens rules depth idle g = true)
    (followed : follow rules fuel setting g p = some q) : Opens idle p q := by
  -- on the depth of the check; the fuel is only what the reading has left
  induction depth generalizing fuel setting idle g p q with
  | zero => cases opening
  | succ depth ih =>
    cases fuel with
    | zero => cases followed
    | succ fuel =>
      cases g with
      | token t leaf =>
        obtain ⟨m, read, _⟩ := Option.map_eq_some_iff.mp followed
        exact .inl (t.read_visible opening p.rest m read)
      | tight t =>
        obtain ⟨m, read, _⟩ := Option.map_eq_some_iff.mp followed
        exact .inl (t.read_visible opening p.rest m read)
      | sequence gs =>
        exact foldlM_opens depth fuel setting idle gs
          (fun g _ still p q => ih fuel setting still g p q) p q opening followed
      | choice gs =>
        obtain ⟨g, listed, chosen⟩ := List.exists_of_findSome?_eq_some followed
        exact ih fuel setting idle g p q (List.all_eq_true.mp opening g listed) chosen
      | optional g =>
        obtain ⟨may, opening⟩ := Bool.and_eq_true_iff.mp opening
        rw [follow] at followed
        cases inner : follow rules fuel setting g p with
        | none =>
          rw [inner] at followed
          cases followed
          exact .inr ⟨may, rfl⟩
        | some r =>
          rw [inner] at followed
          cases followed
          exact (ih fuel setting true g p _ opening inner).imp_right fun still => ⟨may, still.2⟩
      | node kind g =>
        obtain ⟨r, inner, rfl⟩ := Option.map_eq_some_iff.mp followed
        exact ih fuel setting idle g { p.settle with trees := [] } r opening inner
      | role role g =>
        obtain ⟨r, inner, rfl⟩ := Option.map_eq_some_iff.mp followed
        exact ih fuel setting idle g { p.settle with trees := [] } r opening inner
      | rule r => exact ih fuel setting idle (rules r) p q opening followed
      | within shift g => exact ih fuel (shift.apply setting) idle g p q opening followed
      | ahead g =>
        obtain ⟨_, _, rfl⟩ := Option.map_eq_some_iff.mp followed
        exact .inr ⟨opening, rfl⟩
      | notAhead g =>
        rw [follow_notAhead rules (fuel + 1) setting g p q followed]
        exact .inr ⟨opening, rfl⟩
      | dialect d g =>
        obtain ⟨_, inner⟩ := Option.ite_none_right_eq_some.mp followed
        exact ih fuel setting idle g p q opening inner
      | arrowTypes g =>
        obtain ⟨_, inner⟩ := Option.ite_none_right_eq_some.mp followed
        exact ih fuel setting idle g p q opening inner
      | functionTypes g =>
        obtain ⟨_, inner⟩ := Option.ite_none_right_eq_some.mp followed
        exact ih fuel setting idle g p q opening inner
      | noSemicolon =>
        obtain ⟨_, inner⟩ := Option.ite_none_left_eq_some.mp followed
        cases inner
        exact .inr ⟨opening, rfl⟩
      | _ => cases opening

/-- A grammar that opens firmly is only followed where a visible character stands. -/
theorem follow_visible (depth fuel : Nat) (setting : Setting) (g : Grammar) (p q : Place)
    (opening : opens rules depth false g = true)
    (followed : follow rules fuel setting g p = some q) : Visible p.rest := by
  rcases follow_opens depth fuel setting false g p q opening followed with visible | ⟨never, _⟩
  · exact visible
  · cases never

end Opening

end Grammar

end ResultLint.Source
