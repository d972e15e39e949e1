import ResultLint.Source.Terminal
import ResultLint.Proofs.Text.Occurrence

/-!
What a terminal takes is a leading part of the text, and the rest is what follows it. The
terminals of fixed form never take the empty text.
-/
namespace ResultLint.Source.Terminal

/-- The two parts of a match make up the text. -/
def Match.Splits (m : Match) (s : List Char) : Prop :=
  m.1 ++ m.2 = s

theorem splits_empty (s : List Char) : Match.Splits ([], s) s :=
  rfl

theorem splits_push (m : Match) (front s : List Char) (inner : m.Splits s) :
    (m.push front).Splits (front ++ s) := by
  unfold Match.Splits Match.push at *
  rw [List.append_assoc, inner]

/-- A match of what one match left over extends it. -/
theorem splits_append (m n : Match) (s : List Char) (first : m.Splits s) (second : n.Splits m.2) :
    (n.push m.1).Splits s := by
  unfold Match.Splits at first
  rw [← first]
  exact splits_push n m.1 m.2 second

/-- What a condition takes off a text. -/
theorem splits_takeWhile (p : Char → Bool) (s : List Char) :
    Match.Splits (s.takeWhile p, s.drop (s.takeWhile p).length) s :=
  List.prefix_iff_eq_append.mp (List.takeWhile_prefix p)

/-- Text up to a mark that stands somewhere, the mark itself, and what follows. -/
theorem splits_takeWhile_mark (mark : Char) (s : List Char)
    (shorter : (s.takeWhile (· != mark)).length < s.length) :
    s.takeWhile (· != mark) ++ mark :: s.drop ((s.takeWhile (· != mark)).length + 1) = s := by
  induction s with
  | nil => simp at shorter
  | cons c cs ih =>
    by_cases here : c = mark
    · simp [here]
    · have ahead : (c != mark) = true := by simpa using here
      have taken : (c :: cs).takeWhile (· != mark) = c :: cs.takeWhile (· != mark) :=
        List.takeWhile_cons_of_pos ahead
      rw [taken] at shorter ⊢
      rw [List.cons_append, List.length_cons, List.drop_succ_cons, ih (by simpa using shorter)]

theorem wordChars_splits (braced : Bool) (s : List Char) : (wordChars braced s).Splits s := by
  fun_induction wordChars braced s with
  | case1 braced d cs _ ih => exact splits_push _ ['\\', 'u', '\x7b', d] cs ih
  | case3 braced a b c d cs _ _ ih => exact splits_push _ ['\\', 'u', a, b, c, d] cs ih
  | case6 | case7 | case9 => exact splits_push _ [_] _ (by assumption)
  | _ => exact splits_empty _

theorem digits_splits (p : Char → Bool) (s : List Char) : (digits p s).Splits s := by
  fun_induction digits p s with
  | case1 d cs _ ih => exact splits_push _ ['_', d] cs ih
  | case4 c cs _ _ ih => exact splits_push _ [c] cs ih
  | _ => exact splits_empty _

theorem anyWord_splits (s : List Char) (m : Match) (found : anyWord s = some m) :
    m.Splits s ∧ m.1 ≠ [] := by
  unfold anyWord at found
  dsimp only at found
  split at found
  · cases found
  · next c cs first =>
    split at found
    · cases found
    · cases found
      exact ⟨wordChars_splits false s, by simp [first]⟩

theorem digits?_splits (p : Char → Bool) (s : List Char) (m : Match)
    (found : digits? p s = some m) : m.Splits s := by
  unfold digits? at found
  split at found
  · split at found
    · cases found
      exact digits_splits p _
    · cases found
  · cases found

theorem digits?_ne_nil (p : Char → Bool) (noMark : p '_' = false) (s : List Char) (m : Match)
    (found : digits? p s = some m) : m.1 ≠ [] := by
  unfold digits? at found
  split at found
  · next c cs =>
    split at found
    · next isDigit =>
      cases found
      unfold digits
      split
      · next same =>
        cases same
        rw [noMark] at isDigit
        cases isDigit
      · next same => cases same
      · next same =>
        cases same
        rw [if_pos isDigit]
        simp [Match.push]
    · cases found
  · cases found

theorem exponent_splits (s : List Char) : (exponent s).Splits s := by
  unfold exponent
  split
  · next e cs =>
    split
    · split
      · next sign ds =>
        split
        · split
          · next m found => exact splits_push m [e, sign] ds (digits?_splits _ _ m found)
          · exact splits_empty _
        · split
          · next m found => exact splits_push m [e] (sign :: ds) (digits?_splits _ _ m found)
          · exact splits_empty _
      · exact splits_empty _
    · exact splits_empty _
  · exact splits_empty _

theorem bigMark_splits (m : Match) (s : List Char) (inner : m.Splits s) :
    (bigMark m).Splits s := by
  unfold bigMark
  split
  · next cs tail =>
    unfold Match.Splits at *
    rw [← inner, tail, List.append_assoc]
    rfl
  · exact inner

theorem bigMark_ne_nil (m : Match) (taken : m.1 ≠ []) : (bigMark m).1 ≠ [] := by
  unfold bigMark
  split
  · simp
  · exact taken

theorem based_splits (zero letter : Char) (p : Char → Bool) (cs : List Char) (m : Match)
    (found : based zero letter p cs = some m) :
    m.Splits (zero :: letter :: cs) ∧ m.1 ≠ [] := by
  unfold based at found
  obtain ⟨inner, read, rfl⟩ := Option.map_eq_some_iff.mp found
  have split := splits_push inner [zero, letter] cs (digits?_splits p cs inner read)
  exact ⟨bigMark_splits _ _ split, bigMark_ne_nil _ (by simp [Match.push])⟩

theorem decimal_splits (s : List Char) (m : Match) (found : decimal s = some m) :
    m.Splits s ∧ m.1 ≠ [] := by
  unfold decimal at found
  split at found
  · next cs =>
    obtain ⟨inner, read, rfl⟩ := Option.map_eq_some_iff.mp found
    have dotted := splits_push inner ['.'] cs (digits?_splits _ cs inner read)
    exact ⟨splits_append _ _ _ dotted (exponent_splits inner.2), by simp [Match.push]⟩
  · obtain ⟨whole, read, rfl⟩ := Option.map_eq_some_iff.mp found
    have digitsSplit := digits?_splits _ s whole read
    have taken := digits?_ne_nil Char.isDigit rfl s whole read
    split
    · next cs point =>
      have fraction : (((digits? Char.isDigit cs).getD ([], cs) : Match)).Splits cs := by
        cases more : digits? Char.isDigit cs with
        | none => exact splits_empty cs
        | some m => exact digits?_splits _ cs m more
      have dotted := splits_push _ ['.'] cs fraction
      rw [List.singleton_append, ← point] at dotted
      have joined := splits_append whole _ s digitsSplit dotted
      exact ⟨splits_append _ _ s joined (exponent_splits _), by simp [Match.push]⟩
    · dsimp only
      split
      · exact ⟨bigMark_splits whole s digitsSplit, bigMark_ne_nil whole taken⟩
      · exact ⟨splits_append whole _ s digitsSplit (exponent_splits _), by simp [Match.push, taken]⟩

theorem numberLiteral_splits (s : List Char) (m : Match) (found : numberLiteral s = some m) :
    m.Splits s ∧ m.1 ≠ [] := by
  unfold numberLiteral at found
  split at found
  · next letter cs =>
    dsimp only at found
    rw [Option.orElse_eq_orElse, Option.orElse_eq_or, Option.or_eq_some_iff] at found
    rcases found with other | ⟨_, plain⟩
    · split at other
      · exact based_splits _ _ _ _ m other
      · exact based_splits _ _ _ _ m other
      · exact based_splits _ _ _ _ m other
      · cases other
    · exact decimal_splits _ m plain
  · exact decimal_splits s m found

/-- Escaped text ends where it was told to stop. -/
theorem escapedText_splits (stop : List Char → Bool) (refused : Char → Bool) (skip : Nat)
    (s : List Char) (m : Match) (found : escapedText stop refused skip s = some m) :
    m.Splits s ∧ stop m.2 = true := by
  induction s generalizing skip m with
  | nil => cases found
  | cons c cs ih =>
    have further (n : Nat)
        (onward : (escapedText stop refused n cs).map (Match.push [c]) = some m) :
        m.Splits (c :: cs) ∧ stop m.2 = true := by
      obtain ⟨inner, read, rfl⟩ := Option.map_eq_some_iff.mp onward
      have deeper := ih n inner read
      exact ⟨splits_push inner [c] cs deeper.1, deeper.2⟩
    unfold escapedText at found
    split at found
    · exact further _ found
    · split at found
      · next stopped =>
        cases found
        exact ⟨splits_empty _, stopped⟩
      · split at found
        · split at found
          · exact further _ found
          · cases found
        · split at found
          · cases found
          · exact further _ found

theorem stringLiteral_splits (s : List Char) (m : Match) (found : stringLiteral s = some m) :
    m.Splits s ∧ m.1 ≠ [] := by
  unfold stringLiteral at found
  split at found
  · next q cs =>
    split at found
    · split at found
      · next body closing rest read =>
        cases found
        obtain ⟨inner, stopped⟩ := escapedText_splits _ _ _ cs _ read
        have quote : closing = q := by simpa using stopped
        refine ⟨?_, by simp⟩
        unfold Match.Splits at *
        rw [← inner, quote]
        simp
      · cases found
    · cases found
  · cases found

/-- The body of a regular expression ends before a slash. -/
theorem regexBody_splits (bracketed : Bool) (s : List Char) (m : Match)
    (found : regexBody bracketed s = some m) : m.Splits s ∧ m.2.head? = some '/' := by
  fun_induction regexBody bracketed s generalizing m with
  | case1 | case2 | case4 => cases found
  | case3 bracketed c cs _ ih =>
    obtain ⟨inner, read, rfl⟩ := Option.map_eq_some_iff.mp found
    have deeper := ih inner read
    exact ⟨splits_push inner ['\\', c] cs deeper.1, deeper.2⟩
  | case6 =>
    cases found
    exact ⟨splits_empty _, rfl⟩
  | case5 c cs _ _ ih =>
    obtain ⟨inner, read, rfl⟩ := Option.map_eq_some_iff.mp found
    have deeper := ih inner read
    exact ⟨splits_push inner [c] cs deeper.1, deeper.2⟩
  | case7 bracketed c cs _ _ _ _ ih =>
    obtain ⟨inner, read, rfl⟩ := Option.map_eq_some_iff.mp found
    have deeper := ih inner read
    exact ⟨splits_push inner [c] cs deeper.1, deeper.2⟩

theorem regexLiteral_splits (s : List Char) (m : Match) (found : regexLiteral s = some m) :
    m.Splits s := by
  unfold regexLiteral at found
  split at found
  · next cs =>
    split at found
    · cases found
    · next body closing rest _ read =>
      cases found
      obtain ⟨inner, stopped⟩ := regexBody_splits false cs _ read
      have slash : closing = '/' := by simpa using stopped
      have flags := splits_takeWhile (fun c => 'a' ≤ c && c ≤ 'z') rest
      unfold Match.Splits at *
      dsimp only at *
      rw [← inner, slash, List.cons_append, List.cons_append, List.append_assoc, List.cons_append,
        flags]
    · cases found
  · cases found

theorem operators_ne_nil : ∀ text ∈ operators, text.toList ≠ [] := by
  decide

theorem operatorHere_splits (s : List Char) (m : Match) (found : operatorHere s = some m) :
    m.Splits s ∧ m.1 ≠ [] := by
  unfold operatorHere at found
  dsimp only at found
  rw [Option.orElse_eq_orElse, Option.orElse_eq_or, Option.or_eq_some_iff] at found
  rcases found with long | ⟨_, single⟩
  · obtain ⟨text, listed, taken⟩ := List.exists_of_findSome?_eq_some long
    obtain ⟨rest, stripped, rfl⟩ := Option.map_eq_some_iff.mp taken
    exact ⟨((Text.stripStart_some_iff _ s rest).mp stripped).symm, operators_ne_nil text listed⟩
  · split at single
    · split at single
      · cases single
        exact ⟨rfl, by simp⟩
      · cases single
    · cases single

theorem questionMarkHere_splits (s : List Char) (m : Match)
    (found : questionMarkHere s = some m) : m.Splits s := by
  unfold questionMarkHere at found
  split at found
  · next cs =>
    split at found
    · cases found
    · split at found
      · cases found
        rfl
      · cases found
    · split at found
      · split at found
        · cases found
        · cases found
          rfl
      · cases found
        rfl
  · cases found

theorem templateTextHere_splits (s : List Char) (m : Match)
    (found : templateTextHere s = some m) : m.Splits s := by
  unfold templateTextHere at found
  dsimp only at found
  split at found
  · next c cs rest read =>
    cases found
    exact (escapedText_splits _ _ _ s _ read).1
  · cases found

theorem elementTextHere_splits (s : List Char) : (elementTextHere s).Splits s := by
  induction s with
  | nil => exact splits_empty []
  | cons c cs ih =>
    unfold elementTextHere
    split
    · exact splits_empty _
    · split
      · exact splits_empty _
      · exact splits_push _ [c] cs ih

theorem elementNameHere_splits (s : List Char) (m : Match)
    (found : elementNameHere s = some m) : m.Splits s := by
  unfold elementNameHere at found
  split at found
  · cases found
  · cases found
    exact splits_takeWhile _ s

theorem attributeTextHere_splits (s : List Char) (m : Match)
    (found : attributeTextHere s = some m) : m.Splits s := by
  unfold attributeTextHere at found
  split at found
  · next q cs =>
    split at found
    · dsimp only at found
      split at found
      · next shorter =>
        cases found
        have whole := splits_takeWhile_mark q cs shorter
        unfold Match.Splits
        rw [List.cons_append, List.cons_append, List.append_assoc, List.singleton_append, whole]
      · cases found
    · cases found
  · cases found

/-- A terminal takes a leading part of the text. -/
theorem read_splits (t : Terminal) (s : List Char) (m : Match) (found : t.read s = some m) :
    m.Splits s := by
  cases t with
  | word text => exact (anyWord_splits s m (Option.filter_eq_some_iff.mp found).1).1
  | wordExcept reserved => exact (anyWord_splits s m (Option.filter_eq_some_iff.mp found).1).1
  | privateName =>
    unfold read at found
    dsimp only at found
    split at found
    · next cs =>
      obtain ⟨inner, word, rfl⟩ := Option.map_eq_some_iff.mp found
      exact splits_push inner ['#'] cs (anyWord_splits cs inner word).1
    · cases found
  | number => exact (numberLiteral_splits s m found).1
  | string => exact (stringLiteral_splits s m found).1
  | regex => exact regexLiteral_splits s m found
  | signs text =>
    obtain ⟨rest, stripped, rfl⟩ := Option.map_eq_some_iff.mp found
    exact ((Text.stripStart_some_iff _ s rest).mp stripped).symm
  | operator texts => exact (operatorHere_splits s m (Option.filter_eq_some_iff.mp found).1).1
  | questionMark => exact questionMarkHere_splits s m found
  | templateText => exact templateTextHere_splits s m found
  | elementText =>
    have whole := elementTextHere_splits s
    unfold read at found
    dsimp only at found
    split at found
    · cases found
    · cases found
      exact whole
  | elementName => exact elementNameHere_splits s m found
  | attributeText => exact attributeTextHere_splits s m found

/-- The terminals that never fit the empty text. -/
def isSolid : Terminal → Bool
  | .word _ | .wordExcept _ | .number | .string | .operator _ => true
  | .signs text => !text.toList.isEmpty
  | _ => false

theorem read_ne_nil (t : Terminal) (solid : t.isSolid = true) (s : List Char) (m : Match)
    (found : t.read s = some m) : m.1 ≠ [] := by
  cases t with
  | word text => exact (anyWord_splits s m (Option.filter_eq_some_iff.mp found).1).2
  | wordExcept reserved => exact (anyWord_splits s m (Option.filter_eq_some_iff.mp found).1).2
  | number => exact (numberLiteral_splits s m found).2
  | string => exact (stringLiteral_splits s m found).2
  | operator texts => exact (operatorHere_splits s m (Option.filter_eq_some_iff.mp found).1).2
  | signs text =>
    obtain ⟨rest, stripped, rfl⟩ := Option.map_eq_some_iff.mp found
    simpa [isSolid] using solid
  | _ => cases solid

/-- A word is read with exactly its letters. -/
theorem read_word (text : String) (s : List Char) (m : Match)
    (found : (Terminal.word text).read s = some m) : m.1 = text.toList := by
  have same := (Option.filter_eq_some_iff.mp found).2
  simpa using same

end ResultLint.Source.Terminal
