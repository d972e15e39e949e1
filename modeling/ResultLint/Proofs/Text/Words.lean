import Mathlib.Data.List.Chain
import Mathlib.Data.List.SplitBy
import ResultLint.Proofs.Text.Blank

/-!
The words of a text, and the text that they make with one space between neighbours. That text is
the trimmed one with each run of blanks as a single space, and it has the same words again; so two
texts come to the same one just if they have the same words.
-/
namespace ResultLint.Text

/-- Whether a text begins with a blank, if it begins with anything. -/
def startsBlank? (s : List Char) : Option Bool :=
  s.head?.map isBlank

/-- Each run of blanks as one space; the ends of the text are not trimmed. -/
def squeeze : List Char → List Char
  | [] => []
  | c :: cs =>
    if isBlank c then if startsBlank? cs = some true then squeeze cs else ' ' :: squeeze cs
    else c :: squeeze cs

/-- The maximal runs of blanks and of visible characters, in order. -/
def runs (s : List Char) : List (List Char) :=
  s.splitBy fun a b => isBlank a == isBlank b

/-- A run as it is written with single spaces. -/
def tighten (run : List Char) : List Char :=
  if run.all isBlank then [' '] else run

theorem startsBlank_append (s t : List Char) (nonempty : s ≠ []) :
    startsBlank? (s ++ t) = startsBlank? s := by
  rw [startsBlank?, List.head?_append_of_ne_nil s nonempty, startsBlank?]

section Words

theorem words_blank (c : Char) (s : List Char) (blank : isBlank c = true) :
    words (c :: s) = words s := by
  rw [words.eq_def]
  exact if_pos blank

theorem words_eq_nil_iff (s : List Char) : words s = [] ↔ ∀ c ∈ s, isBlank c = true := by
  induction s with
  | nil => simp [words]
  | cons c cs ih =>
    by_cases blank : isBlank c = true
    · rw [words_blank c cs blank, ih, List.forall_mem_cons, and_iff_right blank]
    · refine iff_of_false ?_ fun all => blank (all c List.mem_cons_self)
      rw [words.eq_def]
      dsimp only
      rw [if_neg blank]
      repeat' split
      all_goals exact List.cons_ne_nil _ _

/-- A visible character belongs to the word that follows it, or is a word if none follows at
once. -/
theorem words_visible (c : Char) (s : List Char) (visible : isBlank c = false) :
    words (c :: s) =
      if startsBlank? s = some false then (words s).modifyHead (c :: ·) else [c] :: words s := by
  rw [words.eq_def]
  dsimp only
  rw [if_neg (by simp [visible])]
  cases s with
  | nil => rfl
  | cons d ds =>
    by_cases blank : isBlank d = true
    · simp [blank, startsBlank?]
    · have some : words (d :: ds) ≠ [] := by
        rw [Ne, words_eq_nil_iff]
        exact fun all => blank (all d List.mem_cons_self)
      obtain ⟨w, ws, first⟩ := List.exists_cons_of_ne_nil some
      simp [blank, startsBlank?, first]

/-- The words of a text are the pieces between its blanks that are not empty. -/
theorem words_eq_splitOnP (s : List Char) :
    words s = (s.splitOnP isBlank).filter fun piece => !piece.isEmpty := by
  induction s with
  | nil => rfl
  | cons c cs ih =>
    rw [List.splitOnP_cons_eq_if_modifyHead]
    by_cases blank : isBlank c = true
    · rw [words_blank c cs blank, if_pos blank, ih]
      rfl
    · rw [words_visible c cs (by simpa using blank), if_neg blank, ih]
      cases cs with
      | nil => rfl
      | cons d ds =>
        rw [List.splitOnP_cons_eq_if_modifyHead]
        by_cases next : isBlank d = true
        · simp [next, startsBlank?]
        · obtain ⟨w, ws, pieces⟩ := List.exists_cons_of_ne_nil (List.splitOnP_ne_nil isBlank ds)
          simp [next, startsBlank?, pieces]

theorem words_blanks_append (front : Blanks) (s : List Char) :
    words (front.chars ++ s) = words s := by
  obtain ⟨gap, blank⟩ := front
  induction gap with
  | nil => rfl
  | cons c gap ih =>
    rw [List.cons_append, words_blank c _ (blank c List.mem_cons_self)]
    exact ih fun d inside => blank d (List.mem_cons_of_mem c inside)

theorem words_append_blanks (s : List Char) (behind : Blanks) :
    words (s ++ behind.chars) = words s := by
  induction s with
  | nil => simpa [words] using (words_eq_nil_iff behind.chars).mpr behind.blank
  | cons c cs ih =>
    rw [List.cons_append]
    by_cases blank : isBlank c = true
    · rw [words_blank c _ blank, words_blank c _ blank, ih]
    · have visible : isBlank c = false := by simpa using blank
      rw [words_visible c _ visible, words_visible c _ visible, ih]
      cases cs with
      | nil => cases gap : behind.chars <;> simp [startsBlank?, behind.blank, gap]
      | cons d ds => rw [startsBlank_append _ _ (List.cons_ne_nil d ds)]

theorem words_trim (s : List Char) : words (trim s) = words s := by
  obtain ⟨front, behind, whole⟩ := exists_trim s
  conv_rhs => rw [whole, words_append_blanks, words_blanks_append]

end Words

section Squeeze

theorem squeeze_visible (c : Char) (s : List Char) (visible : isBlank c = false) :
    squeeze (c :: s) = c :: squeeze s :=
  if_neg (by simp [visible])

theorem squeeze_blank (c : Char) (s : List Char) (blank : isBlank c = true) :
    squeeze (c :: s) = if startsBlank? s = some true then squeeze s else ' ' :: squeeze s :=
  if_pos blank

theorem startsBlank_squeeze (s : List Char) : startsBlank? (squeeze s) = startsBlank? s := by
  fun_induction squeeze s with
  | case1 => rfl
  | case2 c cs blank more ih =>
    rw [ih, more, startsBlank?, List.head?_cons, Option.map_some, blank]
  | case3 c cs blank last ih => simp [startsBlank?, blank, isBlank_space]
  | case4 c cs visible ih => rfl

theorem squeeze_eq_nil_iff (s : List Char) : squeeze s = [] ↔ s = [] := by
  have first := startsBlank_squeeze s
  constructor
  · intro empty
    simpa [empty, startsBlank?, eq_comm] using first
  · rintro rfl
    rfl

theorem startsBlank_before (s t : List Char) (c : Char) (visible : isBlank c = false) :
    startsBlank? (s ++ c :: t) = some true ↔ startsBlank? s = some true := by
  cases s <;> simp [startsBlank?, visible]

/-- On either side of a visible character a text is squeezed for itself. -/
theorem squeeze_append (s t : List Char) (c : Char) (visible : isBlank c = false) :
    squeeze (s ++ c :: t) = squeeze s ++ c :: squeeze t := by
  have kept (s : List Char) := startsBlank_before s t c visible
  fun_induction squeeze s with
  | case1 => exact squeeze_visible c t visible
  | case2 d s blank more ih =>
    rw [List.cons_append, squeeze_blank d _ blank, if_pos ((kept s).mpr more), ih]
  | case3 d s blank last ih =>
    rw [List.cons_append, squeeze_blank d _ blank, if_neg (mt (kept s).mp last), ih,
      List.cons_append]
  | case4 d s seen ih =>
    rw [List.cons_append, squeeze_visible d _ (by simpa using seen), ih, List.cons_append]

/-- What is visible in a squeezed text is so in the text, with the rest around it. -/
theorem squeeze_eq_append_iff (s front back : List Char) (c : Char) (visible : isBlank c = false) :
    squeeze s = front ++ c :: back ↔
      ∃ before after, s = before ++ c :: after ∧ squeeze before = front ∧ squeeze after = back := by
  constructor
  · intro same
    fun_induction squeeze s generalizing front with
    | case1 => exact absurd same.symm (by simp)
    | case2 d s blank more ih =>
      obtain ⟨before, after, rfl, rfl, rfl⟩ := ih front same
      rw [startsBlank_before before after c visible] at more
      exact ⟨d :: before, after, rfl, by rw [squeeze_blank d _ blank, if_pos more], rfl⟩
    | case3 d s blank last ih =>
      cases front with
      | nil =>
        rw [← (List.cons.inj same).1] at visible
        cases visible
      | cons e front =>
        obtain ⟨rfl, rest⟩ := List.cons.inj same
        obtain ⟨before, after, rfl, rfl, rfl⟩ := ih front rest
        rw [startsBlank_before before after c visible] at last
        exact ⟨d :: before, after, rfl, by rw [squeeze_blank d _ blank, if_neg last], rfl⟩
    | case4 d s seen ih =>
      cases front with
      | nil =>
        obtain ⟨rfl, rest⟩ := List.cons.inj same
        exact ⟨[], s, rfl, rfl, rest⟩
      | cons e front =>
        obtain ⟨rfl, rest⟩ := List.cons.inj same
        obtain ⟨before, after, rfl, rfl, rfl⟩ := ih front rest
        exact ⟨d :: before, after, rfl, squeeze_visible d before (by simpa using seen), rfl⟩
  · rintro ⟨before, after, rfl, rfl, rfl⟩
    exact squeeze_append before after c visible

/-- The same for a mark of visible characters. -/
theorem squeeze_eq_mark_iff (s front mark back : List Char)
    (visible : ∀ c ∈ mark, isBlank c = false) (nonempty : mark ≠ []) :
    squeeze s = front ++ (mark ++ back) ↔
      ∃ before after, s = before ++ (mark ++ after) ∧ squeeze before = front ∧
        squeeze after = back := by
  induction mark generalizing s front with
  | nil => exact absurd rfl nonempty
  | cons c mark ih =>
    obtain ⟨seen, visible⟩ := List.forall_mem_cons.mp visible
    rw [List.cons_append, squeeze_eq_append_iff s front (mark ++ back) c seen]
    cases mark with
    | nil => rfl
    | cons d mark =>
      constructor
      · rintro ⟨before, rest, rfl, rfl, same⟩
        obtain ⟨none, after, rfl, empty, rfl⟩ :=
          (ih rest [] visible (List.cons_ne_nil d mark)).mp same
        rw [squeeze_eq_nil_iff] at empty
        subst empty
        exact ⟨before, after, rfl, rfl, rfl⟩
      · rintro ⟨before, after, rfl, rfl, rfl⟩
        exact ⟨before, d :: mark ++ after, rfl, rfl,
          (ih _ [] visible (List.cons_ne_nil d mark)).mpr ⟨[], after, rfl, rfl, rfl⟩⟩

theorem mem_squeeze_iff (s : List Char) (c : Char) (visible : isBlank c = false) :
    c ∈ squeeze s ↔ c ∈ s := by
  rw [List.mem_iff_append, List.mem_iff_append]
  constructor
  · rintro ⟨front, back, same⟩
    obtain ⟨before, after, rfl, -, -⟩ := (squeeze_eq_append_iff s front back c visible).mp same
    exact ⟨before, after, rfl⟩
  · rintro ⟨before, after, rfl⟩
    exact ⟨_, _, squeeze_append before after c visible⟩

theorem filter_squeeze (s : List Char) (p : Char → Bool)
    (visible : ∀ c, isBlank c = true → p c = false) : (squeeze s).filter p = s.filter p := by
  fun_induction squeeze s with
  | case1 => rfl
  | case2 c cs blank more ih => rw [ih, List.filter_cons_of_neg (by simp [visible c blank])]
  | case3 c cs blank last ih =>
    rw [List.filter_cons_of_neg (by simp [visible ' ' isBlank_space]), ih,
      List.filter_cons_of_neg (by simp [visible c blank])]
  | case4 c cs seen ih => rw [List.filter_cons, List.filter_cons, ih]

/-- The blanks that are left are spaces. -/
theorem eq_space_of_mem_squeeze (s : List Char) (c : Char) (member : c ∈ squeeze s)
    (blank : isBlank c = true) : c = ' ' := by
  fun_induction squeeze s with
  | case1 => cases member
  | case2 d ds first more ih => exact ih member
  | case3 d ds first last ih => exact (List.mem_cons.mp member).elim id ih
  | case4 d ds visible ih =>
    rcases List.mem_cons.mp member with rfl | rest
    · exact absurd blank visible
    · exact ih rest

/-- Of two neighbours that are left at most one is a blank. -/
theorem isChain_squeeze (s : List Char) :
    (squeeze s).IsChain fun a b => isBlank a = false ∨ isBlank b = false := by
  fun_induction squeeze s with
  | case1 => exact .nil
  | case2 c cs blank more ih => exact ih
  | case3 c cs blank last ih =>
    rw [← startsBlank_squeeze] at last
    refine List.isChain_cons.mpr ⟨fun d next => .inr ?_, ih⟩
    rw [startsBlank?, next] at last
    simpa using last
  | case4 c cs visible ih =>
    exact List.isChain_cons.mpr ⟨fun d next => .inl (by simpa using visible), ih⟩

theorem words_squeeze (s : List Char) : words (squeeze s) = words s := by
  fun_induction squeeze s with
  | case1 => rfl
  | case2 c cs blank more ih => rw [ih, words_blank c cs blank]
  | case3 c cs blank last ih => rw [words_blank ' ' _ isBlank_space, ih, words_blank c cs blank]
  | case4 c cs visible ih =>
    have seen : isBlank c = false := by simpa using visible
    rw [words_visible c _ seen, words_visible c _ seen, ih, startsBlank_squeeze]

end Squeeze

section Runs

/-- The characters of a run are of one kind. -/
theorem isBlank_eq_of_isChain (c : Char) (run : List Char)
    (same : (c :: run).IsChain fun a b => (isBlank a == isBlank b) = true) :
    ∀ d ∈ run, isBlank d = isBlank c := by
  induction run generalizing c with
  | nil => simp
  | cons d run ih =>
    obtain ⟨step, rest⟩ := List.isChain_cons_cons.mp same
    rw [beq_iff_eq] at step
    refine List.forall_mem_cons.mpr ⟨step.symm, fun e inside => ?_⟩
    rw [step, ih d rest e inside]

theorem squeeze_blanks_append (gap : Blanks) (rest : List Char) (nonempty : gap.chars ≠ [])
    (last : startsBlank? rest ≠ some true) :
    squeeze (gap.chars ++ rest) = ' ' :: squeeze rest := by
  obtain ⟨gap, blank⟩ := gap
  induction gap with
  | nil => exact absurd rfl nonempty
  | cons c gap ih =>
    obtain ⟨first, blank⟩ := List.forall_mem_cons.mp blank
    rw [List.cons_append, squeeze_blank c _ first]
    cases gap with
    | nil => exact if_neg last
    | cons d gap =>
      rw [if_pos (by simp [startsBlank?, blank d List.mem_cons_self])]
      exact ih blank (List.cons_ne_nil d gap)

theorem squeeze_visible_append (word rest : List Char) (visible : ∀ c ∈ word, isBlank c = false) :
    squeeze (word ++ rest) = word ++ squeeze rest := by
  induction word with
  | nil => rfl
  | cons c word ih =>
    obtain ⟨first, visible⟩ := List.forall_mem_cons.mp visible
    rw [List.cons_append, squeeze_visible c _ first, ih visible, List.cons_append]

/-- Runs of one kind each, in turns, are squeezed one by one. -/
theorem squeeze_flatten (pieces : List (List Char)) (nonempty : [] ∉ pieces)
    (same : ∀ run ∈ pieces, run.IsChain fun a b => (isBlank a == isBlank b) = true)
    (turns : pieces.IsChain fun run next =>
      ∃ h h', (isBlank (run.getLast h) == isBlank (next.head h')) = false) :
    squeeze pieces.flatten = pieces.flatMap tighten := by
  induction pieces with
  | nil => rfl
  | cons run pieces ih =>
    rw [List.mem_cons, not_or] at nonempty
    obtain ⟨c, cs, rfl⟩ := List.exists_cons_of_ne_nil (Ne.symm nonempty.1)
    obtain ⟨here, later⟩ := List.forall_mem_cons.mp same
    obtain ⟨turn, turns⟩ := List.isChain_cons.mp turns
    have kind : ∀ d ∈ c :: cs, isBlank d = isBlank c :=
      List.forall_mem_cons.mpr ⟨rfl, isBlank_eq_of_isChain c cs here⟩
    rw [List.flatten_cons, List.flatMap_cons, ← ih nonempty.2 later turns]
    by_cases blank : isBlank c = true
    · have blanks : ∀ d ∈ c :: cs, isBlank d = true := fun d inside => (kind d inside).trans blank
      rw [tighten, if_pos (List.all_eq_true.mpr blanks)]
      refine squeeze_blanks_append ⟨c :: cs, blanks⟩ _ (List.cons_ne_nil c cs) ?_
      cases pieces with
      | nil => simp [startsBlank?]
      | cons next pieces =>
        obtain ⟨h, h', differ⟩ := turn next rfl
        rw [blanks _ (List.getLast_mem h)] at differ
        rw [List.flatten_cons, startsBlank_append _ _ h', startsBlank?, List.head?_eq_some_head h']
        simpa using differ
    · have visible : ∀ d ∈ c :: cs, isBlank d = false := fun d inside =>
        (kind d inside).trans (by simpa using blank)
      rw [tighten, if_neg (by simp [blank]), squeeze_visible_append _ _ visible]

/-- Each maximal run of blanks is squeezed to one space, and nothing else is changed. -/
theorem squeeze_eq_runs (s : List Char) : squeeze s = (runs s).flatMap tighten := by
  have turns := List.isChain_getLast_head_splitBy (fun a b => isBlank a == isBlank b) s
  have whole := squeeze_flatten (runs s) (List.nil_notMem_splitBy _ s)
    (fun run inside => List.isChain_of_mem_splitBy inside) turns
  rwa [runs, List.flatten_splitBy] at whole

end Runs

section Collapse

/-- The blanks that a text begins with are squeezed to one space. -/
theorem squeeze_leading (s : List Char) (blank : startsBlank? s = some true) :
    squeeze s = ' ' :: squeeze (trimStart s) := by
  conv_lhs => rw [← leading_trimStart s]
  refine squeeze_blanks_append (leading s) (trimStart s) ?_ ?_
  · cases s with
    | nil => cases blank
    | cons c cs => simpa [leading, startsBlank?] using blank
  · rw [startsBlank?, Ne, Option.map_eq_some_iff]
    rintro ⟨c, first, visible⟩
    rw [head_trimStart s c first] at visible
    cases visible

/-- A text with a visible end has a word if it has anything. -/
theorem words_ne_nil (s : List Char) (nonempty : s ≠ [])
    (visible : ∀ c, s.getLast? = some c → isBlank c = false) : words s ≠ [] := by
  intro none
  have last := List.getLast?_eq_some_getLast nonempty
  have blank := (words_eq_nil_iff s).mp none _ (List.getLast_mem nonempty)
  rw [visible _ last] at blank
  cases blank

/-- The words of a text with a visible end, with single spaces between them, are the text without
the blanks in front, squeezed. -/
theorem collapse_eq_squeeze_trimStart (s : List Char)
    (visible : ∀ c, s.getLast? = some c → isBlank c = false) :
    collapse s = squeeze (trimStart s) := by
  induction s with
  | nil => rfl
  | cons c cs ih =>
    have inside : ∀ d, cs.getLast? = some d → isBlank d = false := by
      intro d last
      refine visible d ?_
      rw [List.getLast?_cons, last]
      rfl
    by_cases blank : isBlank c = true
    · rw [collapse, words_blank c cs blank, trimStart_cons, if_pos blank]
      exact ih inside
    · have seen : isBlank c = false := by simpa using blank
      rw [trimStart_visible c cs seen, squeeze_visible c cs seen, collapse,
        words_visible c cs seen]
      cases cs with
      | nil => rfl
      | cons d ds =>
        obtain ⟨w, ws, first⟩ := List.exists_cons_of_ne_nil
          (words_ne_nil (d :: ds) (List.cons_ne_nil d ds) inside)
        have rest := ih inside
        rw [collapse, first] at rest
        rw [first]
        by_cases next : isBlank d = true
        · rw [if_neg (by simp [startsBlank?, next]), List.intercalate_cons_cons, rest,
            squeeze_leading (d :: ds) (by simp [startsBlank?, next])]
          rfl
        · have seen' : isBlank d = false := by simpa using next
          rw [trimStart_visible d ds seen'] at rest
          rw [if_pos (by simp [startsBlank?, next]), ← rest, List.modifyHead_cons]
          cases ws <;> rfl

theorem visible_of_head_trim (s : List Char) (c : Char) (first : (trim s).head? = some c) :
    isBlank c = false := by
  obtain ⟨behind, whole⟩ := exists_trimEnd (trimStart s)
  refine head_trimStart s c ?_
  rw [whole, ← trim, List.head?_append, first]
  rfl

theorem visible_of_getLast_trim (s : List Char) (c : Char) (last : (trim s).getLast? = some c) :
    isBlank c = false := by
  rw [trim, trimEnd_eq] at last
  obtain ⟨front, whole⟩ := List.getLast?_eq_some_iff.mp last
  have nonempty : (trimStart s).rdropWhile isBlank ≠ [] := by simp [whole]
  simpa [whole] using List.rdropWhile_last_not isBlank (trimStart s) nonempty

/-- A text with a visible character at either end is not changed by trimming. -/
theorem trim_of_visible (s : List Char) (first : ∀ c, s.head? = some c → isBlank c = false)
    (last : ∀ c, s.getLast? = some c → isBlank c = false) : trim s = s := by
  have front : trimStart s = s := trimStart_behind ⟨[], by simp⟩ s first
  rw [trim, front, trimEnd_eq, List.rdropWhile_eq_self_iff]
  intro nonempty
  rw [last _ (List.getLast?_eq_some_getLast nonempty)]
  exact Bool.false_ne_true

/-- The words of a text with single spaces between them are the trimmed text with its runs of
blanks squeezed. -/
theorem collapse_eq_squeeze_trim (s : List Char) : collapse s = squeeze (trim s) := by
  have bare : trimStart (trim s) = trim s :=
    trimStart_behind ⟨[], by simp⟩ (trim s) (visible_of_head_trim s)
  rw [collapse, ← words_trim, ← collapse,
    collapse_eq_squeeze_trimStart (trim s) (visible_of_getLast_trim s), bare]

theorem visible_of_head_collapse (s : List Char) (c : Char)
    (first : (collapse s).head? = some c) : isBlank c = false := by
  have same := startsBlank_squeeze (trim s)
  rw [← collapse_eq_squeeze_trim, startsBlank?, first, startsBlank?, Option.map_some, eq_comm,
    Option.map_eq_some_iff] at same
  obtain ⟨d, there, alike⟩ := same
  rw [← alike, visible_of_head_trim s d there]

theorem visible_of_getLast_collapse (s : List Char) (c : Char)
    (last : (collapse s).getLast? = some c) : isBlank c = false := by
  rw [collapse_eq_squeeze_trim] at last
  cases there : (trim s).getLast? with
  | none =>
    rw [List.getLast?_eq_none_iff] at there
    rw [there] at last
    cases last
  | some d =>
    have visible := visible_of_getLast_trim s d there
    obtain ⟨front, whole⟩ := List.getLast?_eq_some_iff.mp there
    rw [whole, squeeze_append front [] d visible, squeeze, List.getLast?_concat] at last
    cases last
    exact visible

/-- The visible characters of a text are left as they stand. -/
theorem filter_collapse (s : List Char) :
    ((collapse s).filter fun c => !isBlank c) = s.filter fun c => !isBlank c := by
  have none (gap : Blanks) : (gap.chars.filter fun c => !isBlank c) = [] :=
    List.filter_eq_nil_iff.mpr fun c inside => by simp [gap.blank c inside]
  obtain ⟨front, behind, whole⟩ := exists_trim s
  rw [collapse_eq_squeeze_trim, filter_squeeze _ _ (by simp)]
  conv_rhs => rw [whole, List.filter_append, List.filter_append, none, none]
  simp

theorem words_collapse (s : List Char) : words (collapse s) = words s := by
  rw [collapse_eq_squeeze_trim, words_squeeze, words_trim]

theorem collapse_eq_iff (s t : List Char) : collapse s = collapse t ↔ words s = words t := by
  constructor
  · intro same
    rw [← words_collapse s, same, words_collapse]
  · intro same
    rw [collapse, same, collapse]

theorem collapse_collapse (s : List Char) : collapse (collapse s) = collapse s :=
  (collapse_eq_iff _ _).mpr (words_collapse s)

end Collapse

end ResultLint.Text
