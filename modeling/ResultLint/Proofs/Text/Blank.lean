import Mathlib.Data.List.DropRight
import ResultLint.Text.Blank

/-!
Trimming. A text is its trimmed form with blanks around it, and blanks around a text are lost on
trimming; the end of a text can be trimmed without a look at what stands before a visible character.
-/
namespace ResultLint.Text

/-- A text of blanks only. -/
structure Blanks where
  chars : List Char
  blank : ∀ c ∈ chars, isBlank c = true

/-- The blanks of a given text, where all of its characters are. -/
def Blanks.of (chars : List Char) (blank : chars.all isBlank = true) : Blanks :=
  ⟨chars, List.all_eq_true.mp blank⟩

theorem Blanks.not_mem (gap : Blanks) (c : Char) (visible : isBlank c = false) :
    c ∉ gap.chars := by
  intro inside
  rw [gap.blank c inside] at visible
  cases visible

theorem visible_of_any (mark : List Char) (visible : mark.any isBlank = false) :
    ∀ c ∈ mark, isBlank c = false := by
  simpa using visible

/-- The blanks that a text begins with. -/
def leading (s : List Char) : Blanks :=
  ⟨s.takeWhile isBlank, fun _ inside => List.mem_takeWhile_imp inside⟩

theorem leading_trimStart (s : List Char) : (leading s).chars ++ trimStart s = s :=
  List.takeWhile_append_dropWhile

theorem trimStart_blanks (front : Blanks) (s : List Char) :
    trimStart (front.chars ++ s) = trimStart s :=
  List.dropWhile_append_of_pos front.blank

theorem trimStart_visible (c : Char) (s : List Char) (visible : isBlank c = false) :
    trimStart (c :: s) = c :: s :=
  List.dropWhile_cons_of_neg (by simp [visible])

theorem trimStart_cons (c : Char) (s : List Char) :
    trimStart (c :: s) = if isBlank c then trimStart s else c :: s :=
  List.dropWhile_cons

/-- What is left at the front begins with a visible character. -/
theorem head_trimStart (s : List Char) (c : Char) (first : (trimStart s).head? = some c) :
    isBlank c = false := by
  induction s with
  | nil => cases first
  | cons d s ih =>
    rw [trimStart_cons] at first
    split at first
    · exact ih first
    · next visible =>
      cases first
      simpa using visible

/-- A text that does not begin with a blank is what is left behind blanks. -/
theorem trimStart_behind (front : Blanks) (s : List Char)
    (visible : ∀ c, s.head? = some c → isBlank c = false) : trimStart (front.chars ++ s) = s := by
  rw [trimStart_blanks]
  cases s with
  | nil => rfl
  | cons c cs => exact trimStart_visible c cs (visible c rfl)

theorem trimEnd_eq (s : List Char) : trimEnd s = s.rdropWhile isBlank := by
  induction s with
  | nil => rfl
  | cons c cs ih =>
    rw [trimEnd, ih, List.rdropWhile, List.rdropWhile, List.reverse_cons, List.dropWhile_append]
    cases cs.reverse.dropWhile isBlank with
    | nil => by_cases blank : isBlank c = true <;> simp [blank]
    | cons d ds =>
      obtain ⟨e, es, whole⟩ := List.exists_cons_of_ne_nil
        (List.reverse_ne_nil_iff.mpr (List.cons_ne_nil d ds))
      rw [List.isEmpty_cons, if_neg Bool.false_ne_true, List.reverse_append, whole]
      rfl

theorem trimEnd_blanks (s : List Char) (behind : Blanks) :
    trimEnd (s ++ behind.chars) = trimEnd s := by
  rw [trimEnd_eq, trimEnd_eq, List.rdropWhile, List.reverse_append,
    List.dropWhile_append_of_pos (by simpa using behind.blank)]
  rfl

/-- Behind a visible character only what follows it is trimmed. -/
theorem trimEnd_visible (s : List Char) (c : Char) (rest : List Char)
    (visible : isBlank c = false) :
    trimEnd (s ++ c :: rest) = s ++ c :: trimEnd rest := by
  induction s with
  | nil =>
    rw [List.nil_append, trimEnd]
    cases trimEnd rest <;> simp [visible]
  | cons d s ih =>
    rw [List.cons_append, trimEnd, ih]
    cases s <;> rfl

/-- Signs without blanks keep the end of a text from being trimmed. -/
theorem trimEnd_mark (mark rest : List Char) (visible : ∀ c ∈ mark, isBlank c = false)
    (nonempty : mark ≠ []) : trimEnd (mark ++ rest) = mark ++ trimEnd rest := by
  obtain rfl | ⟨front, last, rfl⟩ := List.eq_nil_or_concat mark
  · exact absurd rfl nonempty
  · rw [List.concat_eq_append, List.append_assoc, List.singleton_append,
      trimEnd_visible front last rest (visible last (by simp)), List.append_assoc]
    rfl

theorem trimEnd_append (s t : List Char) (kept : trimEnd t = t) (nonempty : t ≠ []) :
    trimEnd (s ++ t) = s ++ t := by
  induction s with
  | nil => exact kept
  | cons c cs ih =>
    rw [List.cons_append, trimEnd, ih]
    split
    · next empty => exact absurd (List.append_eq_nil_iff.mp empty).2 nonempty
    · rfl

theorem exists_trimEnd (s : List Char) : ∃ behind : Blanks, s = trimEnd s ++ behind.chars := by
  refine ⟨⟨s.rtakeWhile isBlank, fun _ inside => List.mem_rtakeWhile_imp inside⟩, ?_⟩
  rw [trimEnd_eq]
  exact List.rdropWhile_append_rtakeWhile.symm

/-- A text is its trimmed form with blanks around it. -/
theorem exists_trim (s : List Char) :
    ∃ front behind : Blanks, s = front.chars ++ trim s ++ behind.chars := by
  obtain ⟨behind, ended⟩ := exists_trimEnd (trimStart s)
  refine ⟨leading s, behind, ?_⟩
  rw [trim, List.append_assoc, ← ended]
  exact (leading_trimStart s).symm

/-- On either side of a visible character a text is trimmed for itself. -/
theorem trim_visible (s : List Char) (c : Char) (rest : List Char) (visible : isBlank c = false) :
    trim (s ++ c :: rest) = trimStart s ++ c :: trimEnd rest := by
  have front : trimStart (s ++ c :: rest) = trimStart s ++ c :: rest := by
    induction s with
    | nil => exact trimStart_visible c rest visible
    | cons d s ih =>
      rw [List.cons_append, trimStart_cons, trimStart_cons, ih]
      split <;> rfl
  rw [trim, front, trimEnd_visible (trimStart s) c rest visible]

theorem trim_blanks_append (front : Blanks) (s : List Char) : trim (front.chars ++ s) = trim s := by
  rw [trim, trimStart_blanks, ← trim]

theorem trim_append_blanks (s : List Char) (behind : Blanks) :
    trim (s ++ behind.chars) = trim s := by
  have blank : trimStart behind.chars = [] := List.dropWhile_eq_nil_iff.mpr behind.blank
  rw [trim, trim, trimStart, List.dropWhile_append]
  split
  · next empty =>
    rw [List.isEmpty_iff] at empty
    rw [← trimStart, blank, trimStart, empty]
  · exact trimEnd_blanks _ behind

theorem trim_between (front : Blanks) (s : List Char) (behind : Blanks) :
    trim (front.chars ++ s ++ behind.chars) = trim s := by
  rw [trim_append_blanks, trim_blanks_append]

theorem trim_trim (s : List Char) : trim (trim s) = trim s := by
  obtain ⟨front, behind, whole⟩ := exists_trim s
  conv_rhs => rw [whole, trim_between]

theorem trimEnd_trim (s : List Char) : trimEnd (trim s) = trim s := by
  rw [trim, trimEnd_eq, trimEnd_eq, List.rdropWhile_idempotent]

theorem trim_trimEnd (s : List Char) : trim (trimEnd s) = trim s := by
  obtain ⟨behind, whole⟩ := exists_trimEnd s
  conv_rhs => rw [whole, trim_append_blanks]

/-- Only a text of blanks is trimmed to nothing. -/
theorem trim_eq_nil_iff (s : List Char) : trim s = [] ↔ ∀ c ∈ s, isBlank c = true := by
  constructor
  · intro empty
    obtain ⟨front, behind, whole⟩ := exists_trim s
    rw [whole, empty, List.append_nil, List.forall_mem_append]
    exact ⟨front.blank, behind.blank⟩
  · intro blank
    rw [trim, trimStart, List.dropWhile_eq_nil_iff.mpr blank]
    rfl

end ResultLint.Text
