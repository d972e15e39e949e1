import Mathlib.Data.List.Infix
import ResultLint.Text.Search

/-!
One text inside another. A cut finds the first occurrence of a mark and loses nothing, so a text
contains a mark exactly when the mark is an infix of it.
-/
namespace ResultLint.Text

theorem stripStart_some_iff (mark s rest : List Char) :
    stripStart? mark s = some rest ↔ s = mark ++ rest := by
  unfold stripStart?
  rw [List.isPrefixOf?_eq_some_iff_append_eq]
  exact eq_comm

theorem stripStart_none_iff (mark s : List Char) :
    stripStart? mark s = none ↔ ¬ mark <+: s := by
  constructor
  · rintro absent ⟨rest, rfl⟩
    rw [(stripStart_some_iff mark _ rest).mpr rfl] at absent
    cases absent
  · intro absent
    cases stripped : stripStart? mark s with
    | none => rfl
    | some rest =>
      have whole := (stripStart_some_iff mark s rest).mp stripped
      exact absurd ⟨rest, whole.symm⟩ absent

/-- What a cut returns makes up the text again with the mark between. -/
theorem cut_some (mark s before after : List Char) (found : cut? mark s = some (before, after)) :
    s = before ++ mark ++ after := by
  induction s generalizing before with
  | nil =>
    unfold cut? at found
    split at found
    · next empty =>
      cases found
      simp [List.isEmpty_iff.mp empty]
    · cases found
  | cons c cs ih =>
    unfold cut? at found
    split at found
    · next rest stripped =>
      cases found
      exact (stripStart_some_iff mark (c :: cs) after).mp stripped
    · obtain ⟨⟨front, back⟩, inner, same⟩ := Option.map_eq_some_iff.mp found
      cases same
      rw [List.cons_append, List.cons_append, ← ih front inner]

/-- A failed cut means that the mark stands nowhere. -/
theorem cut_none (mark s : List Char) (missing : cut? mark s = none) : ¬ mark <:+: s := by
  induction s with
  | nil =>
    unfold cut? at missing
    rw [List.infix_nil]
    rintro rfl
    simp at missing
  | cons c cs ih =>
    unfold cut? at missing
    split at missing
    · cases missing
    · next stripped =>
      have deeper := ih (Option.map_eq_none_iff.mp missing)
      rw [List.infix_cons_iff]
      rintro (front | inside)
      · exact (stripStart_none_iff mark (c :: cs)).mp stripped front
      · exact deeper inside

/-- A cut is made at the first place where the mark stands. -/
theorem cut_first (mark s before after front rest : List Char)
    (found : cut? mark s = some (before, after)) (whole : s = front ++ (mark ++ rest)) :
    before <+: front := by
  induction s generalizing before front with
  | nil =>
    unfold cut? at found
    split at found
    · cases found
      exact List.nil_prefix
    · cases found
  | cons c cs ih =>
    unfold cut? at found
    split at found
    · cases found
      exact List.nil_prefix
    · next stripped =>
      obtain ⟨⟨start, behind⟩, inner, same⟩ := Option.map_eq_some_iff.mp found
      cases same
      cases front with
      | nil => exact absurd ⟨rest, whole.symm⟩ ((stripStart_none_iff mark (c :: cs)).mp stripped)
      | cons d ds =>
        obtain ⟨rfl, tail⟩ := List.cons.inj whole
        exact List.cons_prefix_cons.mpr ⟨rfl, ih start ds inner tail⟩

theorem contains_iff_infix (part s : List Char) : contains part s = true ↔ part <:+: s := by
  unfold contains
  cases found : cut? part s with
  | none =>
    simpa using cut_none part s found
  | some parts =>
    obtain ⟨before, after⟩ := parts
    have whole := cut_some part s before after found
    simp only [Option.isSome_some, true_iff]
    exact ⟨before, after, whole.symm⟩

/-- There is no cut exactly where the mark stands nowhere. -/
theorem cut_eq_none_iff (mark s : List Char) : cut? mark s = none ↔ ¬ mark <:+: s := by
  rw [← contains_iff_infix, contains]
  cases cut? mark s <;> simp

theorem stripStart_char (mark c : Char) (cs : List Char) :
    stripStart? [mark] (c :: cs) = if c = mark then some cs else none := by
  by_cases same : c = mark
  · rw [if_pos same, stripStart_some_iff, same]
    rfl
  · rw [if_neg same, stripStart_none_iff, List.singleton_prefix_cons_iff]
    exact Ne.symm same

/-- A cut at one character is made before the first one of its kind. -/
theorem cut_char_iff (mark : Char) (s before after : List Char) :
    cut? [mark] s = some (before, after) ↔ s = before ++ mark :: after ∧ mark ∉ before := by
  induction s generalizing before with
  | nil => simp [cut?]
  | cons c cs ih =>
    rw [cut?, stripStart_char]
    by_cases same : c = mark
    · subst same
      rw [if_pos rfl]
      cases before with
      | nil => simp
      | cons b bs =>
        refine iff_of_false (by simp) ?_
        rintro ⟨whole, absent⟩
        cases whole
        exact absent List.mem_cons_self
    · rw [if_neg same]
      cases before with
      | nil => simp [same]
      | cons b bs =>
        have inner := ih bs
        constructor
        · intro found
          obtain ⟨⟨front, back⟩, cut, parts⟩ := Option.map_eq_some_iff.mp found
          cases parts
          obtain ⟨whole, absent⟩ := inner.mp cut
          exact ⟨by rw [whole]; rfl, by simp [absent, Ne.symm same]⟩
        · rintro ⟨whole, absent⟩
          obtain ⟨rfl, rest⟩ := List.cons.inj whole
          rw [List.mem_cons, not_or] at absent
          rw [inner.mpr ⟨rest, absent.2⟩]
          rfl

/-- Pieces between separators are those of the library's function. -/
theorem splitOn_eq (separator : Char) (s : List Char) :
    splitOn separator s = s.splitOn separator := by
  induction s with
  | nil => rfl
  | cons c cs ih =>
    rw [splitOn, ih, List.splitOn_cons_eq_if_modifyHead]
    simp only [beq_iff_eq]
    split
    · rfl
    · obtain ⟨p, ps, parts⟩ := List.exists_cons_of_ne_nil (List.splitOn_ne_nil separator cs)
      rw [parts]
      rfl

/-- A piece has the characters of its text, and no separator. -/
theorem piece_of_splitOn (separator : Char) (s piece : List Char)
    (member : piece ∈ splitOn separator s) : separator ∉ piece ∧ piece ⊆ s := by
  induction s generalizing piece with
  | nil =>
    rw [splitOn, List.mem_singleton] at member
    simp [member]
  | cons c cs ih =>
    rw [splitOn] at member
    split at member
    · rcases List.mem_cons.mp member with rfl | rest
      · simp
      · obtain ⟨free, inside⟩ := ih piece rest
        exact ⟨free, List.subset_cons_of_subset c inside⟩
    · next apart =>
      have joined (p : List Char) (free : separator ∉ p) (inside : p ⊆ cs) :
          separator ∉ c :: p ∧ c :: p ⊆ c :: cs :=
        ⟨by simp [free, Ne.symm apart], List.cons_subset_cons c inside⟩
      cases parts : splitOn separator cs with
      | nil =>
        rw [parts] at member
        rw [List.mem_singleton.mp member]
        exact joined [] List.not_mem_nil (List.nil_subset cs)
      | cons p ps =>
        rw [parts] at ih member
        rcases List.mem_cons.mp member with rfl | rest
        · obtain ⟨free, inside⟩ := ih p List.mem_cons_self
          exact joined p free inside
        · obtain ⟨free, inside⟩ := ih piece (List.mem_cons_of_mem p rest)
          exact ⟨free, List.subset_cons_of_subset c inside⟩

/-- Pieces that are each ended by a separator are read back, unless one of them holds a separator
itself. -/
theorem splitOn_ended_iff (separator : Char) (pieces : List (List Char)) :
    splitOn separator (pieces.flatMap (· ++ [separator])) = pieces ++ [[]] ↔
      ∀ piece ∈ pieces, separator ∉ piece := by
  constructor
  · intro whole piece member
    exact (piece_of_splitOn separator _ piece (by rw [whole]; simp [member])).1
  · intro free
    induction pieces with
    | nil => rfl
    | cons piece rest ih =>
      rw [List.forall_mem_cons] at free
      rw [List.flatMap_cons, List.append_assoc, List.singleton_append, splitOn_eq,
        List.splitOn_append_cons_self_of_not_mem free.1, ← splitOn_eq, ih free.2]
      rfl

end ResultLint.Text
