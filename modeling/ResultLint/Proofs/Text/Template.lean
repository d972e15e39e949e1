import ResultLint.Proofs.Text.Occurrence
import ResultLint.Proofs.Text.Slice
import ResultLint.Text.Template

/-!
Rendering as the loop that it stands for. The loop looks for marks by byte position and slices what
is left of the template there; it always comes to its end, no slice falls into a character, and what
it puts together is the rendered text.
-/
namespace ResultLint.Text

/-- The byte position at which a mark stands first in a text. -/
def FirstAt (mark s : List Char) (position : Nat) : Prop :=
  ∃ before after, s = before ++ (mark ++ after) ∧ byteLength before = position ∧
    ∀ front rest, s = front ++ (mark ++ rest) → position ≤ byteLength front

/-- A cut is made where the mark stands first, and takes the text apart there. -/
theorem firstAt_iff_cut (mark s : List Char) (position : Nat) :
    FirstAt mark s position ↔
      ∃ before after, cut? mark s = some (before, after) ∧ byteLength before = position := by
  constructor
  · rintro ⟨before, after, whole, rfl, first⟩
    cases found : cut? mark s with
    | none => exact absurd ⟨before, after, by rw [whole, List.append_assoc]⟩ (cut_none mark s found)
    | some parts =>
      obtain ⟨front, rest⟩ := parts
      have apart : s = front ++ (mark ++ rest) := by
        rw [cut_some mark s front rest found, List.append_assoc]
      obtain ⟨more, rfl⟩ := cut_first mark s front rest before after found whole
      have bound := first front rest apart
      rw [byteLength_append] at bound
      exact ⟨front, rest, rfl, by rw [byteLength_append]; omega⟩
  · rintro ⟨before, after, found, rfl⟩
    refine ⟨before, after, by rw [cut_some mark s before after found, List.append_assoc], rfl, ?_⟩
    intro front rest whole
    obtain ⟨more, rfl⟩ := cut_first mark s before after front rest found whole
    rw [byteLength_append]
    exact Nat.le_add_right _ _

/-- The slices at the place of a cut: what stands before the mark, what stands behind it, and the
mark with all behind it. -/
theorem slices_of_cut (mark s before after : List Char)
    (found : cut? mark s = some (before, after)) :
    takeBytes? (byteLength before) s = some before ∧
      dropBytes? (byteLength before + byteLength mark) s = some after ∧
      dropBytes? (byteLength before) s = some (mark ++ after) := by
  have whole := cut_some mark s before after found
  refine ⟨?_, ?_, ?_⟩
  · rw [whole, List.append_assoc, takeBytes_append]
  · rw [whole, ← byteLength_append, dropBytes_append]
  · rw [whole, List.append_assoc, dropBytes_append]

namespace Template

theorem byteLength_openMark : byteLength openMark = 2 := by
  decide

theorem byteLength_closeMark : byteLength closeMark = 2 := by
  decide

/-- What the loop puts in place of a slot, which opens and closes at byte positions: the first value
of its name, or else the slot as it is written. -/
inductive Filled (values : Values) (rest inside : List Char) (opens closes : Nat) :
    List Char → Prop
  | value (front back : Values) (value : List Char)
      (listed : values = front ++ (trim inside, value) :: back)
      (first : ∀ entry ∈ front, entry.1 ≠ trim inside) :
      Filled values rest inside opens closes value
  | written (text : List Char) (unknown : ∀ entry ∈ values, entry.1 ≠ trim inside)
      (copied : slice? rest opens (opens + 2 + closes + 2) = some text) :
      Filled values rest inside opens closes text

/-- The loop over what is left of a template, with every slice that it takes. A byte position inside
a character gives no slice and would stop it. -/
inductive Substitutes (values : Values) : List Char → List Char → Prop
  | plain (rest : List Char) (nowhere : ¬ openMark <:+: rest) : Substitutes values rest rest
  | unclosed (rest before behind tail : List Char) (opens : Nat)
      (found : FirstAt openMark rest opens) (copied : takeBytes? opens rest = some before)
      (entered : dropBytes? (opens + 2) rest = some behind) (nowhere : ¬ closeMark <:+: behind)
      (kept : dropBytes? opens rest = some tail) : Substitutes values rest (before ++ tail)
  | slot (rest before behind inside text onward out : List Char) (opens closes : Nat)
      (found : FirstAt openMark rest opens) (copied : takeBytes? opens rest = some before)
      (entered : dropBytes? (opens + 2) rest = some behind)
      (ended : FirstAt closeMark behind closes) (named : takeBytes? closes behind = some inside)
      (filled : Filled values rest inside opens closes text)
      (left : dropBytes? (closes + 2) behind = some onward)
      (further : Substitutes values onward out) :
      Substitutes values rest (before ++ text ++ out)

/-- A value is looked up as the first one of its name. -/
theorem lookup_eq_some_iff (values : Values) (name value : List Char) :
    values.lookup name = some value ↔ ∃ front back,
      values = front ++ (name, value) :: back ∧ ∀ entry ∈ front, entry.1 ≠ name := by
  simp only [List.lookup_eq_some_iff, bne_iff_ne, ne_comm]

theorem lookup_eq_none_iff (values : Values) (name : List Char) :
    values.lookup name = none ↔ ∀ entry ∈ values, entry.1 ≠ name := by
  simp only [List.lookup_eq_none_iff, bne_iff_ne, ne_comm]

/-- Where a slot is cut out, the loop fills it as it is rendered. -/
theorem filled_iff_fill (values : Values) (rest before behind inside onward text : List Char)
    (opened : cut? openMark rest = some (before, behind))
    (closed : cut? closeMark behind = some (inside, onward)) :
    Filled values rest inside (byteLength before) (byteLength inside) text ↔
      text = fill values inside := by
  have written : slice? rest (byteLength before)
      (byteLength before + 2 + byteLength inside + 2) =
      some (openMark ++ inside ++ closeMark) := by
    have whole : rest = before ++ (openMark ++ inside ++ closeMark) ++ onward := by
      rw [cut_some _ _ _ _ opened, cut_some _ _ _ _ closed]
      simp only [List.append_assoc]
    have middle := slice_middle before (openMark ++ inside ++ closeMark) onward
    rw [← whole, byteLength_append, byteLength_append, byteLength_openMark,
      byteLength_closeMark] at middle
    rw [← middle]
    congr 1
    omega
  unfold fill
  constructor
  · intro filled
    cases filled with
    | value front back _ listed first =>
      rw [(lookup_eq_some_iff values _ _).mpr ⟨front, back, listed, first⟩]
    | written text unknown copied =>
      rw [(lookup_eq_none_iff values _).mpr unknown]
      rw [written] at copied
      exact (Option.some.inj copied).symm
  · rintro rfl
    cases known : values.lookup (trim inside) with
    | none => exact .written _ ((lookup_eq_none_iff values _).mp known) written
    | some value =>
      obtain ⟨front, back, listed, first⟩ := (lookup_eq_some_iff values _ value).mp known
      exact .value front back value listed first

/-- What is left behind a slot is shorter. -/
theorem length_onward_lt (rest before behind inside onward : List Char)
    (opened : cut? openMark rest = some (before, behind))
    (closed : cut? closeMark behind = some (inside, onward)) : onward.length < rest.length := by
  have first := congrArg List.length (cut_some _ _ _ _ opened)
  have second := congrArg List.length (cut_some _ _ _ _ closed)
  simp only [List.length_append] at first second
  have mark : 0 < openMark.length := by decide
  omega

/-- More fuel than the text has characters changes nothing. -/
theorem renderSlots_of_length_le (values : Values) (fuel : Nat) (s : List Char)
    (enough : s.length ≤ fuel) : renderSlots values fuel s = render values s := by
  unfold render
  -- on the length, as what is left behind a slot is shorter than the text it stands in
  induction size : s.length using Nat.strongRecOn generalizing fuel s with
  | ind n ih =>
    subst size
    cases opened : cut? openMark s with
    | none => cases fuel <;> cases s.length <;> simp [renderSlots, opened]
    | some parts =>
      obtain ⟨before, behind⟩ := parts
      cases closed : cut? closeMark behind with
      | none => cases fuel <;> cases s.length <;> simp [renderSlots, opened, closed]
      | some parts =>
        obtain ⟨inside, onward⟩ := parts
        have shorter := length_onward_lt s before behind inside onward opened closed
        obtain ⟨more, rfl⟩ : ∃ more, fuel = more + 1 := ⟨fuel - 1, by omega⟩
        obtain ⟨own, length⟩ : ∃ own, s.length = own + 1 := ⟨s.length - 1, by omega⟩
        rw [length]
        simp only [renderSlots, opened, closed]
        rw [ih _ shorter more onward (by omega) rfl, ih _ shorter own onward (by omega) rfl]

/-- One turn of the loop: up to the first slot, the slot, and what is left behind it. -/
theorem render_eq (values : Values) (s : List Char) :
    render values s = match cut? openMark s with
      | none => s
      | some (before, behind) =>
        match cut? closeMark behind with
        | none => s
        | some (inside, onward) => before ++ fill values inside ++ render values onward := by
  rw [← renderSlots_of_length_le values (s.length + 1) s (Nat.le_succ _), renderSlots]
  cases opened : cut? openMark s with
  | none => rfl
  | some parts =>
    obtain ⟨before, behind⟩ := parts
    cases closed : cut? closeMark behind with
    | none => simp only [closed]
    | some parts =>
      obtain ⟨inside, onward⟩ := parts
      have shorter := length_onward_lt s before behind inside onward opened closed
      simp only [closed]
      rw [renderSlots_of_length_le values s.length onward (Nat.le_of_lt shorter)]

/-- Whatever the loop comes to is the rendered text. -/
theorem eq_render_of_substitutes (values : Values) (template out : List Char)
    (run : Substitutes values template out) : out = render values template := by
  induction run with
  | plain rest nowhere =>
    rw [render_eq, (cut_eq_none_iff _ _).mpr nowhere]
  | unclosed rest before behind tail opens found copied entered nowhere kept =>
    obtain ⟨front, after, opened, rfl⟩ := (firstAt_iff_cut _ _ _).mp found
    obtain ⟨taken, dropped, mark⟩ := slices_of_cut openMark rest front after opened
    rw [byteLength_openMark, entered] at dropped
    rw [copied] at taken
    rw [kept] at mark
    cases taken
    cases dropped
    cases mark
    rw [render_eq, opened]
    dsimp only
    rw [(cut_eq_none_iff _ _).mpr nowhere, cut_some _ _ _ _ opened, List.append_assoc]
  | slot rest before behind inside text onward out opens closes found copied entered ended named
      filled left further ih =>
    obtain ⟨front, after, opened, rfl⟩ := (firstAt_iff_cut _ _ _).mp found
    obtain ⟨taken, dropped, -⟩ := slices_of_cut openMark rest front after opened
    rw [byteLength_openMark, entered] at dropped
    rw [copied] at taken
    cases taken
    cases dropped
    obtain ⟨within, back, closed, rfl⟩ := (firstAt_iff_cut _ _ _).mp ended
    obtain ⟨taken, dropped, -⟩ := slices_of_cut closeMark behind within back closed
    rw [byteLength_closeMark, left] at dropped
    rw [named] at taken
    cases taken
    cases dropped
    rw [render_eq, opened]
    dsimp only
    rw [closed]
    dsimp only
    rw [← ih,
      (filled_iff_fill values rest before behind inside onward text opened closed).mp filled]

/-- The loop comes to its end, whatever the template is. -/
theorem substitutes_render (values : Values) (template : List Char) :
    Substitutes values template (render values template) := by
  induction size : template.length using Nat.strongRecOn generalizing template with
  | ind n ih =>
    rw [render_eq]
    cases opened : cut? openMark template with
    | none => exact .plain template (cut_none _ _ opened)
    | some parts =>
      obtain ⟨before, behind⟩ := parts
      obtain ⟨taken, dropped, mark⟩ := slices_of_cut openMark template before behind opened
      have found := (firstAt_iff_cut _ _ _).mpr ⟨before, behind, opened, rfl⟩
      rw [byteLength_openMark] at dropped
      dsimp only
      cases closed : cut? closeMark behind with
      | none =>
        have whole : template = before ++ (openMark ++ behind) := by
          rw [cut_some _ _ _ _ opened, List.append_assoc]
        have run := @Substitutes.unclosed values template before behind _ _ found taken
          dropped (cut_none _ _ closed) mark
        rw [← whole] at run
        exact run
      | some parts =>
        obtain ⟨inside, onward⟩ := parts
        obtain ⟨inner, left, -⟩ := slices_of_cut closeMark behind inside onward closed
        have ended := (firstAt_iff_cut _ _ _).mpr ⟨inside, onward, closed, rfl⟩
        rw [byteLength_closeMark] at left
        have shorter := length_onward_lt template before behind inside onward opened closed
        have filled := (filled_iff_fill values template before behind inside onward _ opened
          closed).mpr rfl
        exact .slot template before behind inside _ onward _ _ _ found taken dropped ended inner
          filled left (ih _ (size ▸ shorter) onward rfl)

theorem substitutes_iff (values : Values) (template out : List Char) :
    Substitutes values template out ↔ out = render values template := by
  constructor
  · exact eq_render_of_substitutes values template out
  · rintro rfl
    exact substitutes_render values template

/-- Without values a template stays as it is. -/
theorem render_nil (template : List Char) : render [] template = template := by
  induction size : template.length using Nat.strongRecOn generalizing template with
  | ind n ih =>
    rw [render_eq]
    cases opened : cut? openMark template with
    | none => rfl
    | some parts =>
      obtain ⟨before, behind⟩ := parts
      dsimp only
      cases closed : cut? closeMark behind with
      | none => rfl
      | some parts =>
        obtain ⟨inside, onward⟩ := parts
        have shorter := length_onward_lt template before behind inside onward opened closed
        dsimp only
        rw [ih _ (size ▸ shorter) onward rfl, cut_some _ _ _ _ opened, cut_some _ _ _ _ closed]
        simp only [fill, List.lookup_nil, List.append_assoc]

end Template

end ResultLint.Text
