import Mathlib.Data.List.Forall2

/-!
Lists and options whose members are related one by one, and members that stand out in a list.
Searches that ask related members alike end alike.
-/
namespace ResultLint

section Related

variable {α β γ : Type} {R : α → β → Prop}

theorem rel_cases (a : Option α) (b : Option β) (related : Option.Rel R a b) :
    (a = none ∧ b = none) ∨ ∃ x y, a = some x ∧ b = some y ∧ R x y := by
  cases related with
  | none => exact .inl ⟨rfl, rfl⟩
  | some related => exact .inr ⟨_, _, rfl, rfl, related⟩

theorem forall₂_find? (p : α → Bool) (q : β → Bool) (alike : ∀ a b, R a b → q b = p a)
    (l : List α) (l' : List β) (all : List.Forall₂ R l l') :
    Option.Rel R (l.find? p) (l'.find? q) := by
  induction all with
  | nil => exact .none
  | @cons a b l l' related _ ih =>
    rw [List.find?_cons, List.find?_cons, alike a b related]
    cases p a with
    | true => exact .some related
    | false => exact ih

theorem forall₂_takeWhile (p : α → Bool) (q : β → Bool) (alike : ∀ a b, R a b → q b = p a)
    (l : List α) (l' : List β) (all : List.Forall₂ R l l') :
    List.Forall₂ R (l.takeWhile p) (l'.takeWhile q) := by
  induction all with
  | nil => exact .nil
  | @cons a b l l' related _ ih =>
    rw [List.takeWhile_cons, List.takeWhile_cons, alike a b related]
    cases p a with
    | true => exact .cons related ih
    | false => exact .nil

theorem forall₂_findSome? (f : α → Option γ) (g : β → Option γ) (alike : ∀ a b, R a b → g b = f a)
    (l : List α) (l' : List β) (all : List.Forall₂ R l l') : l'.findSome? g = l.findSome? f := by
  induction all with
  | nil => rfl
  | @cons a b l l' related _ ih =>
    rw [List.findSome?_cons, List.findSome?_cons, alike a b related, ih]

/-- Related lists have a member of a kind together, if related elements are of it together. -/
theorem exists_mem_iff_of_forall₂ {p : α → Prop} {q : β → Prop} {xs : List α} {ys : List β}
    (each : List.Forall₂ R xs ys) (together : ∀ x y, R x y → (p x ↔ q y)) :
    (∃ x ∈ xs, p x) ↔ ∃ y ∈ ys, q y := by
  induction each with
  | nil => simp
  | cons here _ ih => simp [together _ _ here, ih]

/-- A list has a list related to it as soon as each member has something related to it. -/
theorem exists_forall₂_iff {xs : List α} :
    (∃ ys, List.Forall₂ R xs ys) ↔ ∀ x ∈ xs, ∃ y, R x y := by
  induction xs with
  | nil => simp
  | cons x xs ih => simp [List.forall₂_cons_left_iff, ← ih]

end Related

/-- Two members of a list in order stand in it one behind the other. -/
theorem pair_sublist {α : Type} {R : α → α → Prop} (asymm : ∀ a b, R a b → ¬ R b a) (l : List α)
    (ordered : l.Pairwise R) (a b : α) (left : a ∈ l) (right : b ∈ l) (before : R a b) :
    [a, b].Sublist l := by
  induction l with
  | nil => cases left
  | cons c cs ih =>
    rw [List.pairwise_cons] at ordered
    rcases List.mem_cons.mp left with rfl | behind
    · rcases List.mem_cons.mp right with rfl | further
      · exact absurd before (asymm b b before)
      · exact .cons_cons a (List.singleton_sublist.mpr further)
    · rcases List.mem_cons.mp right with rfl | further
      · exact absurd (ordered.1 a behind) (asymm a b before)
      · exact .cons c (ih ordered.2 behind further)

/-- Where all members but one give nothing, that one gives everything. -/
theorem flatMap_eq_of_mem {α β : Type} (f : α → List β) (xs : List α) (x : α) (member : x ∈ xs)
    (once : xs.Nodup) (others : ∀ y ∈ xs, y ≠ x → f y = []) : xs.flatMap f = f x := by
  induction xs with
  | nil => cases member
  | cons y ys ih =>
    -- either the member stands here and all behind it gives nothing, or the other way round
    obtain ⟨absent, once⟩ := List.nodup_cons.mp once
    rw [List.flatMap_cons]
    by_cases here : y = x
    · subst here
      have rest : ys.flatMap f = [] := by
        rw [List.flatMap_eq_nil_iff]
        intro z inside
        refine others z (List.mem_cons_of_mem y inside) ?_
        rintro rfl
        exact absent inside
      rw [rest, List.append_nil]
    · have inside : x ∈ ys := (List.mem_cons.mp member).resolve_left fun same => here same.symm
      rw [others y List.mem_cons_self here, List.nil_append]
      exact ih inside once fun z deeper => others z (List.mem_cons_of_mem y deeper)

end ResultLint
