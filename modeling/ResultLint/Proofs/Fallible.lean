import ResultLint.Proofs.Lists

/-!
Computations that can fail, one step after another or over the elements of a list. A computation
succeeds if every step does, and otherwise it fails with the first step that fails; what is behind
that step does not matter.
-/
namespace ResultLint

section Steps

variable {α β ε ε' : Type}

theorem exists_ok_of_isOk {x : Except ε α} (succeeds : x.isOk = true) : ∃ a, x = .ok a := by
  cases x with
  | error e => cases succeeds
  | ok a => exact ⟨a, rfl⟩

theorem pure_ok_iff (a b : α) : (pure a : Except ε α) = .ok b ↔ a = b := by
  simp [pure, Except.pure]

theorem pure_error_iff (a : α) (e : ε) : (pure a : Except ε α) = .error e ↔ False := by
  simp [pure, Except.pure]

theorem bind_ok_iff (x : Except ε α) (next : α → Except ε β) (b : β) :
    x >>= next = .ok b ↔ ∃ a, x = .ok a ∧ next a = .ok b := by
  cases x <;> simp [bind, Except.bind]

theorem bind_error_iff (x : Except ε α) (next : α → Except ε β) (e : ε) :
    x >>= next = .error e ↔ x = .error e ∨ ∃ a, x = .ok a ∧ next a = .error e := by
  cases x <;> simp [bind, Except.bind]

/-- Computations with the same errors succeed together. -/
theorem ok_iff_of_error_iff {x : Except ε α} {y : Except ε β}
    (same : ∀ e, x = .error e ↔ y = .error e) : (∃ a, x = .ok a) ↔ ∃ b, y = .ok b := by
  cases x with
  | error e =>
    rw [(same e).mp rfl]
    simp
  | ok a =>
    cases y with
    | error e => exact absurd ((same e).mpr rfl) (by simp)
    | ok b => simp

theorem map_error_iff (x : Except ε α) (f : α → β) (e : ε) :
    x.map f = .error e ↔ x = .error e := by
  cases x <;> simp [Except.map]

theorem mapError_ok_iff (x : Except ε α) (rename : ε → ε') (a : α) :
    x.mapError rename = .ok a ↔ x = .ok a := by
  cases x <;> simp [Except.mapError]

theorem mapError_error_iff (x : Except ε α) (rename : ε → ε') (e : ε') :
    x.mapError rename = .error e ↔ ∃ e', x = .error e' ∧ e = rename e' := by
  cases x <;> simp [Except.mapError, eq_comm]

end Steps

/-- A list is mapped without an error exactly when each element is. -/
theorem mapM_ok_iff {α β ε : Type} (f : α → Except ε β) (xs : List α) (ys : List β) :
    xs.mapM f = .ok ys ↔ List.Forall₂ (fun x y => f x = .ok y) xs ys := by
  induction xs generalizing ys with
  | nil => cases ys <;> simp [pure, Except.pure]
  | cons x xs ih =>
    rw [List.mapM_cons, List.forall₂_cons_left_iff]
    simp only [← ih]
    cases first : f x with
    | error e => simp [bind, Except.bind]
    | ok y =>
      cases rest : xs.mapM f with
      | error e => simp [bind, Except.bind]
      | ok zs => simp [bind, Except.bind, pure, Except.pure, eq_comm]

theorem mapM_congr {α β ε : Type} {f g : α → Except ε β} {xs : List α}
    (same : ∀ x ∈ xs, f x = g x) : xs.mapM f = xs.mapM g := by
  induction xs with
  | nil => rfl
  | cons x xs ih =>
    rw [List.forall_mem_cons] at same
    rw [List.mapM_cons, List.mapM_cons, same.1, ih same.2]

theorem mapM_some_iff {α β : Type} (f : α → Option β) (xs : List α) (ys : List β) :
    xs.mapM f = some ys ↔ List.Forall₂ (fun x y => f x = some y) xs ys := by
  induction xs generalizing ys with
  | nil => cases ys <;> simp
  | cons x xs ih =>
    rw [List.mapM_cons, List.forall₂_cons_left_iff]
    simp only [← ih]
    cases f x <;> cases xs.mapM f <;> simp [eq_comm]

/-- A check over a list passes exactly when it passes for each element. -/
theorem forM_ok_iff {α ε : Type} (f : α → Except ε Unit) (xs : List α) :
    xs.forM f = .ok () ↔ ∀ x ∈ xs, f x = .ok () := by
  induction xs with
  | nil => simp [List.forM, pure, Except.pure]
  | cons x xs ih =>
    rw [List.forall_mem_cons, ← ih]
    change (f x >>= fun _ => xs.forM f) = _ ↔ _
    rw [bind_ok_iff]
    exact ⟨fun ⟨_, first, rest⟩ => ⟨first, rest⟩, fun ⟨first, rest⟩ => ⟨(), first, rest⟩⟩

/-- What goes wrong first in a list: some element fails so, and each one before it succeeds. -/
def FirstFault {α β ε : Type} (f : α → Except ε β) (xs : List α) (e : ε) : Prop :=
  ∃ front x rest, xs = front ++ x :: rest ∧ (∀ y ∈ front, ∃ b, f y = .ok b) ∧ f x = .error e

theorem firstFault_nil {α β ε : Type} (f : α → Except ε β) (e : ε) : ¬ FirstFault f [] e := by
  simp [FirstFault]

theorem firstFault_cons {α β ε : Type} (f : α → Except ε β) (x : α) (xs : List α) (e : ε) :
    FirstFault f (x :: xs) e ↔ f x = .error e ∨ (∃ b, f x = .ok b) ∧ FirstFault f xs e := by
  constructor
  · rintro ⟨front, y, rest, whole, before, failed⟩
    cases front with
    | nil =>
      cases whole
      exact .inl failed
    | cons z front =>
      cases whole
      exact .inr ⟨before x List.mem_cons_self, front, y, rest, rfl,
        fun w inner => before w (List.mem_cons_of_mem _ inner), failed⟩
  · rintro (failed | ⟨passed, front, y, rest, rfl, before, failed⟩)
    · exact ⟨[], x, xs, rfl, by simp, failed⟩
    · exact ⟨x :: front, y, rest, rfl, List.forall_mem_cons.mpr ⟨passed, before⟩, failed⟩

theorem firstFault_mapError {α β ε ε' : Type} (f : α → Except ε β) (rename : ε → ε') (xs : List α)
    (e : ε') :
    FirstFault (fun x => (f x).mapError rename) xs e ↔
      ∃ e', FirstFault f xs e' ∧ e = rename e' := by
  simp only [FirstFault, mapError_ok_iff, mapError_error_iff]
  constructor
  · rintro ⟨front, x, rest, whole, before, e', failed, rfl⟩
    exact ⟨e', ⟨front, x, rest, whole, before, failed⟩, rfl⟩
  · rintro ⟨e', ⟨front, x, rest, whole, before, failed⟩, rfl⟩
    exact ⟨front, x, rest, whole, before, e', failed, rfl⟩

/-- A list is mapped with the error of the first element that fails. -/
theorem mapM_error_iff {α β ε : Type} (f : α → Except ε β) (xs : List α) (e : ε) :
    xs.mapM f = .error e ↔ FirstFault f xs e := by
  induction xs with
  | nil => simp [FirstFault, pure, Except.pure]
  | cons x xs ih =>
    rw [List.mapM_cons, firstFault_cons, ← ih]
    cases f x with
    | error e' => simp [bind, Except.bind]
    | ok b => cases xs.mapM f <;> simp [bind, Except.bind, pure, Except.pure]

end ResultLint
