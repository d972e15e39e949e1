import ResultLint.Proofs.Fallible

/-!
Stable sorting. A list is stably sorted from another one if it has the same members in the order
of a comparison, and members that the comparison does not tell apart in the order in which they
were. There is exactly one such list, which merge sort returns. What fails first in a sorted list is
its least member that fails.
-/
namespace ResultLint

/-- Comparing values by what a function makes of them keeps to the laws of a comparison. -/
theorem transCmp_on {α β : Type} (f : α → β) (order : β → β → Ordering) [Std.TransCmp order] :
    Std.TransCmp fun a b => order (f a) (f b) where
  eq_swap := Std.OrientedCmp.eq_swap
  isLE_trans := Std.TransCmp.isLE_trans

/-- Members that are all in order with each other come out of merge sort as they stand. -/
theorem filter_mergeSort {α : Type} {le : α → α → Bool}
    (trans : ∀ a b c, le a b = true → le b c = true → le a c = true)
    (total : ∀ a b, (le a b || le b a) = true) (p : α → Bool)
    (tied : ∀ a b, p a = true → p b = true → le a b = true) (xs : List α) :
    (xs.mergeSort le).filter p = xs.filter p := by
  have ordered : (xs.filter p).Pairwise fun a b => le a b = true := by
    rw [List.pairwise_filter]
    exact List.pairwise_of_forall tied
  have inside := (List.sublist_mergeSort trans total ordered List.filter_sublist).filter p
  rw [List.filter_filter] at inside
  simp only [Bool.and_self] at inside
  exact (inside.eq_of_length ((List.mergeSort_perm xs le).filter p).length_eq.symm).symm

/-- The second list is the first one in the order of a comparison, ties left as they are. -/
structure StablySorted {α : Type} (order : α → α → Ordering) (xs ys : List α) : Prop where
  perm : ys.Perm xs
  sorted : ys.Pairwise fun a b => (order a b).isLE = true
  stable : ∀ a ∈ xs, (ys.filter fun b => order a b == .eq) = xs.filter fun b => order a b == .eq

namespace StablySorted

section Comparisons

variable {α : Type} {order : α → α → Ordering} [Std.TransCmp order]

/-- The first members of two sorted lists with the same members are not told apart. -/
theorem heads_tie {x y : α} {xs ys : List α} (perm : (y :: ys).Perm (x :: xs))
    (left : (x :: xs).Pairwise fun a b => (order a b).isLE = true)
    (right : (y :: ys).Pairwise fun a b => (order a b).isLE = true) : order x y = .eq := by
  have below : (order x y).isLE = true := by
    rcases List.mem_cons.mp (perm.subset List.mem_cons_self) with rfl | member
    · simp [Std.ReflCmp.compare_self]
    · exact List.rel_of_pairwise_cons left member
  have above : (order y x).isLE = true := by
    rcases List.mem_cons.mp (perm.symm.subset List.mem_cons_self) with rfl | member
    · simp [Std.ReflCmp.compare_self]
    · exact List.rel_of_pairwise_cons right member
  exact Std.OrientedCmp.isLE_antisymm below above

/-- Sorted lists with the same members and the same ties are one list. -/
theorem eq_of_ties (xs ys : List α) (perm : ys.Perm xs)
    (left : xs.Pairwise fun a b => (order a b).isLE = true)
    (right : ys.Pairwise fun a b => (order a b).isLE = true)
    (ties : ∀ a ∈ xs, (ys.filter fun b => order a b == .eq) = xs.filter fun b => order a b == .eq) :
    ys = xs := by
  induction xs generalizing ys with
  | nil => exact perm.eq_nil
  | cons x xs ih =>
    cases ys with
    | nil => exact absurd perm.symm.eq_nil (by simp)
    | cons y ys =>
      have tie : order x y = .eq := heads_tie perm left right
      have heads : y = x := by
        have classes := ties x List.mem_cons_self
        rw [List.filter_cons_of_pos (by simp [tie]),
          List.filter_cons_of_pos (by simp [Std.ReflCmp.compare_self])] at classes
        exact (List.cons.inj classes).1
      subst heads
      rw [ih ys perm.cons_inv left.tail right.tail]
      intro a member
      have classes := ties a (List.mem_cons_of_mem y member)
      rw [List.filter_cons, List.filter_cons] at classes
      split at classes
      · exact (List.cons.inj classes).2
      · exact classes

theorem unique {xs ys zs : List α} (left : StablySorted order xs ys)
    (right : StablySorted order xs zs) : ys = zs :=
  eq_of_ties zs ys (left.perm.trans right.perm.symm) right.sorted left.sorted fun a member =>
    have origin := right.perm.subset member
    (left.stable a origin).trans (right.stable a origin).symm

theorem mergeSort (xs : List α) :
    StablySorted order xs (xs.mergeSort fun a b => (order a b).isLE) := by
  have trans (a b c : α) : (order a b).isLE = true → (order b c).isLE = true →
      (order a c).isLE = true := Std.TransCmp.isLE_trans
  have total (a b : α) : ((order a b).isLE || (order b a).isLE) = true := by
    have swapped : order b a = (order a b).swap := Std.OrientedCmp.eq_swap
    rw [swapped]
    cases order a b <;> rfl
  refine ⟨List.mergeSort_perm _ _, List.pairwise_mergeSort trans total xs, fun a _ => ?_⟩
  refine filter_mergeSort trans total _ (fun b c first second => ?_) xs
  have swapped : order b a = .eq := Std.OrientedCmp.eq_symm (beq_iff_eq.mp first)
  rw [Std.TransCmp.eq_trans swapped (beq_iff_eq.mp second)]
  rfl

end Comparisons

variable {α : Type} {order : α → α → Ordering} {xs ys : List α}

/-- Leaving members out of both lists keeps the second one stably sorted. -/
theorem filter (whole : StablySorted order xs ys) (p : α → Bool) :
    StablySorted order (xs.filter p) (ys.filter p) where
  perm := whole.perm.filter p
  sorted := whole.sorted.filter p
  stable a member := by
    rw [List.filter_comm, whole.stable a (List.mem_of_mem_filter member), List.filter_comm]

/-- A comparison that agrees on the members sorts them the same way. -/
theorem congr (whole : StablySorted order xs ys) (order' : α → α → Ordering)
    (agree : ∀ a ∈ xs, ∀ b ∈ xs, order a b = order' a b) : StablySorted order' xs ys where
  perm := whole.perm
  sorted := whole.sorted.imp_of_mem fun {a b} first second below => by
    rw [← agree a (whole.perm.subset first) b (whole.perm.subset second)]
    exact below
  stable a member := by
    have left : (ys.filter fun b => order' a b == .eq) = ys.filter fun b => order a b == .eq :=
      List.filter_congr fun b inside => by rw [agree a member b (whole.perm.subset inside)]
    have right : (xs.filter fun b => order' a b == .eq) = xs.filter fun b => order a b == .eq :=
      List.filter_congr fun b inside => by rw [agree a member b inside]
    rw [left, right, whole.stable a member]

end StablySorted

/-- In a sorted list without different members that tie, the first fault is that of the least
member that fails. -/
theorem firstFault_iff_of_sorted {α β ε : Type} {order : α → α → Ordering} [Std.TransCmp order]
    (f : α → Except ε β) (xs : List α) (sorted : xs.Pairwise fun x y => (order x y).isLE = true)
    (apart : ∀ x ∈ xs, ∀ y ∈ xs, order x y = .eq → x = y) (e : ε) :
    FirstFault f xs e ↔
      ∃ x ∈ xs, f x = .error e ∧ ∀ y ∈ xs, order y x = .lt → ∃ b, f y = .ok b := by
  constructor
  · rintro ⟨front, x, rest, rfl, before, failed⟩
    refine ⟨x, by simp, failed, fun y member below => ?_⟩
    have tail := (List.pairwise_append.mp sorted).2.1
    rcases List.mem_append.mp member with early | late
    · exact before y early
    · have above : (order x y).isLE = true := by
        rcases List.mem_cons.mp late with rfl | late
        · simp [Std.ReflCmp.compare_self]
        · exact List.rel_of_pairwise_cons tail late
      rw [Std.OrientedCmp.gt_of_lt below] at above
      cases above
  · rintro ⟨x, member, failed, before⟩
    -- some member fails, so there is a first one that does, and it can only be this one
    cases whole : xs.mapM f with
    | ok ys =>
      obtain ⟨y, passed⟩ := exists_forall₂_iff.mp ⟨ys, (mapM_ok_iff f xs ys).mp whole⟩ x member
      rw [failed] at passed
      cases passed
    | error e' =>
      have first := (mapM_error_iff f xs e').mp whole
      suffices e' = e from this ▸ first
      obtain ⟨front, z, rest, rfl, early, broken⟩ := first
      have same : z = x := by
        rcases List.mem_append.mp member with ahead | behind
        · obtain ⟨b, passed⟩ := early x ahead
          rw [failed] at passed
          cases passed
        · rcases List.mem_cons.mp behind with rfl | behind
          · rfl
          · have below := List.rel_of_pairwise_cons (List.pairwise_append.mp sorted).2.1 behind
            rcases Ordering.isLE_iff_eq_lt_or_eq_eq.mp below with less | tie
            · obtain ⟨b, passed⟩ := before z (by simp) less
              rw [broken] at passed
              cases passed
            · exact apart z (by simp) x member tie
      rw [same, failed] at broken
      exact Except.error.inj broken.symm

end ResultLint
