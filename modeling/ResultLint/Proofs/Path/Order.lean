import ResultLint.Path
import ResultLint.Proofs.Sorting

/-!
The order of paths. Components are compared first by kind and names then by their characters, and
paths by their components as lists; so two paths stand at the same place of the order exactly if
they have the same components, however they are spelled.
-/
namespace ResultLint.Path

/-- The characters of a name; the other components have none. -/
def Component.text : Component → List Char
  | .name text => text
  | _ => []

theorem Component.compare_eq_compareLex :
    Component.compare = compareLex (compareOn Component.rank)
      fun a b => compareOfLessAndEq a.text b.text := by
  funext a b
  cases a <;> cases b <;> rfl

/-- A component is known by its kind and its characters. -/
theorem Component.eq_of_rank_text (a b : Component) (kind : a.rank = b.rank)
    (same : a.text = b.text) : a = b := by
  cases a <;> cases b <;> simp_all [Component.rank, Component.text]

/-- Texts in the order of their characters. The order is given by name, as there are others. -/
theorem transCmp_characters : Std.TransCmp fun s t : List Char => compareOfLessAndEq s t := by
  let order : LE (List Char) := List.instLE
  exact Std.TransOrd.compareOfLessAndEq_of_antisymm_of_trans_of_total_of_not_le List.le_antisymm
    List.le_trans List.le_total List.not_le

theorem eq_of_compare_characters (s t : List Char) (same : compareOfLessAndEq s t = .eq) :
    s = t := by
  let order : LE (List Char) := List.instLE
  exact (compareOfLessAndEq_eq_eq List.le_refl List.not_le).mp same

instance : Std.TransCmp Component.compare := by
  have characters := transCmp_characters
  have texts := transCmp_on Component.text fun s t : List Char => compareOfLessAndEq s t
  rw [Component.compare_eq_compareLex]
  infer_instance

instance : Std.LawfulEqCmp Component.compare where
  eq_of_compare := by
    intro a b same
    rw [Component.compare_eq_compareLex, compareLex_eq_eq] at same
    exact a.eq_of_rank_text b (Std.LawfulEqOrd.eq_of_compare same.1)
      (eq_of_compare_characters _ _ same.2)

theorem compareComponents_eq_compareLex :
    compareComponents = List.compareLex Component.compare := by
  funext as bs
  induction as generalizing bs with
  | nil => cases bs <;> rfl
  | cons a as ih =>
    cases bs with
    | nil => rfl
    | cons b bs => rw [compareComponents, List.compareLex_cons_cons, ih]

instance : Std.TransCmp Path.compare := by
  have lists : Std.TransCmp compareComponents := by
    rw [compareComponents_eq_compareLex]
    infer_instance
  exact transCmp_on Path.components compareComponents

theorem compare_eq_iff (p q : Path) : p.compare q = .eq ↔ p.components = q.components := by
  unfold Path.compare
  rw [compareComponents_eq_compareLex]
  exact Std.LawfulEqCmp.compare_eq_iff_eq

end ResultLint.Path
