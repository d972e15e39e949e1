import ResultLint.Proofs.ReturnType.Policy
import ResultLint.ReturnType.OptionsRecord

/-!
Layers of options. Of several layers the last one that says a list decides on it, so layering is
associative, and a layer that says nothing changes nothing. The defaults lie beneath all layers;
where they are laid beneath once more, nothing changes either.
-/
namespace ResultLint.ReturnType

namespace Options

/-- The three lists that options can say. -/
inductive Key where
  | allowedReturnTypes | exemptFunctions | exemptPatterns
  deriving DecidableEq, Repr

def Key.name : Key → String
  | .allowedReturnTypes => "allowedReturnTypes"
  | .exemptFunctions => "exemptFunctions"
  | .exemptPatterns => "exemptPatterns"

/-- The list that holds where nobody says it. -/
def Key.standard : Key → List String
  | .allowedReturnTypes => defaultAllowedReturnTypes
  | .exemptFunctions => defaultExemptFunctions
  | .exemptPatterns => []

/-- What options say about a list. -/
def get (o : Options) : Key → Option (List String)
  | .allowedReturnTypes => o.allowedReturnTypes
  | .exemptFunctions => o.exemptFunctions
  | .exemptPatterns => o.exemptPatterns

theorem ext_get {o o' : Options} (same : ∀ key, o.get key = o'.get key) : o = o' := by
  cases o
  cases o'
  simpa [get] using ⟨same .allowedReturnTypes, same .exemptFunctions, same .exemptPatterns⟩

/-- The options that say these lists. -/
def ofGet (lists : Key → Option (List String)) : Options :=
  ⟨lists .allowedReturnTypes, lists .exemptFunctions, lists .exemptPatterns⟩

theorem get_ofGet (lists : Key → Option (List String)) (key : Key) :
    (ofGet lists).get key = lists key := by
  cases key <;> rfl

/-- Options that say something else about one list. -/
def set (o : Options) (list : Option (List String)) : Key → Options
  | .allowedReturnTypes => { o with allowedReturnTypes := list }
  | .exemptFunctions => { o with exemptFunctions := list }
  | .exemptPatterns => { o with exemptPatterns := list }

theorem get_set (o : Options) (list : Option (List String)) (key other : Key) :
    (o.set list key).get other = if other = key then list else o.get other := by
  cases key <;> cases other <;> rfl

/-- A field is read into the list of its name. -/
theorem readField_ok_iff (o o' : Options) (field : String × Json) :
    o.readField field = .ok o' ↔
      ∃ key list, field.1 = Key.name key ∧ entry field.2 = .ok list ∧ o' = o.set list key := by
  obtain ⟨name, value⟩ := field
  unfold readField
  constructor
  · intro read
    dsimp only at read
    split at read
    · simp only [bind_ok_iff, pure_ok_iff] at read
      obtain ⟨list, entered, rfl⟩ := read
      exact ⟨.allowedReturnTypes, list, rfl, entered, rfl⟩
    · simp only [bind_ok_iff, pure_ok_iff] at read
      obtain ⟨list, entered, rfl⟩ := read
      exact ⟨.exemptFunctions, list, rfl, entered, rfl⟩
    · simp only [bind_ok_iff, pure_ok_iff] at read
      obtain ⟨list, entered, rfl⟩ := read
      exact ⟨.exemptPatterns, list, rfl, entered, rfl⟩
    · cases read
  · rintro ⟨key, list, rfl, entered, rfl⟩
    cases key <;> simp [Key.name, entered, set, bind, Except.bind, pure, Except.pure]

/-- A field is refused if its name is that of no list, and else if its value is none. -/
theorem readField_error_iff (o : Options) (field : String × Json) (fault : Json.Fault) :
    o.readField field = .error fault ↔
      (∃ key, field.1 = Key.name key ∧ entry field.2 = .error fault) ∨
        (∀ key, field.1 ≠ Key.name key) ∧ fault = .unknownField field.1 keys := by
  obtain ⟨name, value⟩ := field
  by_cases known : ∃ key, name = Key.name key
  · obtain ⟨key, rfl⟩ := known
    have read : o.readField (key.name, value) = .error fault ↔ entry value = .error fault := by
      cases key <;> exact map_error_iff (entry value) _ fault
    rw [read]
    constructor
    · exact fun refused => .inl ⟨key, rfl, refused⟩
    · rintro (⟨_, _, refused⟩ | ⟨other, _⟩)
      · exact refused
      · exact absurd rfl (other key)
  · have other (key : Key) : name ≠ key.name := fun same => known ⟨key, same⟩
    have refused : o.readField (name, value) = .error (.unknownField name keys) := by
      unfold readField
      split
      · next same => exact absurd same (other .allowedReturnTypes)
      · next same => exact absurd same (other .exemptFunctions)
      · next same => exact absurd same (other .exemptPatterns)
      · rfl
    rw [refused, Except.error.injEq]
    constructor
    · rintro rfl
      exact .inr ⟨other, rfl⟩
    · rintro (⟨key, same, _⟩ | ⟨_, rfl⟩)
      · exact absurd same (other key)
      · rfl

theorem get_none (key : Key) : none.get key = .none := by
  cases key <;> rfl

theorem get_defaults (key : Key) : defaults.get key = some key.standard := by
  cases key <;> rfl

theorem get_overriddenBy (base layer : Options) (key : Key) :
    (base.overriddenBy layer).get key = (layer.get key).or (base.get key) := by
  cases key <;> simp [get, overriddenBy, Option.orElse_eq_orElse, Option.orElse_eq_or]

theorem overriddenBy_assoc (a b c : Options) :
    (a.overriddenBy b).overriddenBy c = a.overriddenBy (b.overriddenBy c) := by
  refine ext_get fun key => ?_
  simp only [get_overriddenBy, Option.or_assoc]

theorem none_overriddenBy (o : Options) : none.overriddenBy o = o := by
  refine ext_get fun key => ?_
  rw [get_overriddenBy, get_none, Option.or_none]

theorem overriddenBy_none (o : Options) : o.overriddenBy none = o := by
  refine ext_get fun key => ?_
  rw [get_overriddenBy, get_none, Option.none_or]

/-- Of the layers over a base the last one that says a list decides on it. -/
theorem get_foldl_overriddenBy (base : Options) (layers : List Options) (key : Key) :
    (layers.foldl overriddenBy base).get key =
      ((layers.filterMap fun layer => layer.get key).getLast?).or (base.get key) := by
  induction layers generalizing base with
  | nil => simp
  | cons layer layers ih =>
    rw [List.foldl_cons, ih, get_overriddenBy, List.filterMap_cons]
    cases layer.get key with
    | none => rw [Option.none_or]
    | some list =>
      rw [Option.some_or, List.getLast?_cons]
      cases (layers.filterMap fun layer => layer.get key).getLast? <;> rfl

end Options

namespace Policy

/-- The defaults are beneath all options; laying them there before changes nothing. -/
theorem compile_defaults_overriddenBy (o : Options) :
    compile (Options.defaults.overriddenBy o) = compile o := by
  have twice : Options.defaults.overriddenBy (Options.defaults.overriddenBy o) =
      Options.defaults.overriddenBy o := by
    rw [← Options.overriddenBy_assoc]
    rfl
  unfold compile
  rw [twice]

theorem compile_none : compile .none = .ok .default := rfl

end Policy

end ResultLint.ReturnType
