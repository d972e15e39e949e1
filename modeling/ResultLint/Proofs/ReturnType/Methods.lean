import ResultLint.Proofs.ReturnType.Finding
import ResultLint.Proofs.Source.Methods

/-!
What methods are to the rule. The head of a method, as it is written, decides whether it is an
accessor, the constructor of a class or a plain method, and only plain ones are examined.
-/
namespace ResultLint.ReturnType

open Source

/-- Constructors and accessors are left alone, whatever is required of other functions. -/
theorem Policy.examine_special (policy : Policy) (ctx : FileContext) (f : FunctionNode)
    (key : Option String) (kind : MethodKind) (form : f.form = .method key kind)
    (special : kind ≠ .method) : policy.examine f ctx = none := by
  have unlike : kind = .constructor ∨ kind = .get ∨ kind = .set := by
    cases kind <;> simp at special ⊢
  have skipped : isEligible f = false := by
    rw [← Bool.not_eq_true, isEligible_iff, not_not]
    exact .special key kind form unlike
  simp [Policy.examine, skipped]

/-- Every method of a definition or of an overload in a class has a head, and the head says what it
is lowered to. It is an accessor if one of the keywords stands in front of its name, and a name
spelled like one makes none; else it is the constructor if it stands directly in a class body under
one of the names of constructors; else it is a plain method. Its key is its name if that is a word,
without the number sign of a private one. -/
theorem methods_classified [Recovery] (source : List Char) (dialect : Dialect) (t : Tree)
    (read : tree? source dialect = some t) (c : Cursor) (visited : c ∈ Cursor.walk t)
    (method : c.focus.kind = .methodDefinition ∨
      c.focus.kind = .methodSignature ∧ c.inClass = true) :
    (∃ named tokens name, MethodHeading source c.focus named tokens name) ∧
    ∀ named tokens name, MethodHeading source c.focus named tokens name →
      ∃ f ∈ (SourceFile.parse source dialect).functions, functionAt? source c = some f ∧
        ∃ kind, f.form = .method name.key? kind ∧
          (kind = .get ↔ "get" ∈ tokens) ∧
          (kind = .set ↔ "set" ∈ tokens) ∧
          (kind = .constructor ↔ "get" ∉ tokens ∧ "set" ∉ tokens ∧
            c.inClass = true ∧ name.text ∈ MemberName.constructors) ∧
          (kind ≠ .method → ∀ policy ctx, Policy.examine policy f ctx = none) := by
  have sort : c.focus.kind.isMethod = true := by
    rcases method with same | ⟨same, _⟩ <;> rw [same] <;> rfl
  obtain ⟨isNamed, front, named, tokens, name, headed⟩ :=
    methods_headed source dialect t read c visited sort
  have form : form? source c = some (.method name.key? (methodKind source c)) := by
    unfold form?
    rw [isNamed, methodKey?_eq headed.field headed.bears]
    rcases method with same | ⟨same, inClass⟩
    · simp [same]
    · simp [same, inClass]
  obtain ⟨f, lowered, shape⟩ : ∃ f, functionAt? source c = some f ∧
      f.form = .method name.key? (methodKind source c) := by
    unfold functionAt?
    rw [form]
    exact ⟨_, rfl, rfl⟩
  have listed : f ∈ (SourceFile.parse source dialect).functions := by
    rw [SourceFile.parse_of_tree source dialect t read]
    exact List.mem_filterMap.mpr ⟨c, visited, lowered⟩
  refine ⟨⟨named, tokens, name, headed.heading⟩, fun named' tokens' name' heading => ?_⟩
  obtain ⟨rfl, rfl, rfl⟩ := headed.heading.unique heading
  obtain ⟨getting, setting, constructing⟩ := headed.methodKind_eq
  exact ⟨f, listed, lowered, methodKind source c, shape, getting, setting, constructing,
    fun special policy ctx => policy.examine_special ctx f _ _ shape special⟩

/-- The accessor of a class that is named like its keyword. -/
theorem methods_classified_getter :
    let source := "class A { get get() {} }".toList
    ∃ f ∈ (SourceFile.parse source .typescript).functions, f.form = .method (some "get") .get ∧
      ∀ policy ctx, Policy.examine policy f ctx = none := by
  intro source
  have found : (tree? source .typescript).any (fun t => (Cursor.walk t).any fun c =>
      c.focus.kind == .methodDefinition && c.focus.label.start == 10 &&
        (Tree.inRole? .name c.focus.children).any fun named =>
          named.label.start == 14 && named.label.stop == 17) = true := by
    decide +kernel
  obtain ⟨t, read, found⟩ := (Option.any_eq_true _ _).mp found
  obtain ⟨c, visited, here⟩ := List.any_eq_true.mp found
  simp only [Bool.and_eq_true, beq_iff_eq, Option.any_eq_true] at here
  obtain ⟨⟨kind, start⟩, named, field, first, last⟩ := here
  let name : MemberName := .identifier "get".toList ⟨"() {} \x7d".toList, by decide +kernel⟩
  have heading : MethodHeading source c.focus named ["get"] name := by
    refine ⟨field, ?_, ?_⟩
    · rw [start, first]
      exact .token 10 14 "class A \x7b ".toList "get".toList " get() {} \x7d".toList []
        (by decide +kernel) (by decide +kernel) (.inl (by decide +kernel)) (.done 14)
    · rw [first, last]
      decide +kernel
  obtain ⟨-, classified⟩ := methods_classified source .typescript t read c visited (.inl kind)
  obtain ⟨f, listed, -, sort, form, getting, -, -, unexamined⟩ :=
    classified named ["get"] name heading
  obtain rfl : sort = .get := getting.mpr (by simp)
  exact ⟨f, listed, form, unexamined (by simp)⟩

/-- Members that are named like a keyword or, in an object, like the constructor are plain. -/
example :
    let source := "class A { get() {} }; o = \x7b 'constructor'() {} \x7d".toList
    (SourceFile.parse source .typescript).functions.map (·.form) =
      [.method (some "get") .method, .method none .method] := by
  decide +kernel

end ResultLint.ReturnType
