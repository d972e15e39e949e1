import ResultLint.Analyzer
import ResultLint.Proofs.Path.Join
import ResultLint.Proofs.ReturnType.Finding

/-!
Moving a project. A file is seen by its path from the root in all that is reported, but the mark
of a test file is looked for in the whole path. So the findings of a file do not change with the
place of the root unless exactly one of the two roots bears such a mark itself.
-/
namespace ResultLint.Analyzer

open ReturnType Source

/-- An analyzer that runs the rule on return types, under any policies and severities. -/
def Configured (a : Analyzer) : Prop :=
  ∀ r ∈ a.rules, ∃ policy severity, r = ReturnType.rule policy severity

/-- Checking a file that lies at a relative path below a root. -/
def checkBelow [Recovery] (a : Analyzer) (root p : Path) (content : List Char) :
    Except AnalysisError (List Violation) :=
  { a with root := root }.checkSource (root.join p) content

/-- Equal findings, or an error of the same kind. -/
inductive SameOutcome : Except AnalysisError (List Violation) →
    Except AnalysisError (List Violation) → Prop
  | found (violations : List Violation) : SameOutcome (.ok violations) (.ok violations)
  | unreadable (f g : FileFault) : SameOutcome (.error (.unreadable f)) (.error (.unreadable g))
  | noSuchTree (p q : Path) (f g : FileFault) :
      SameOutcome (.error (.noSuchTree p f)) (.error (.noSuchTree q g))
  | syntaxErrors (p q : Path) : SameOutcome (.error (.syntaxErrors p)) (.error (.syntaxErrors q))
  | badPattern (e f : Glob.Error) : SameOutcome (.error (.badPattern e)) (.error (.badPattern f))

theorem sameOutcome_ok_iff (found other : List Violation) :
    SameOutcome (.ok found) (.ok other) ↔ found = other := by
  constructor
  · intro same
    cases same
    rfl
  · rintro rfl
    exact .found found

/-- The rule sees two files alike that have one text, one path from the root, and marks both or
neither. -/
theorem inspect_eq_of_marks (policy : Policy) (severity : Severity) (left right relative : Path)
    (content : List Char) (marks : Policy.isTestFile left = Policy.isTestFile right)
    (node : FunctionNode) :
    inspect policy severity ⟨left, content, relative⟩ node =
      inspect policy severity ⟨right, content, relative⟩ node := by
  have exempt (name : String) : policy.isExempt name left = policy.isExempt name right := by
    unfold Policy.isExempt
    rw [marks]
  have examined : policy.examine node ⟨left, content, relative⟩ =
      policy.examine node ⟨right, content, relative⟩ := by
    simp only [Policy.examine, exempt, FileContext.text]
    rfl
  simp only [inspect, examined]
  rfl

theorem inspect_none_of_mark (policy : Policy) (severity : Severity) (ctx : FileContext)
    (marked : Policy.isTestFile ctx.path = true) (node : FunctionNode) :
    inspect policy severity ctx node = none := by
  have exempt : policy.isExempt node.name ctx.path = true := by
    unfold Policy.isExempt
    rw [marked, Bool.or_true]
  have silent : policy.examine node ctx = none := by simp [Policy.examine, exempt]
  simp only [inspect, silent]

theorem flatMap_eq_of_marks (a : Analyzer) (configured : a.Configured)
    (left right relative : Path) (content : List Char)
    (marks : Policy.isTestFile left = Policy.isTestFile right) (file : SourceFile) :
    a.rules.flatMap (a.runRule ⟨left, content, relative⟩ file) =
      a.rules.flatMap (a.runRule ⟨right, content, relative⟩ file) := by
  apply List.flatMap_congr
  intro r member
  obtain ⟨policy, severity, rfl⟩ := configured r member
  unfold runRule
  rw [rule_check_eq_filterMap, rule_check_eq_filterMap,
    funext (inspect_eq_of_marks policy severity left right relative content marks)]

theorem flatMap_nil_of_mark (a : Analyzer) (configured : a.Configured) (ctx : FileContext)
    (marked : Policy.isTestFile ctx.path = true) (file : SourceFile) :
    a.rules.flatMap (a.runRule ctx file) = [] := by
  rw [List.flatMap_eq_nil_iff]
  intro r member
  obtain ⟨policy, severity, rfl⟩ := configured r member
  unfold runRule
  rw [rule_check_eq_filterMap, funext (inspect_none_of_mark policy severity ctx marked)]
  simp

/-- A name below the root decides the dialect wherever the root is. -/
theorem dialect_join (left right p : Path) (atLeft : left.isAbsolute = true)
    (atRight : right.isAbsolute = true) (relative : p.isAbsolute = false)
    (named : ∃ c ∈ p.components, c ≠ .current) :
    Dialect.ofPath? (left.join p) = Dialect.ofPath? (right.join p) := by
  have some : Path.names p.chars ≠ [] := by
    obtain ⟨c, member, proper⟩ := named
    exact List.ne_nil_of_mem (Path.mem_names_of_mem_components p relative c member proper)
  have last (base : Path) (absolute : base.isAbsolute = true) :
      (base.join p).components.getLast? = (Path.names p.chars).getLast? := by
    rw [Path.components_join base p absolute relative, List.getLast?_append_of_ne_nil _ some]
  unfold Dialect.ofPath? Path.extension? Path.fileName?
  rw [last left atLeft, last right atRight]

theorem isTestFile_join (base p : Path) (absolute : base.isAbsolute = true)
    (relative : p.isAbsolute = false) :
    Policy.isTestFile (base.join p) = (Policy.isTestFile base || Policy.isTestFile p) := by
  rw [Bool.eq_iff_iff, Bool.or_eq_true, Policy.isTestFile_iff, Policy.isTestFile_iff,
    Policy.isTestFile_iff, Path.infix_join _ base p absolute relative (by decide),
    Path.infix_join _ base p absolute relative (by decide)]
  exact or_or_or_comm

/-- Checking below a root either ends at syntax errors, or finds what the rules find in a file with
the path below the root. -/
theorem checkBelow_eq [Recovery] (a : Analyzer) (root p : Path) (absolute : root.isAbsolute = true)
    (relative : p.isAbsolute = false) (content : List Char) (dialect : Dialect)
    (known : (Dialect.ofPath? (root.join p)).getD .typescript = dialect) :
    a.checkBelow root p content =
      if (SourceFile.parse content dialect).hasErrors && a.failOnSyntaxErrors then
        .error (.syntaxErrors (root.join p))
      else .ok (a.rules.flatMap (a.runRule
        ⟨root.join p, content, ⟨Path.skipIdleEnd (Path.skipIdle p.chars)⟩⟩
        (SourceFile.parse content dialect))) := by
  unfold checkBelow checkSource FileContext.ofFile
  simp only [known, Path.stripBase_join root p absolute relative, Option.getD_some]
  rfl

/-- The dialect of a file is that of its name below the root, if it has one there; and files with
one dialect give the same findings below two roots exactly if the path below them bears a mark of
test files, or both roots or none of them do, or there is nothing to be found. -/
theorem checkBelow_same_iff [Recovery] (a : Analyzer) (configured : a.Configured)
    (left right p : Path)
    (atLeft : left.isAbsolute = true) (atRight : right.isAbsolute = true)
    (relative : p.isAbsolute = false) (content : List Char) :
    ((∃ c ∈ p.components, c ≠ .current) →
      Dialect.ofPath? (left.join p) = Dialect.ofPath? (right.join p)) ∧
    (Dialect.ofPath? (left.join p) = Dialect.ofPath? (right.join p) →
      (SameOutcome (a.checkBelow left p content) (a.checkBelow right p content) ↔
        Policy.isTestFile p = true ∨ Policy.isTestFile left = Policy.isTestFile right ∨
          ∀ found, a.checkBelow left p content = .ok found ∨
            a.checkBelow right p content = .ok found → found = [])) := by
  refine ⟨dialect_join left right p atLeft atRight relative, fun dialects => ?_⟩
  rw [checkBelow_eq a left p atLeft relative content _ rfl,
    checkBelow_eq a right p atRight relative content _
      (congrArg (·.getD .typescript) dialects.symm)]
  generalize SourceFile.parse content _ = file
  split
  · exact ⟨fun _ => .inr (.inr (by simp)), fun _ => .syntaxErrors _ _⟩
  · have marks (base : Path) (absolute : base.isAbsolute = true) :=
      isTestFile_join base p absolute relative
    by_cases agree : Policy.isTestFile (left.join p) = Policy.isTestFile (right.join p)
    · rw [flatMap_eq_of_marks a configured _ _ _ content agree file]
      refine ⟨fun _ => ?_, fun _ => .found _⟩
      rw [marks left atLeft, marks right atRight] at agree
      cases own : Policy.isTestFile p with
      | true => exact .inl rfl
      | false =>
        simp only [own, Bool.or_false] at agree
        exact .inr (.inl agree)
    · have differ : Policy.isTestFile p = false ∧
          Policy.isTestFile left ≠ Policy.isTestFile right := by
        rw [marks left atLeft, marks right atRight] at agree
        cases own : Policy.isTestFile p with
        | true => simp [own] at agree
        | false => exact ⟨rfl, by simpa [own] using agree⟩
      have one : Policy.isTestFile (left.join p) = true ∨
          Policy.isTestFile (right.join p) = true := by
        rw [marks left atLeft, marks right atRight, differ.1, Bool.or_false, Bool.or_false]
        cases h : Policy.isTestFile left with
        | true => exact .inl rfl
        | false => exact .inr (by simpa [h] using differ.2.symm)
      simp only [sameOutcome_ok_iff, differ.1, differ.2, Bool.false_eq_true, false_or,
        Except.ok.injEq]
      -- one of the two lists is empty, so they agree just if the other one is empty too
      rcases one with marked | marked
      · rw [flatMap_nil_of_mark a configured ⟨left.join p, content, _⟩ marked file]
        constructor
        · rintro same found (rfl | rfl)
          · rfl
          · exact same.symm
        · intro empty
          exact (empty _ (.inr rfl)).symm
      · rw [flatMap_nil_of_mark a configured ⟨right.join p, content, _⟩ marked file]
        constructor
        · rintro same found (rfl | rfl)
          · exact same
          · rfl
        · intro empty
          exact empty _ (.inl rfl)

/-- The statement at a marked and an unmarked root. -/
theorem checkBelow_same_iff_marked_root :
    let a : Analyzer := ⟨.ofString "/", [ReturnType.rule .default .error], [], [], .default, false⟩
    let left : Path := .ofString "/p"
    let right : Path := .ofString "/my.test.d"
    let p : Path := .ofString "src/a.ts"
    let content := "function f() {}".toList
    a.Configured ∧
      (Dialect.ofPath? (left.join p) = Dialect.ofPath? (right.join p) →
        (SameOutcome (a.checkBelow left p content) (a.checkBelow right p content) ↔
          Policy.isTestFile p = true ∨ Policy.isTestFile left = Policy.isTestFile right ∨
            ∀ found, a.checkBelow left p content = .ok found ∨
              a.checkBelow right p content = .ok found → found = [])) := by
  intro a left right p content
  have configured : a.Configured := by
    intro r member
    exact ⟨_, _, List.mem_singleton.mp member⟩
  exact ⟨configured, (checkBelow_same_iff a configured left right p rfl rfl rfl content).2⟩

/-- A root with the mark of a test file in its own name hides a finding. -/
theorem checkBelow_hidden_by_root :
    let a : Analyzer := ⟨.ofString "/", [ReturnType.rule .default .error], [], [], .default, false⟩
    let p : Path := .ofString "src/a.ts"
    let content := "function f() {}".toList
    ¬ SameOutcome (a.checkBelow (.ofString "/p") p content)
      (a.checkBelow (.ofString "/my.test.d") p content) := by
  intro a p content same
  have reported : (a.checkBelow (.ofString "/p") p content).toOption.map List.length = some 1 := by
    decide +kernel
  have hidden : (a.checkBelow (.ofString "/my.test.d") p content).toOption.map List.length =
      some 0 := by
    decide +kernel
  generalize a.checkBelow (.ofString "/p") p content = left at same reported
  generalize a.checkBelow (.ofString "/my.test.d") p content = right at same hidden
  cases same with
  | found violations =>
    simp only [Except.toOption, Option.map_some, Option.some.injEq] at reported hidden
    omega
  | _ => simp [Except.toOption] at reported

end ResultLint.Analyzer
