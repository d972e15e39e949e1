import Mathlib.Data.List.Forall2
import ResultLint.Analyzer
import ResultLint.ReturnType.Rule

/-!
The configured severities as a frame. Checking a source puts the findings of the rules in force
one behind the other and touches nothing but the severity of findings that are not pinned, so
configurations that switch on the same rules give findings that agree in all else.
-/
namespace ResultLint

namespace Violation

/-- The second finding is the first one under a configured severity, if there is one. -/
structure GradedAs (severity : Option Severity) (v w : Violation) : Prop where
  content : w = { v with severity := w.severity }
  pinned : v.pinned = true → w = v
  unset : severity = none → w = v
  set : ∀ s, severity = some s → v.pinned = false → w.severity = s

/-- Two findings that differ in nothing but a severity that is not pinned. -/
structure AgreesBut (v w : Violation) : Prop where
  content : w = { v with severity := w.severity }
  pinned : v.pinned = true → w = v

end Violation

namespace Config

/-- A configuration with every severity of a rule left out. -/
def withoutSeverities (config : Config) : Config :=
  { config with
    rules := config.rules.map fun entry => (entry.1, { entry.2 with severity := none }) }

theorem isEnabled_withoutSeverities (config : Config) (name : String) :
    config.withoutSeverities.isEnabled name = config.isEnabled name := by
  have found (rules : List (String × RuleConfig)) :
      (rules.map fun entry => (entry.1, { entry.2 with severity := none })).lookup name =
        (rules.lookup name).map fun rule => { rule with severity := none } := by
    induction rules with
    | nil => rfl
    | cons entry rest ih =>
      obtain ⟨key, rule⟩ := entry
      simp only [List.map_cons, List.lookup_cons, ih]
      cases name == key <;> rfl
  unfold isEnabled rule? withoutSeverities
  rw [found]
  cases config.rules.lookup name <;> rfl

/-- Configurations that differ in severities only have the same rules in force. -/
theorem isEnabled_eq_of_severities (left right : Config)
    (same : left.withoutSeverities = right.withoutSeverities) (name : String) :
    left.isEnabled name = right.isEnabled name := by
  rw [← isEnabled_withoutSeverities left, same, isEnabled_withoutSeverities right]

end Config

namespace Analyzer

/-- The file that the rules see. -/
def parsed [Recovery] (path : Path) (content : List Char) : SourceFile :=
  .parse content ((Dialect.ofPath? path).getD .typescript)

theorem regrade_gradedAs (severity : Option Severity) (v : Violation) :
    v.GradedAs severity (regrade severity v) := by
  cases severity with
  | none => exact ⟨rfl, fun _ => rfl, fun _ => rfl, by simp⟩
  | some s =>
    by_cases pinned : v.pinned = true
    · have kept : regrade (some s) v = v := by simp [regrade, pinned]
      rw [kept]
      exact ⟨rfl, fun _ => rfl, fun _ => rfl, by simp [pinned]⟩
    · have graded : regrade (some s) v = { v with severity := s } := by simp [regrade, pinned]
      rw [graded]
      exact ⟨rfl, fun h => absurd h pinned, by simp, by simp⟩

theorem regrade_agreesBut (left right : Option Severity) (v : Violation) :
    (regrade left v).AgreesBut (regrade right v) := by
  have l := regrade_gradedAs left v
  have r := regrade_gradedAs right v
  have same : (regrade left v).pinned = v.pinned := by rw [l.content]
  constructor
  · rw [r.content, l.content]
  · intro pinned
    rw [same] at pinned
    rw [l.pinned pinned, r.pinned pinned]

/-- A source is checked unless it has syntax errors and these are to fail the run. -/
theorem checkSource_ok [Recovery] (a : Analyzer) (path : Path) (content : List Char)
    (intact : (parsed path content).hasErrors = false ∨ a.failOnSyntaxErrors = false) :
    a.checkSource path content =
      .ok (a.rules.flatMap (a.runRule (.ofFile path content a.root) (parsed path content))) := by
  unfold checkSource
  rw [if_neg]
  · rfl
  · intro aborts
    rw [Bool.and_eq_true] at aborts
    rcases intact with clean | lenient
    · exact absurd aborts.1 (by simpa [parsed] using clean)
    · simp [lenient] at aborts

theorem flatMap_runRule (a : Analyzer) (ctx : FileContext) (file : SourceFile)
    (rules : List Rule) :
    rules.flatMap (a.runRule ctx file) =
      ((rules.filter fun rule => a.config.isEnabled rule.name).map fun rule =>
        (rule.check ctx file).map (regrade (a.config.severityOf? rule.name))).flatten := by
  induction rules with
  | nil => rfl
  | cons rule rest ih =>
    rw [List.flatMap_cons, ih]
    by_cases enabled : a.config.isEnabled rule.name = true
    · simp [runRule, enabled]
    · simp [runRule, enabled]

/-- Two configurations with the same rules in force give lists that agree finding by finding. -/
theorem flatMap_runRule_agree (a b : Analyzer) (ctx : FileContext) (file : SourceFile)
    (switches : ∀ name, a.config.isEnabled name = b.config.isEnabled name) (rules : List Rule) :
    List.Forall₂ Violation.AgreesBut (rules.flatMap (a.runRule ctx file))
      (rules.flatMap (b.runRule ctx file)) := by
  induction rules with
  | nil => exact .nil
  | cons rule rest ih =>
    rw [List.flatMap_cons, List.flatMap_cons]
    refine List.rel_append ?_ ih
    unfold runRule
    rw [switches rule.name]
    split
    · rw [List.forall₂_map_left_iff, List.forall₂_map_right_iff]
      exact List.forall₂_same.mpr fun v _ => regrade_agreesBut _ _ v
    · exact .nil

theorem filter_pinned_eq {left right : List Violation}
    (agree : List.Forall₂ Violation.AgreesBut left right) :
    left.filter (fun v => v.pinned) = right.filter fun v => v.pinned := by
  induction agree with
  | nil => rfl
  | @cons v w _ _ here _ ih =>
    have same : w.pinned = v.pinned := by rw [here.content]
    by_cases pinned : v.pinned = true
    · rw [List.filter_cons_of_pos pinned, List.filter_cons_of_pos (same.trans pinned), ih,
        here.pinned pinned]
    · rw [List.filter_cons_of_neg pinned, List.filter_cons_of_neg (same.trans_ne pinned), ih]

/-- A source that does not abort the run has findings: those of the rules in force, in the order
of the rules and each rule's own order, and of each finding nothing but the severity depends on
the configuration, and that only if it is not pinned. So under another configuration that differs
in severities only the findings agree one by one, the pinned ones wholly; a directive without a
reason is reported under both or under neither. -/
theorem checkSource_severity_frame [Recovery] (a : Analyzer) (path : Path) (content : List Char)
    (intact : (parsed path content).hasErrors = false ∨ a.failOnSyntaxErrors = false)
    (config : Config) (alike : a.config.withoutSeverities = config.withoutSeverities) :
    ∃ found other,
      a.checkSource path content = .ok found ∧
      { a with config := config }.checkSource path content = .ok other ∧
      (∃ runs : List (List Violation), found = runs.flatten ∧
        List.Forall₂
          (fun rule run => List.Forall₂ (Violation.GradedAs (a.config.severityOf? rule.name))
            (rule.check (.ofFile path content a.root) (parsed path content)) run)
          (a.rules.filter fun rule => a.config.isEnabled rule.name) runs) ∧
      found.length = other.length ∧ List.Forall₂ Violation.AgreesBut found other ∧
      found.filter (fun v => v.pinned) = other.filter (fun v => v.pinned) ∧
      ∀ ctx node, ReturnType.missingReason ctx node ∈ found ↔
        ReturnType.missingReason ctx node ∈ other := by
  have switches := Config.isEnabled_eq_of_severities a.config config alike
  have agree := flatMap_runRule_agree a { a with config := config }
    (.ofFile path content a.root) (parsed path content) switches a.rules
  have pins := filter_pinned_eq agree
  refine ⟨_, _, checkSource_ok a path content intact,
    checkSource_ok { a with config := config } path content intact, ?_, agree.length_eq, agree,
    pins, ?_⟩
  · refine ⟨_, flatMap_runRule a _ _ a.rules, ?_⟩
    rw [List.forall₂_map_right_iff, List.forall₂_same]
    intro rule _
    rw [List.forall₂_map_right_iff, List.forall₂_same]
    exact fun v _ => regrade_gradedAs _ v
  · intro ctx node
    have kept (vs : List Violation) : ReturnType.missingReason ctx node ∈ vs ↔
        ReturnType.missingReason ctx node ∈ vs.filter fun v => v.pinned := by
      simp [ReturnType.missingReason]
    rw [kept, pins, ← kept]

/-- A source with a directive that gives no reason, checked without and with a severity for the
rule. -/
theorem checkSource_severity_frame_directive :
    let graded (severity : Option Severity) : Config :=
      ⟨none, none, Config.defaultFiles, [(ReturnType.ruleName, ⟨none, severity, []⟩)]⟩
    let a : Analyzer :=
      ⟨.ofString "/p", [ReturnType.rule .default .error], [], [], graded none, false⟩
    let path : Path := .ofString "/p/src/a.ts"
    let content := "// railway-lint: allow(all)\nfunction f() {}\nfunction g() {}".toList
    (graded none).withoutSeverities = (graded (some .info)).withoutSeverities ∧
      ∃ found other, a.checkSource path content = .ok found ∧
        { a with config := graded (some .info) }.checkSource path content = .ok other ∧
        found.length = other.length ∧
        found.filter (fun v => v.pinned) = other.filter (fun v => v.pinned) := by
  intro graded a path content
  have alike : (graded none).withoutSeverities = (graded (some .info)).withoutSeverities := rfl
  obtain ⟨found, other, left, right, _, length, _, pins, _⟩ :=
    checkSource_severity_frame a path content (.inr rfl) (graded (some .info)) alike
  exact ⟨alike, found, other, left, right, length, pins⟩

end Analyzer

end ResultLint
