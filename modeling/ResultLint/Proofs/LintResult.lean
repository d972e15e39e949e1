import ResultLint.Proofs.Analyzer.Result
import ResultLint.Proofs.ProjectTest

/-!
What is said of a result in numbers and in words. The counts by severity, the test of a threshold,
the headline and the blocks of a report all come from the same findings, so they agree whatever
has been pushed, added and sorted before.
-/
namespace ResultLint

namespace Severity

theorem le_trans {a b c : Severity} (below : a ≤ b) (above : b ≤ c) : a ≤ c :=
  Nat.le_trans below above

theorem info_le (s : Severity) : info ≤ s :=
  Nat.zero_le s.rank

end Severity

namespace Counts

def total (c : Counts) : Nat :=
  c.errors + c.warnings + c.infos

/-- How many findings of a severity or a graver one are counted. -/
def atLeast (c : Counts) : Severity → Nat
  | .error => c.errors
  | .warning => c.errors + c.warnings
  | .info => c.total

/-- The counts of one finding. -/
def one : Severity → Counts
  | .error => ⟨1, 0, 0⟩
  | .warning => ⟨0, 1, 0⟩
  | .info => ⟨0, 0, 1⟩

instance : Add Counts :=
  ⟨fun c d => ⟨c.errors + d.errors, c.warnings + d.warnings, c.infos + d.infos⟩⟩

theorem atLeast_one (s threshold : Severity) :
    (one s).atLeast threshold = if threshold ≤ s then 1 else 0 := by
  cases s <;> cases threshold <;> rfl

theorem atLeast_add (c d : Counts) (threshold : Severity) :
    (c + d).atLeast threshold = c.atLeast threshold + d.atLeast threshold := by
  have added : c + d = ⟨c.errors + d.errors, c.warnings + d.warnings, c.infos + d.infos⟩ := rfl
  rw [added]
  cases threshold with
  | error => rfl
  | warning =>
    simp only [atLeast]
    omega
  | info =>
    simp only [atLeast, total]
    omega

end Counts

namespace LintResult

section Numbers

variable (r other : LintResult)

theorem counts_extend : (r.extend other).counts = r.counts + other.counts := by
  simp only [counts, ofSeverity, extend, List.countP_append]
  rfl

theorem counts_alone (v : Violation) : counts ⟨[v], 0⟩ = Counts.one v.severity := by
  cases severity : v.severity <;> simp [counts, ofSeverity, severity, Counts.one]

theorem counts_cons (v : Violation) (vs : List Violation) (files files' : Nat) :
    counts ⟨v :: vs, files⟩ = Counts.one v.severity + counts ⟨vs, files'⟩ := by
  rw [← counts_alone]
  exact counts_extend ⟨[v], 0⟩ ⟨vs, files'⟩

/-- The three counts are made in one pass over the findings. -/
theorem counts_eq_foldl :
    r.counts = r.violations.foldl (fun c v => c + Counts.one v.severity) ⟨0, 0, 0⟩ := by
  obtain ⟨vs, files⟩ := r
  induction vs using List.reverseRecOn with
  | nil => rfl
  | append_singleton vs v ih =>
    rw [List.foldl_concat, ← ih, ← counts_alone]
    exact counts_extend ⟨vs, files⟩ ⟨[v], 0⟩

/-- The order of the findings has no part in their counts. -/
theorem counts_of_perm (perm : r.violations.Perm other.violations) : r.counts = other.counts := by
  unfold counts ofSeverity
  rw [perm.countP_eq, perm.countP_eq, perm.countP_eq]

/-- The findings that reach a threshold are as many as the counts say. -/
theorem length_atLeast (threshold : Severity) :
    (r.atLeast threshold).length = r.counts.atLeast threshold := by
  obtain ⟨vs, files⟩ := r
  induction vs with
  | nil => cases threshold <;> rfl
  | cons v vs ih =>
    rw [counts_cons v vs files files, Counts.atLeast_add, Counts.atLeast_one, ← ih, atLeast,
      List.filter_cons]
    by_cases reaches : threshold ≤ v.severity
    · rw [if_pos reaches, if_pos (by simpa using reaches), List.length_cons, Nat.add_comm]
      rfl
    · rw [if_neg reaches, if_neg (by simpa using reaches), Nat.zero_add]
      rfl

theorem total_counts : r.counts.total = r.violations.length := by
  have all : r.atLeast .info = r.violations :=
    List.filter_eq_self.mpr fun v _ => by simp [Severity.info_le]
  rw [← all, length_atLeast]
  rfl

theorem reaches_iff_counts (threshold : Severity) :
    r.reaches threshold = true ↔ 0 < r.counts.atLeast threshold := by
  rw [← length_atLeast, List.length_pos_iff_exists_mem, ProjectCheck.reaches_iff]
  simp [atLeast]

/-- No graver threshold fails what a milder one passes. -/
theorem reaches_false_of_le {mild grave : Severity} (graver : mild ≤ grave)
    (passes : r.reaches mild = false) : r.reaches grave = false := by
  rw [Bool.eq_false_iff, Ne, ProjectCheck.reaches_iff] at passes ⊢
  rintro ⟨v, found, reaches⟩
  exact passes ⟨v, found, Severity.le_trans graver reaches⟩

end Numbers

section Sorting

variable (r : LintResult)

theorem perm_sorted : r.sorted.violations.Perm r.violations :=
  List.mergeSort_perm _ _

theorem counts_sorted : r.sorted.counts = r.counts :=
  counts_of_perm _ _ r.perm_sorted

theorem sorted_sorted : r.sorted.sorted = r.sorted := by
  have ordered : r.sorted.violations.Pairwise fun a b => (placeOrder a b).isLE = true :=
    (StablySorted.mergeSort r.violations).sorted
  have again := List.mergeSort_of_pairwise ordered
  exact congrArg (fun vs => LintResult.mk vs r.filesChecked) again

end Sorting

section Reports

/-- The blocks of a report as they follow from the findings, one after the other: a finding that
reaches the threshold has its block with an empty line behind it, and any other one has nothing. -/
inductive Blocks (threshold : Severity) : List Violation → String → Prop
  | none : Blocks threshold [] ""
  | shown (v : Violation) (vs : List Violation) (others : String)
      (reaches : threshold ≤ v.severity) (rest : Blocks threshold vs others) :
      Blocks threshold (v :: vs) (v.block ++ "\n" ++ others)
  | leftOut (v : Violation) (vs : List Violation) (others : String)
      (below : ¬ threshold ≤ v.severity) (rest : Blocks threshold vs others) :
      Blocks threshold (v :: vs) others

theorem blocks_iff (threshold : Severity) (vs : List Violation) (text : String) :
    Blocks threshold vs text ↔
      text = String.join ((vs.filter fun v => threshold ≤ v.severity).map fun v =>
        v.block ++ "\n") := by
  induction vs generalizing text with
  | nil =>
    constructor
    · rintro ⟨⟩
      rfl
    · rintro rfl
      exact .none
  | cons v vs ih =>
    by_cases reaches : threshold ≤ v.severity
    · rw [List.filter_cons_of_pos (by simpa using reaches), List.map_cons, String.join_cons]
      constructor
      · rintro (_ | ⟨_, _, others, _, rest⟩ | ⟨_, _, _, below, _⟩)
        · rw [(ih others).mp rest]
        · exact absurd reaches below
      · rintro rfl
        exact .shown v vs _ reaches ((ih _).mpr rfl)
    · rw [List.filter_cons_of_neg (by simpa using reaches)]
      constructor
      · rintro (_ | ⟨_, _, _, above, _⟩ | ⟨_, _, _, _, rest⟩)
        · exact absurd above reaches
        · exact (ih text).mp rest
      · intro same
        exact .leftOut v vs text reaches ((ih text).mpr same)

/-- A report for a threshold: the headline with the number of findings that reach it, their blocks,
and the totals of all findings, whatever the threshold is. -/
inductive Reported (r : LintResult) (threshold : Severity) : String → Prop
  | mk (blocks : String) (listed : Blocks threshold r.violations blocks) :
      Reported r threshold
        ("\n=== railway-lint: " ++ toString (r.counts.atLeast threshold) ++
          " violation(s) ===\n\n" ++ blocks ++ "Total: " ++
          (toString r.counts.errors ++ " error(s), " ++ toString r.counts.warnings ++
            " warning(s), " ++ toString r.counts.infos ++ " info(s) in " ++
            toString r.filesChecked ++ " file(s)") ++ "\n")

theorem reported_iff (r : LintResult) (threshold : Severity) (text : String) :
    Reported r threshold text ↔ text = r.testReport threshold := by
  have written : r.testReport threshold =
      "\n=== railway-lint: " ++ toString (r.counts.atLeast threshold) ++
        " violation(s) ===\n\n" ++
        String.join ((r.atLeast threshold).map fun v => v.block ++ "\n") ++ "Total: " ++
        r.totals ++ "\n" := by
    rw [← length_atLeast]
    rfl
  rw [written]
  constructor
  · rintro ⟨blocks, listed⟩
    rw [(blocks_iff threshold r.violations blocks).mp listed]
    rfl
  · rintro rfl
    exact .mk _ ((blocks_iff threshold r.violations _).mpr rfl)

end Reports

section Runs

/-- What can be done with a result. -/
inductive Step where
  | push (v : Violation)
  | extend (other : LintResult)
  | sort

namespace Step

def apply (r : LintResult) : Step → LintResult
  | .push v => r.push v
  | .extend other => r.extend other
  | .sort => r.sorted

/-- The findings and the files that a step adds. -/
def added : Step → LintResult
  | .push v => empty.push v
  | .extend other => other
  | .sort => empty

theorem violations_apply (r : LintResult) (step : Step) :
    (step.apply r).violations.Perm (r.violations ++ step.added.violations) := by
  cases step with
  | push v => exact .refl _
  | extend other => exact .refl _
  | sort =>
    rw [added, empty, List.append_nil]
    exact r.perm_sorted

theorem filesChecked_apply (r : LintResult) (step : Step) :
    (step.apply r).filesChecked = r.filesChecked + step.added.filesChecked := by
  cases step <;> rfl

theorem counts_apply (r : LintResult) (step : Step) :
    (step.apply r).counts = r.counts + step.added.counts := by
  rw [← counts_extend]
  exact counts_of_perm _ _ (violations_apply r step)

end Step

/-- A result after steps, taken one after the other. -/
def run (r : LintResult) (steps : List Step) : LintResult :=
  steps.foldl Step.apply r

/-- A run loses no finding and makes none of its own. -/
theorem violations_run (r : LintResult) (steps : List Step) :
    (r.run steps).violations.Perm
      (r.violations ++ steps.flatMap fun step => step.added.violations) := by
  induction steps generalizing r with
  | nil => simp [run]
  | cons step steps ih =>
    refine (ih (step.apply r)).trans ?_
    rw [List.flatMap_cons, ← List.append_assoc]
    exact (step.violations_apply r).append_right _

theorem filesChecked_run (r : LintResult) (steps : List Step) :
    (r.run steps).filesChecked =
      steps.foldl (fun n step => n + step.added.filesChecked) r.filesChecked :=
  (List.foldl_hom filesChecked fun r step => (step.filesChecked_apply r).symm).symm

theorem counts_run (r : LintResult) (steps : List Step) :
    (r.run steps).counts = steps.foldl (fun c step => c + step.added.counts) r.counts :=
  (List.foldl_hom counts fun r step => (step.counts_apply r).symm).symm

end Runs

/-- The views of one result agree with each other, and with those of the result sorted. -/
structure Consistent (r : LintResult) : Prop where
  pass : r.counts = r.violations.foldl (fun c v => c + Counts.one v.severity) ⟨0, 0, 0⟩
  total : r.counts.errors + r.counts.warnings + r.counts.infos = r.violations.length
  threshold : ∀ s, r.reaches s = true ↔ 0 < r.counts.atLeast s
  failing : ∀ s, (r.violations.filter fun v => s ≤ v.severity).length = r.counts.atLeast s
  report : ∀ s text, Reported r s text ↔ text = r.testReport s
  graver : ∀ mild grave, mild ≤ grave → r.reaches mild = false → r.reaches grave = false
  sorting : r.sorted.violations.Perm r.violations ∧ r.sorted.counts = r.counts ∧
    r.sorted.filesChecked = r.filesChecked ∧ r.sorted.sorted = r.sorted

theorem consistent (r : LintResult) : Consistent r where
  pass := r.counts_eq_foldl
  total := r.total_counts
  threshold := r.reaches_iff_counts
  failing := r.length_atLeast
  report := reported_iff r
  graver _ _ := r.reaches_false_of_le
  sorting := ⟨r.perm_sorted, r.counts_sorted, rfl, r.sorted_sorted⟩

/-- Whatever is pushed, added and sorted, the counts, the thresholds and the reports of a result
agree, and say what has been put in. The end of a run of the program and of a test goes by the
counts too: it fails just if one at or above the threshold is positive, and a test then tells the
report for that threshold. -/
theorem counts_thresholds_and_reports_agree [Recovery] :
    (∀ (start : LintResult) (steps : List Step),
      Consistent (start.run steps) ∧
        (start.run steps).violations.Perm
          (start.violations ++ steps.flatMap fun step => step.added.violations) ∧
        (start.run steps).filesChecked =
          steps.foldl (fun n step => n + step.added.filesChecked) start.filesChecked ∧
        (start.run steps).counts =
          steps.foldl (fun c step => c + step.added.counts) start.counts ∧
        ∀ other, ((start.run steps).extend other).counts =
            (start.run steps).counts + other.counts ∧
          ((start.run steps).extend other).filesChecked =
            (start.run steps).filesChecked + other.filesChecked) ∧
    (∀ (plan : Plan) (r : LintResult),
      plan.isFailedBy r = true ↔ 0 < r.counts.atLeast plan.failOn) ∧
    ∀ (fs : FileSystem) (manifest : Option Path) (options : CheckOptions) (r : LintResult)
      (threshold : Severity),
      ProjectCheck.evaluate fs (ProjectCheck.projectRoot fs manifest) options =
        .ok (r, threshold) →
      ProjectCheck.failure? fs manifest options =
        if 0 < r.counts.atLeast threshold then some (r.testReport threshold) else none := by
  refine ⟨?_, fun plan r => r.reaches_iff_counts plan.failOn, ?_⟩
  · intro start steps
    exact ⟨consistent _, violations_run start steps, filesChecked_run start steps,
      counts_run start steps, fun other => ⟨counts_extend _ other, rfl⟩⟩
  · intro fs manifest options r threshold ended
    unfold ProjectCheck.failure?
    rw [ended]
    dsimp only
    simp only [reaches_iff_counts]

/-- The statement at a run with findings of all severities that come in the wrong order, and at a
test that passes with a warning. -/
theorem counts_thresholds_and_reports_agree_mixed :
    let v (s : Severity) (file : String) : Violation :=
      ⟨"RW001", "r", s, .at (.ofString file) 1 1, "m", none, none, false⟩
    let r := (LintResult.mk [v .info "c.ts"] 2).run
      [.push (v .warning "b.ts"), .extend ⟨[v .error "a.ts"], 3⟩, .sort]
    let fs : FileSystem := ⟨.directory [("p".toList, .directory [
      ("f.ts".toList, .file (Text.encode
        "// railway-lint: allow(require-result-return-type)\nfunction f() {}\n".toList))])],
      .ofString "/"⟩
    r.violations = [v .error "a.ts", v .warning "b.ts", v .info "c.ts"] ∧ r.filesChecked = 5 ∧
      r.counts = ⟨1, 1, 1⟩ ∧ r.reaches .error = true ∧
      Reported r .warning ("\n=== railway-lint: 2 violation(s) ===\n\n" ++
        "RW001 r at a.ts:1:1\n  error: m\n\nRW001 r at b.ts:1:1\n  warning: m\n\n" ++
        "Total: 1 error(s), 1 warning(s), 1 info(s) in 5 file(s)\n") ∧
      ∃ result, ProjectCheck.evaluate fs (.ofString "/p") ⟨none, none, none⟩ =
          .ok (result, .error) ∧ result.counts = ⟨0, 1, 0⟩ ∧
        ProjectCheck.failure? fs (some (.ofString "/p")) ⟨none, none, none⟩ = none := by
  intro v r fs
  obtain ⟨agree, -, test⟩ := counts_thresholds_and_reports_agree
  obtain ⟨same, -, files, counts, -⟩ := agree ⟨[v .info "c.ts"], 2⟩
    [.push (v .warning "b.ts"), .extend ⟨[v .error "a.ts"], 3⟩, .sort]
  have ordered : r.violations = [v .error "a.ts", v .warning "b.ts", v .info "c.ts"] :=
    (StablySorted.mergeSort [v .info "c.ts", v .warning "b.ts", v .error "a.ts"]).unique
      ⟨by decide +kernel, by decide +kernel, by decide +kernel⟩
  have whole : r = ⟨[v .error "a.ts", v .warning "b.ts", v .info "c.ts"], 5⟩ := by
    rw [← ordered]
    rfl
  have ended : (ProjectCheck.evaluate fs (.ofString "/p") ⟨none, none, none⟩).toOption.map
      (fun ending => (ending.1.counts, ending.2)) = some (⟨0, 1, 0⟩, .error) := by
    decide +kernel
  refine ⟨ordered, files, counts, (same.threshold .error).mpr ?_, (same.report .warning _).mpr ?_,
    ?_⟩
  · rw [counts]
    decide
  · change _ = r.testReport .warning
    rw [whole]
    decide +kernel
  · cases run : ProjectCheck.evaluate fs (.ofString "/p") ⟨none, none, none⟩ with
    | error e =>
      rw [run] at ended
      cases ended
    | ok ending =>
      obtain ⟨result, threshold⟩ := ending
      rw [run] at ended
      obtain ⟨counted, rfl⟩ := Prod.mk.inj (Option.some.inj ended)
      dsimp only at counted
      have root : ProjectCheck.projectRoot fs (some (.ofString "/p")) = .ofString "/p" := by
        decide +kernel
      refine ⟨result, rfl, counted, ?_⟩
      rw [test fs (some (.ofString "/p")) ⟨none, none, none⟩ result .error (by rw [root, run]),
        counted]
      rfl

end LintResult

end ResultLint
