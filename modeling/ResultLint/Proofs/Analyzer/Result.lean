import Mathlib.Data.List.Nodup
import ResultLint.Proofs.Analyzer.Relocation
import ResultLint.Proofs.Analyzer.Severity
import ResultLint.Proofs.Path.Below
import ResultLint.Proofs.Path.Order

/-!
The result of a run over many files. It does not depend on the order in which the files are found:
its findings are those of the single files in the order of their places, and what it says about
one file comes from that file alone.
-/
namespace ResultLint

namespace Violation

/-- Whether a finding is in a file; the spelling of the file's path does not count. -/
def inFile (p : Path) (v : Violation) : Bool :=
  decide (v.location.file.components = p.components)

end Violation

namespace LintResult

/-- The order of findings in one file: line, column. -/
def lineOrder (a b : Violation) : Ordering :=
  (compare a.location.line b.location.line).then (compare a.location.column b.location.column)

instance : Std.TransCmp placeOrder := by
  have files := transCmp_on (fun v : Violation => v.location.file) Path.compare
  have parts : placeOrder = compareLex
      (compareLex (fun a b => a.location.file.compare b.location.file)
        (compareOn fun v => v.location.line)) (compareOn fun v => v.location.column) := rfl
  rw [parts]
  infer_instance

instance : Std.TransCmp lineOrder := by
  have parts : lineOrder = compareLex (compareOn fun v : Violation => v.location.line)
      (compareOn fun v => v.location.column) := rfl
  rw [parts]
  infer_instance

/-- Findings in one file are told apart by line and column only. -/
theorem placeOrder_eq_lineOrder (v w : Violation)
    (same : v.location.file.components = w.location.file.components) :
    placeOrder v w = lineOrder v w := by
  unfold placeOrder lineOrder
  rw [(Path.compare_eq_iff _ _).mpr same]
  rfl

/-- Findings at one place are in one file. -/
theorem components_eq_of_tie (v w : Violation) (tie : placeOrder v w = .eq) :
    v.location.file.components = w.location.file.components := by
  unfold placeOrder at tie
  rw [Ordering.then_eq_eq, Ordering.then_eq_eq, Path.compare_eq_iff] at tie
  exact tie.1.1

end LintResult

/-- The rule on return types reports what it finds in the file that it looks at. -/
theorem ReturnType.file_of_check (policy : Policy) (severity : Severity) (ctx : FileContext)
    (file : SourceFile) :
    ∀ v ∈ (rule policy severity).check ctx file, v.location.file = ctx.relativePath := by
  intro v found
  rw [rule_check_eq_filterMap, List.mem_filterMap] at found
  obtain ⟨node, -, reported⟩ := found
  unfold inspect at reported
  split at reported
  · cases reported
  · split at reported
    · cases reported
      rfl
    · split at reported
      · cases reported
        rfl
      · cases reported

namespace Analyzer

/-- A file's path as it is reported. -/
def seen (a : Analyzer) (p : Path) : Path :=
  (p.stripBase? a.root).getD p

/-- An analyzer whose rules report findings in the file that they look at only. -/
def Located (a : Analyzer) : Prop :=
  ∀ rule ∈ a.rules, ∀ ctx file, ∀ v ∈ rule.check ctx file, v.location.file = ctx.relativePath

/-- Files that a run gets through: the accepted ones are different files below the root, each of
them can be read, and none has syntax errors if these are to fail the run. -/
structure Readable [Recovery] (a : Analyzer) (read : Path → Except FileFault (List Char))
    (found : List Path) : Prop where
  below : ∀ p ∈ found, a.accepts p = true → (p.stripBase? a.root).isSome = true
  distinct : ((found.filter a.accepts).map Path.components).Nodup
  intact : ∀ p ∈ found, a.accepts p = true → ∃ content, read p = .ok content ∧
    ((parsed p content).hasErrors = false ∨ a.failOnSyntaxErrors = false)

/-- No two accepted files have the same components. -/
def Apart (a : Analyzer) (found : List Path) : Prop :=
  ∀ p ∈ found, ∀ q ∈ found, a.accepts p = true → a.accepts q = true →
    p.components = q.components → p = q

/-- What is found in one file; nothing where it cannot be checked. -/
def findings [Recovery] (a : Analyzer) (read : Path → Except FileFault (List Char)) (p : Path) :
    List Violation :=
  (a.checkFile read p).toOption.getD []

theorem located_of_configured (a : Analyzer) (configured : a.Configured) : a.Located := by
  intro rule member ctx file v found
  obtain ⟨policy, severity, rfl⟩ := configured rule member
  exact ReturnType.file_of_check policy severity ctx file v found

/-- What is found in a source is found by one of the rules, with the severity that is configured
for it. -/
theorem exists_regraded_of_checkSource [Recovery] (a : Analyzer) (p : Path) (content : List Char)
    (found : List Violation) (checked : a.checkSource p content = .ok found) :
    ∀ v ∈ found, ∃ rule ∈ a.rules,
      ∃ w ∈ rule.check (.ofFile p content a.root) (parsed p content),
        v = regrade (a.config.severityOf? rule.name) w := by
  unfold checkSource at checked
  dsimp only at checked
  split at checked
  · cases checked
  · cases checked
    intro v member
    obtain ⟨rule, registered, run⟩ := List.mem_flatMap.mp member
    unfold runRule at run
    split at run
    · obtain ⟨w, reported, rfl⟩ := List.mem_map.mp run
      exact ⟨rule, registered, w, reported, rfl⟩
    · cases run

/-- Whatever its severity, a finding is where the rule says. -/
theorem exists_rule_of_checkSource [Recovery] (a : Analyzer) (p : Path) (content : List Char)
    (found : List Violation) (checked : a.checkSource p content = .ok found) :
    ∀ v ∈ found, ∃ rule ∈ a.rules,
      ∃ w ∈ rule.check (.ofFile p content a.root) (parsed p content), v.location = w.location := by
  intro v member
  obtain ⟨rule, registered, w, reported, rfl⟩ :=
    exists_regraded_of_checkSource a p content found checked v member
  have graded := (regrade_gradedAs (a.config.severityOf? rule.name) w).content
  exact ⟨rule, registered, w, reported, by rw [graded]⟩

theorem file_of_checkSource [Recovery] (a : Analyzer) (located : a.Located) (p : Path)
    (content : List Char)
    (found : List Violation) (checked : a.checkSource p content = .ok found) :
    ∀ v ∈ found, v.location.file = a.seen p := by
  intro v member
  obtain ⟨rule, registered, w, reported, place⟩ :=
    exists_rule_of_checkSource a p content found checked v member
  rw [place]
  exact located rule registered _ _ w reported

section Runs

variable {a : Analyzer} {read : Path → Except FileFault (List Char)} {found : List Path}

theorem queue_perm (a : Analyzer) (found : List Path) :
    (a.queue found).Perm (found.filter a.accepts) :=
  List.mergeSort_perm _ _

theorem mem_queue_iff (p : Path) :
    p ∈ a.queue found ↔ p ∈ found ∧ a.accepts p = true := by
  rw [(queue_perm a found).mem_iff, List.mem_filter]

theorem queue_sorted (a : Analyzer) (found : List Path) :
    (a.queue found).Pairwise fun p q => (p.compare q).isLE = true :=
  (StablySorted.mergeSort (found.filter a.accepts)).sorted

/-- The order in which files are found is lost in the queue. -/
theorem Apart.queue_eq (apart : a.Apart found) (walk : List Path) (perm : walk.Perm found) :
    a.queue walk = a.queue found := by
  have same : (a.queue walk).Perm (a.queue found) :=
    (queue_perm a walk).trans ((perm.filter a.accepts).trans (queue_perm a found).symm)
  -- files that tie in the order have the same components, so they are one file
  refine List.Perm.eq_of_pairwise ?_ (queue_sorted a walk) (queue_sorted a found) same
  intro p q first second below above
  have left := (mem_queue_iff p).mp (same.subset first)
  have right := (mem_queue_iff q).mp second
  exact apart p left.1 q right.1 left.2 right.2
    ((Path.compare_eq_iff p q).mp (Std.OrientedCmp.isLE_antisymm below above))

namespace Readable

variable [Recovery]

/-- Different files have different components. -/
theorem apart (readable : a.Readable read found) : a.Apart found := by
  intro p first q second left right same
  exact List.inj_on_of_nodup_map readable.distinct (List.mem_filter.mpr ⟨first, left⟩)
    (List.mem_filter.mpr ⟨second, right⟩) same

theorem of_perm (readable : a.Readable read found) (walk : List Path) (perm : walk.Perm found) :
    a.Readable read walk where
  below p member := readable.below p (perm.subset member)
  distinct := (((perm.filter a.accepts).map Path.components).nodup_iff).mpr readable.distinct
  intact p member := readable.intact p (perm.subset member)

theorem queue_nodup (readable : a.Readable read found) : (a.queue found).Nodup :=
  (queue_perm a found).nodup_iff.mpr (List.Nodup.of_map _ readable.distinct)

/-- Different files are reported under different paths. -/
theorem eq_of_seen (readable : a.Readable read found) (absolute : a.root.isAbsolute = true)
    (p q : Path) (first : p ∈ a.queue found) (second : q ∈ a.queue found)
    (same : (a.seen p).components = (a.seen q).components) : p = q := by
  have whole (r : Path) (member : r ∈ a.queue found) :
      r.components = a.root.components ++ (a.seen r).components := by
    obtain ⟨inside, accepted⟩ := (mem_queue_iff r).mp member
    obtain ⟨rest, stripped⟩ := Option.isSome_iff_exists.mp (readable.below r inside accepted)
    unfold seen
    rw [stripped]
    exact Path.components_stripBase r a.root rest absolute stripped
  have left := (mem_queue_iff p).mp first
  have right := (mem_queue_iff q).mp second
  apply readable.apart p left.1 q right.1 left.2 right.2
  rw [whole p first, whole q second, same]

theorem queue_eq (readable : a.Readable read found) (walk : List Path) (perm : walk.Perm found) :
    a.queue walk = a.queue found :=
  readable.apart.queue_eq walk perm

theorem checkFile_ok (readable : a.Readable read found) (p : Path) (member : p ∈ a.queue found) :
    ∃ content, read p = .ok content ∧ a.checkSource p content = .ok (a.findings read p) ∧
      a.checkFile read p = .ok (a.findings read p) := by
  obtain ⟨inside, accepted⟩ := (mem_queue_iff p).mp member
  obtain ⟨content, text, intact⟩ := readable.intact p inside accepted
  have checked := checkSource_ok a p content intact
  have whole : a.checkFile read p = a.checkSource p content := by
    unfold checkFile
    rw [text]
    rfl
  refine ⟨content, text, ?_, ?_⟩
  · unfold findings
    rw [whole, checked]
    rfl
  · unfold findings
    rw [whole, checked]
    rfl

/-- A run puts the findings of its files one behind the other and sorts them. -/
theorem analyzeFiles_eq (readable : a.Readable read found) :
    a.analyzeFiles read found =
      .ok (LintResult.mk ((a.queue found).flatMap (a.findings read))
        (a.queue found).length).sorted := by
  have each : (a.queue found).mapM (a.checkFile read) =
      .ok ((a.queue found).map (a.findings read)) := by
    rw [mapM_ok_iff, List.forall₂_map_right_iff, List.forall₂_same]
    intro p member
    obtain ⟨_, _, _, checked⟩ := readable.checkFile_ok p member
    exact checked
  unfold analyzeFiles
  dsimp only
  rw [each, List.flatMap_def]
  rfl

end Readable

/-- Members of the findings of all files that only one file can have come from that file. -/
theorem filter_flatMap_findings [Recovery] (readable : a.Readable read found) (p : Path)
    (member : p ∈ a.queue found) (keep : Violation → Bool)
    (own : ∀ q ∈ a.queue found, ∀ v ∈ a.findings read q, keep v = true → q = p) :
    ((a.queue found).flatMap (a.findings read)).filter keep = (a.findings read p).filter keep := by
  rw [List.filter_flatMap]
  refine flatMap_eq_of_mem (fun q => (a.findings read q).filter keep) _ p member
    readable.queue_nodup ?_
  intro q inside other
  rw [List.filter_eq_nil_iff]
  exact fun v reported kept => other (own q inside v reported kept)

theorem Readable.file_of_findings [Recovery] (readable : a.Readable read found)
    (located : a.Located) (p : Path) (member : p ∈ a.queue found) :
    ∀ v ∈ a.findings read p, v.location.file = a.seen p := by
  obtain ⟨content, _, checked, _⟩ := readable.checkFile_ok p member
  exact file_of_checkSource a located p content _ checked

/-- What the result says about a file is the sorted list of the file's own findings. -/
theorem Readable.sorted_inFile [Recovery] (readable : a.Readable read found)
    (absolute : a.root.isAbsolute = true) (located : a.Located) (result : List Violation)
    (sorted : StablySorted LintResult.placeOrder ((a.queue found).flatMap (a.findings read)) result)
    (p : Path) (member : p ∈ a.queue found) :
    StablySorted LintResult.lineOrder (a.findings read p)
      (result.filter (Violation.inFile (a.seen p))) := by
  have home := readable.file_of_findings located
  have own : ((a.queue found).flatMap (a.findings read)).filter (Violation.inFile (a.seen p)) =
      a.findings read p := by
    rw [filter_flatMap_findings readable p member]
    · rw [List.filter_eq_self]
      intro v reported
      simp [Violation.inFile, home p member v reported]
    · intro q inside v reported here
      rw [Violation.inFile, home q inside v reported, decide_eq_true_iff] at here
      exact readable.eq_of_seen absolute q p inside member here
  have kept := sorted.filter (Violation.inFile (a.seen p))
  rw [own] at kept
  refine kept.congr LintResult.lineOrder ?_
  intro v first w second
  apply LintResult.placeOrder_eq_lineOrder
  rw [home p member v first, home p member w second]

/-- Findings at one place stand in the result as they stand among those of their file. -/
theorem Readable.ties_inFile [Recovery] (readable : a.Readable read found)
    (absolute : a.root.isAbsolute = true) (located : a.Located) (result : List Violation)
    (sorted : StablySorted LintResult.placeOrder ((a.queue found).flatMap (a.findings read)) result)
    (p : Path) (member : p ∈ a.queue found) (v : Violation) (reported : v ∈ a.findings read p) :
    (result.filter fun w => LintResult.placeOrder v w == .eq) =
      (a.findings read p).filter fun w => LintResult.placeOrder v w == .eq := by
  have home := readable.file_of_findings located
  rw [sorted.stable v (List.mem_flatMap.mpr ⟨p, member, reported⟩)]
  apply filter_flatMap_findings readable p member
  intro q inside w other tie
  have same := LintResult.components_eq_of_tie v w (beq_iff_eq.mp tie)
  rw [home p member v reported, home q inside w other] at same
  exact readable.eq_of_seen absolute q p inside member same.symm

end Runs

/-- A run over files that it gets through has one result, in whatever order they are found: the
number of the files, and their findings by file, line and column, ties left as they are. If rules
report findings in their own file only, the findings in a file are those that checking it alone
gives, by line and column; other files can be added, removed or changed without any effect on
them. -/
theorem analyzeFiles_independent [Recovery] (a : Analyzer) (absolute : a.root.isAbsolute = true)
    (read : Path → Except FileFault (List Char)) (found : List Path)
    (readable : a.Readable read found) :
    ∃ (each : Path → List Violation) (result : LintResult),
      (∀ p ∈ found, a.accepts p = true →
        ∃ content, read p = .ok content ∧ a.checkSource p content = .ok (each p)) ∧
      (∀ walk : List Path, walk.Perm found → a.analyzeFiles read walk = .ok result) ∧
      (∀ (fs : FileSystem) (walk : List Path), walk.Perm found →
        fs.filesBelow a.config.files.respectIgnoreFiles a.root = .ok walk → fs.readText = read →
          a.analyze fs = .ok result) ∧
      result.filesChecked = (found.filter a.accepts).length ∧
      result.violations.Perm ((found.filter a.accepts).flatMap each) ∧
      StablySorted LintResult.placeOrder ((a.queue found).flatMap each) result.violations ∧
      (a.Located → ∀ p ∈ found, a.accepts p = true →
        StablySorted LintResult.lineOrder (each p)
          (result.violations.filter (Violation.inFile (a.seen p))) ∧
        (∀ v ∈ each p, (result.violations.filter fun w => LintResult.placeOrder v w == .eq) =
          (each p).filter fun w => LintResult.placeOrder v w == .eq) ∧
        ∀ (read' : Path → Except FileFault (List Char)) (found' : List Path) (other : LintResult),
          a.Readable read' found' → p ∈ found' → read' p = read p →
          a.analyzeFiles read' found' = .ok other →
            other.violations.filter (Violation.inFile (a.seen p)) =
              result.violations.filter (Violation.inFile (a.seen p))) := by
  have sorted (read : Path → Except FileFault (List Char)) (found : List Path) :
      StablySorted LintResult.placeOrder ((a.queue found).flatMap (a.findings read))
        (LintResult.mk ((a.queue found).flatMap (a.findings read))
          (a.queue found).length).sorted.violations :=
    StablySorted.mergeSort _
  have walked (walk : List Path) (perm : walk.Perm found) :=
    (readable.of_perm walk perm).analyzeFiles_eq
  refine ⟨a.findings read, _, ?_, ?_, ?_, ?_, ?_, sorted read found, ?_⟩
  · intro p member accepted
    obtain ⟨content, text, checked, _⟩ :=
      readable.checkFile_ok p ((mem_queue_iff p).mpr ⟨member, accepted⟩)
    exact ⟨content, text, checked⟩
  · intro walk perm
    rw [walked walk perm, readable.queue_eq walk perm]
  · rintro fs walk perm below rfl
    unfold analyze
    rw [below, ← readable.queue_eq walk perm]
    exact walked walk perm
  · exact (queue_perm a found).length_eq
  · exact (sorted read found).perm.trans ((queue_perm a found).flatMap_right _)
  · intro located p member accepted
    have queued : p ∈ a.queue found := (mem_queue_iff p).mpr ⟨member, accepted⟩
    have here := readable.sorted_inFile absolute located _ (sorted read found) p queued
    refine ⟨here, readable.ties_inFile absolute located _ (sorted read found) p queued, ?_⟩
    intro read' found' other readable' member' same result
    have queued' : p ∈ a.queue found' := (mem_queue_iff p).mpr ⟨member', accepted⟩
    have there := readable'.sorted_inFile absolute located _ (sorted read' found') p queued'
    have unchanged : a.findings read' p = a.findings read p := by
      unfold findings checkFile
      rw [same]
    rw [readable'.analyzeFiles_eq, Except.ok.injEq] at result
    rw [unchanged] at there
    rw [← result]
    exact there.unique here

/-- The statement at two files that are found in either order. -/
theorem analyzeFiles_independent_two_files :
    let a : Analyzer :=
      ⟨.ofString "/p", [ReturnType.rule .default .error], [], [], .default, false⟩
    let read (p : Path) : Except FileFault (List Char) :=
      if p = .ofString "/p/b.ts" then .ok "function g() {}".toList
      else .ok "function f() {}".toList
    let found : List Path := [.ofString "/p/b.ts", .ofString "/p/a.ts"]
    a.root.isAbsolute = true ∧ a.Readable read found ∧ a.Located ∧
      ∃ result, a.analyzeFiles read found = .ok result ∧
        a.analyzeFiles read found.reverse = .ok result ∧ result.filesChecked = 2 := by
  intro a read found
  have readable : a.Readable read found := by
    refine ⟨by decide +kernel, by decide +kernel, ?_⟩
    intro p _ _
    by_cases second : p = .ofString "/p/b.ts"
    · exact ⟨_, if_pos second, .inr rfl⟩
    · exact ⟨_, if_neg second, .inr rfl⟩
  have located : a.Located :=
    located_of_configured a fun r member => ⟨_, _, List.mem_singleton.mp member⟩
  obtain ⟨_, result, _, same, _, size, _⟩ :=
    analyzeFiles_independent a rfl read found readable
  refine ⟨rfl, readable, located, result, same found (.refl found),
    same found.reverse found.reverse_perm, ?_⟩
  rw [size]
  decide +kernel

end Analyzer

end ResultLint
