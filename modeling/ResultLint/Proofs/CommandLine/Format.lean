import ResultLint.Proofs.Analyzer.Result
import ResultLint.Proofs.CommandLine.Check
import ResultLint.Proofs.Walk

/-!
The format of a report. It decides what a check prints, and apart from one case nothing else: an
excerpt is taken from the file in which a finding was made, whose path is found again behind the
root. Where the root is a file itself there is nothing behind it, and excerpts fail.
-/
namespace ResultLint

namespace Analyzer

/-- A finding that a run makes in a file at a path. -/
structure MadeIn [Recovery] (a : Analyzer) (fs : FileSystem) (v : Violation) (p : Path) :
    Prop where
  looked : ∃ found, fs.filesBelow a.config.files.respectIgnoreFiles a.root = .ok found ∧
    p ∈ a.queue found
  made : ∃ own, a.checkFile fs.readText p = .ok own ∧ v ∈ own

/-- Every finding of a run is made in some file. -/
theorem madeIn_of_analyze [Recovery] (a : Analyzer) (fs : FileSystem) (result : LintResult)
    (analyzed : a.analyze fs = .ok result) (v : Violation) (reported : v ∈ result.violations) :
    ∃ p, a.MadeIn fs v p := by
  unfold analyze analyzeFiles at analyzed
  simp only [bind_ok_iff, mapError_ok_iff, pure_ok_iff, mapM_ok_iff] at analyzed
  obtain ⟨found, walk, findings, each, rfl⟩ := analyzed
  rw [LintResult.sorted, List.mem_mergeSort, List.mem_flatten] at reported
  obtain ⟨p, queued, own, checked, member⟩ :=
    (exists_mem_iff_of_forall₂ (p := fun p => ∃ own, a.checkFile fs.readText p = .ok own ∧ v ∈ own)
      (q := fun own => v ∈ own) each (by intro p own checked; simp [checked])).mpr reported
  exact ⟨p, ⟨found, walk, queued⟩, own, checked, member⟩

section MadeIn

variable [Recovery] {a : Analyzer} {fs : FileSystem} {v : Violation} {p : Path}

theorem MadeIn.source (made : a.MadeIn fs v p) : ∃ content, fs.readText p = .ok content := by
  obtain ⟨own, checked, -⟩ := made.made
  unfold checkFile at checked
  simp only [bind_ok_iff, mapError_ok_iff] at checked
  obtain ⟨content, read, -⟩ := checked
  exact ⟨content, read⟩

theorem MadeIn.file (made : a.MadeIn fs v p) (located : a.Located) :
    v.location.file = a.seen p := by
  obtain ⟨own, checked, member⟩ := made.made
  unfold checkFile at checked
  simp only [bind_ok_iff, mapError_ok_iff] at checked
  obtain ⟨content, -, checked⟩ := checked
  exact a.file_of_checkSource located p content own checked v member

/-- Below a directory the path of the file is found again behind the root. -/
theorem MadeIn.join_file (made : a.MadeIn fs v p) (located : a.Located)
    (absolute : a.root.isAbsolute = true) (named : fs.top.WellNamed)
    (entries : List (List Char × FileTree))
    (directory : fs.locate a.root = .ok (.directory entries)) :
    a.root.join v.location.file = p := by
  obtain ⟨found, walk, queued⟩ := made.looked
  unfold FileSystem.filesBelow at walk
  rw [directory] at walk
  cases walk
  obtain ⟨way, member, rfl⟩ := List.mem_map.mp (mem_queue_iff p |>.mp queued).1
  have inside : (FileTree.directory entries).WellNamed := by
    rw [FileSystem.locate_of_absolute fs _ absolute] at directory
    exact named.follow _ [] (by simp) directory
  have names := Walk.names_of_filesOf _ _ _ inside way member
  have moves : way ≠ [] := by
    rw [Walk.filesOf.eq_def] at member
    exact Walk.filesAmong_ne_nil _ _ _ way member
  rw [made.file located, seen, Path.foldl_join_ofWay way moves names,
    Path.stripBase_ofWay way moves names a.root absolute]
  rfl

/-- Where the root is a file, nothing can be read at what is looked up behind it. -/
theorem MadeIn.join_file_unread (made : a.MadeIn fs v p) (located : a.Located)
    (absolute : a.root.isAbsolute = true) (bytes : List UInt8)
    (file : fs.locate a.root = .ok (.file bytes)) :
    fs.readText (a.root.join v.location.file) = .error .notDirectory := by
  obtain ⟨found, walk, queued⟩ := made.looked
  unfold FileSystem.filesBelow at walk
  rw [file] at walk
  cases walk
  have itself : p = a.root := by
    simpa [Walk.filesOf] using (mem_queue_iff p |>.mp queued).1
  obtain ⟨rest, stripped, relative⟩ := Path.stripBase_self a.root absolute
  have beyond := fs.locate_beyond_file a.root rest absolute relative bytes file
  rw [made.file located, itself, seen, stripped, Option.getD_some]
  unfold FileSystem.readText FileSystem.readBytes
  rw [beyond]
  rfl

end MadeIn

end Analyzer

/-- Only excerpts can fail, and they do if some source cannot be read. -/
theorem LintResult.report_ok_iff (r : LintResult) (format : ReportFormat)
    (read : Path → Except FileFault (List Char)) (root : Path) :
    (∃ report, r.report format read root = .ok report) ↔
      (format = .rich →
        ∀ v ∈ r.violations, ∃ source, read (root.join v.location.file) = .ok source) := by
  cases format with
  | rich =>
    simp only [report, Report.rich, bind_ok_iff, pure_ok_iff, mapM_ok_iff, mapError_ok_iff,
      forall_const]
    rw [← exists_comm]
    simp only [exists_and_left, exists_eq', and_true]
    rw [exists_forall₂_iff]
    simp only [exists_comm (α := String), exists_and_left, exists_eq', and_true]
  | _ => simp [report]

namespace CommandLine

/-- Two runs end alike: both succeed or both fail, and with one exit code. -/
structure Outcome.EndsLike (o o' : Outcome) : Prop where
  exitCode : o.exitCode = o'.exitCode
  failed : o.failure.isSome = o'.failure.isSome

section Format

variable (e : Environment) (fs : FileSystem) (named : Option Path) (request : CheckRequest)

/-- A check that comes to its report. -/
structure Analyzed [Recovery] (config : Config) (plan : Plan) (analyzer : Analyzer)
    (result : LintResult) : Prop where
  ready : Ready e fs named request config plan analyzer
  analyzed : analyzer.analyze fs = .ok result

/-- A check that comes to its report has something to report. -/
def Finds [Recovery] : Prop :=
  ∃ config plan analyzer result, Analyzed e fs named request config plan analyzer result ∧
    result.violations ≠ []

/-- A check that does not come to its report fails in the same way whatever its format. -/
theorem check_of_not_analyzed [Recovery]
    (stopped : ¬ ∃ config plan analyzer result,
      Analyzed e fs named request config plan analyzer result) :
    ∃ failure, ∀ format, check e fs named { request with format := format } = .error failure := by
  have settled (format : ReportFormat) :
      settledConfig e fs named { request with format := format } =
        settledConfig e fs named request := rfl
  simp only [check_eq, settled]
  cases loaded : settledConfig e fs named request with
  | error failure => exact ⟨failure, fun _ => rfl⟩
  | ok config =>
    change ∃ failure, ∀ format, (setUp config request.excludes fs.current request.path >>= _) = _
    cases up : setUp config request.excludes fs.current request.path with
    | error failure => exact ⟨failure, fun _ => rfl⟩
    | ok both =>
      obtain ⟨plan, analyzer⟩ := both
      have ready := (ready_iff e fs named request config plan analyzer).mpr ⟨loaded, up⟩
      change ∃ failure, ∀ format, afterSetUp fs _ plan analyzer = _
      unfold afterSetUp
      cases run : analyzer.analyze fs with
      | error error => exact ⟨_, fun _ => rfl⟩
      | ok result => exact absurd ⟨config, plan, analyzer, result, ready, run⟩ stopped

section IsAnalyzed

variable [Recovery] {e fs named request} {config : Config} {plan : Plan} {analyzer : Analyzer}
  {result : LintResult} (done : Analyzed e fs named request config plan analyzer result)

include done

theorem Analyzed.check_eq (format : ReportFormat) :
    check e fs named { request with format := format } =
      ((result.report format fs.readText analyzer.root).mapError fun missing =>
        about ("Failed to read " ++ missing.path.toString) [missing.fault.message]).map
          fun report => (report, plan.isFailedBy result) := by
  have ready : Ready e fs named { request with format := format } config plan analyzer :=
    ⟨done.ready.loaded, done.ready.planned, done.ready.built⟩
  rw [ready.check_eq, afterSetUp, done.analyzed]
  simp only [bind, Except.bind, Except.mapError]
  cases result.report format fs.readText analyzer.root <;> rfl

/-- Two formats make a check end alike just if both can be written or neither. -/
theorem Analyzed.endsLike_iff (f g : ReportFormat) (one other : List String)
    (first : Request.ofArguments e.config one = .ok ⟨.check { request with format := f }, named⟩)
    (second : Request.ofArguments e.config other =
      .ok ⟨.check { request with format := g }, named⟩) :
    (run e fs one).EndsLike (run e fs other) ↔
      ((∃ report, result.report f fs.readText analyzer.root = .ok report) ↔
        ∃ report, result.report g fs.readText analyzer.root = .ok report) := by
  rw [run_check e fs named _ one first, run_check e fs named _ other second, done.check_eq,
    done.check_eq]
  cases result.report f fs.readText analyzer.root <;>
    cases result.report g fs.readText analyzer.root
  · exact iff_of_true ⟨rfl, rfl⟩ (by simp)
  · refine iff_of_false (fun alike => ?_) (by simp)
    cases alike.failed
  · refine iff_of_false (fun alike => ?_) (by simp)
    cases alike.failed
  · exact iff_of_true ⟨rfl, rfl⟩ (by simp)

theorem Analyzed.root_eq : analyzer.root = fs.current.join request.path :=
  (Plan.fields_of_build plan _ _ _ analyzer done.ready.built).1

theorem Analyzed.located : analyzer.Located := by
  obtain ⟨-, rules, -, -⟩ := Plan.fields_of_build plan _ _ _ analyzer done.ready.built
  obtain ⟨-, -, -, configured⟩ := Plan.fields_of_ofConfig config plan done.ready.planned
  obtain ⟨policy, only⟩ := config.configuredRules_ok plan.rules configured
  refine analyzer.located_of_configured fun rule registered => ⟨policy, .error, ?_⟩
  rwa [rules, only, List.mem_singleton] at registered

/-- A check comes to one result only. -/
theorem Analyzed.finds_iff : Finds e fs named request ↔ result.violations ≠ [] := by
  refine ⟨?_, fun found => ⟨config, plan, analyzer, result, done, found⟩⟩
  rintro ⟨config', plan', analyzer', result', done', found⟩
  have same := ((ready_iff e fs named request _ _ _).mp done.ready)
  have same' := ((ready_iff e fs named request _ _ _).mp done'.ready)
  obtain rfl : config = config' := by
    rw [same.1] at same'
    exact Except.ok.inj same'.1
  obtain ⟨rfl, rfl⟩ : plan = plan' ∧ analyzer = analyzer' := by
    rw [same.2] at same'
    simpa using same'.2
  obtain rfl : result = result' := by
    have again := done'.analyzed
    rw [done.analyzed] at again
    exact Except.ok.inj again
  exact found

end IsAnalyzed

/-- Where a path leads to a single file, and only there, the excerpts cannot be taken from where the
findings were made. -/
theorem Analyzed.source_place [Recovery] {config : Config} {plan : Plan} {analyzer : Analyzer}
    {result : LintResult} (done : Analyzed e fs named request config plan analyzer result)
    (absolute : fs.current.isAbsolute = true) (tree : fs.top.WellNamed) (v : Violation) (p : Path)
    (made : analyzer.MadeIn fs v p) :
    (fs.isFile (fs.current.join request.path) = false →
      analyzer.root.join v.location.file = p ∧
        ∃ source, fs.readText (analyzer.root.join v.location.file) = .ok source) ∧
    (fs.isFile (fs.current.join request.path) = true →
      fs.readText (analyzer.root.join v.location.file) = .error .notDirectory) := by
  have rooted : analyzer.root.isAbsolute = true := by
    rw [done.root_eq, Path.isAbsolute_join, absolute, Bool.true_or]
  rw [← done.root_eq]
  unfold FileSystem.isFile
  obtain ⟨found, walk, -⟩ := made.looked
  cases leads : fs.locate analyzer.root with
  | error fault =>
    unfold FileSystem.filesBelow at walk
    rw [leads] at walk
    cases walk
  | ok node =>
    cases node with
    | file bytes =>
      exact ⟨fun other => absurd other (by simp),
        fun _ => made.join_file_unread done.located rooted bytes leads⟩
    | directory entries =>
      have back := made.join_file done.located rooted tree entries leads
      refine ⟨fun _ => ⟨back, ?_⟩, fun other => absurd other (by simp)⟩
      rw [back]
      exact made.source

/-- The format of a report has no part in how a check ends, and every excerpt is taken from the file
in which its finding was made, unless the path leads to a single file in which something is found.
Then excerpts cannot be taken, while the other three formats still end alike. -/
theorem formats_end_alike_iff [Recovery] (arguments : ReportFormat → List String)
    (absolute : fs.current.isAbsolute = true) (tree : fs.top.WellNamed)
    (understood : ∀ format, Request.ofArguments e.config (arguments format) =
      .ok ⟨.check { request with format := format }, named⟩) :
    ((∀ f g, (run e fs (arguments f)).EndsLike (run e fs (arguments g))) ↔
      ¬ (fs.isFile (fs.current.join request.path) = true ∧ Finds e fs named request)) ∧
    (∀ f g, f ≠ .rich → g ≠ .rich →
      (run e fs (arguments f)).EndsLike (run e fs (arguments g))) ∧
    ∀ config plan analyzer result, Analyzed e fs named request config plan analyzer result →
      ∀ v ∈ result.violations, (∃ p, analyzer.MadeIn fs v p) ∧ ∀ p, analyzer.MadeIn fs v p →
        (fs.isFile (fs.current.join request.path) = false →
          analyzer.root.join v.location.file = p) ∧
        (fs.isFile (fs.current.join request.path) = true →
          fs.readText (analyzer.root.join v.location.file) = .error .notDirectory) := by
  have places (config : Config) (plan : Plan) (analyzer : Analyzer) (result : LintResult)
      (done : Analyzed e fs named request config plan analyzer result) (v : Violation)
      (reported : v ∈ result.violations) :=
    And.intro (analyzer.madeIn_of_analyze fs result done.analyzed v reported)
      (done.source_place e fs named request absolute tree v)
  by_cases reached : ∃ config plan analyzer result,
      Analyzed e fs named request config plan analyzer result
  · obtain ⟨config, plan, analyzer, result, done⟩ := reached
    have alike (f g : ReportFormat) := done.endsLike_iff f g _ _ (understood f) (understood g)
    simp only [alike, result.report_ok_iff, done.finds_iff]
    refine ⟨⟨?_, ?_⟩, ?_, ?_⟩
    · rintro same ⟨file, found⟩
      obtain ⟨v, reported⟩ := List.exists_mem_of_ne_nil _ found
      obtain ⟨⟨p, made⟩, place⟩ := places _ _ _ _ done v reported
      obtain ⟨source, read⟩ := (same .text .rich).mp (by simp) rfl v reported
      rw [(place p made).2 file] at read
      cases read
    · intro clear f g
      have readable : ∀ v ∈ result.violations, ∃ source,
          fs.readText (analyzer.root.join v.location.file) = .ok source := by
        intro v reported
        obtain ⟨⟨p, made⟩, place⟩ := places _ _ _ _ done v reported
        refine ((place p made).1 ?_).2
        rw [← Bool.not_eq_true]
        exact fun file => clear ⟨file, List.ne_nil_of_mem reported⟩
      exact iff_of_true (fun _ => readable) (fun _ => readable)
    · intro f g notRich notRich'
      exact iff_of_true (fun rich => absurd rich notRich) (fun rich => absurd rich notRich')
    · intro config plan analyzer result done v reported
      obtain ⟨made, place⟩ := places _ _ _ _ done v reported
      exact ⟨made, fun p here => ⟨fun tree => ((place p here).1 tree).1, (place p here).2⟩⟩
  · obtain ⟨failure, stopped⟩ := check_of_not_analyzed e fs named request reached
    have alike (f g : ReportFormat) :
        (run e fs (arguments f)).EndsLike (run e fs (arguments g)) := by
      rw [run_check e fs named _ _ (understood f), run_check e fs named _ _ (understood g),
        stopped f, stopped g]
      exact ⟨rfl, rfl⟩
    refine ⟨iff_of_true alike ?_, fun f g _ _ => alike f g, ?_⟩
    · rintro ⟨-, config, plan, analyzer, result, done, -⟩
      exact reached ⟨config, plan, analyzer, result, done⟩
    · intro config plan analyzer result done
      exact absurd ⟨config, plan, analyzer, result, done⟩ reached

/-- The statement at a directory with a file in which something is found. -/
theorem formats_end_alike_iff_directory :
    let text := "// railway-lint: allow(require-result-return-type)\nfunction f() {}\n"
    let fs : FileSystem :=
      ⟨.directory [("a.ts".toList, .file (Text.encode text.toList))], .ofString "/"⟩
    let e : Environment := ⟨none, none, none⟩
    fs.current.isAbsolute = true ∧ fs.top.WellNamed ∧
      ∀ f g : ReportFormat, (run e fs ["check", "--format", f.name]).EndsLike
        (run e fs ["check", "--format", g.name]) := by
  intro text fs e
  have absolute : fs.current.isAbsolute = true := rfl
  have tree : fs.top.WellNamed := .directory _
    (by simpa using ⟨by decide, by decide, by decide, by decide⟩)
    (by simpa using .file _)
  refine ⟨absolute, tree, ?_⟩
  have ends := formats_end_alike_iff e fs none ⟨.ofString ".", .text, none, []⟩
    (fun format => ["check", "--format", format.name]) absolute tree
    (fun format => by cases format <;> rfl)
  exact ends.1.mpr fun file => absurd file.1 (by decide +kernel)

/-- Where the path is that of the file, the check only fails with excerpts. -/
theorem excerpts_fail_at_single_file :
    let text := "// railway-lint: allow(require-result-return-type)\nfunction f() {}\n"
    let fs : FileSystem :=
      ⟨.directory [("a.ts".toList, .file (Text.encode text.toList))], .ofString "/"⟩
    let e : Environment := ⟨none, none, none⟩
    let plainly := run e fs ["check", "a.ts", "--format", "text"]
    let excerpts := run e fs ["check", "a.ts", "--format", "rich"]
    plainly.exitCode = 0 ∧ plainly.failure = none ∧ excerpts.exitCode = 1 ∧
      excerpts.failure =
        some (about "Failed to read /a.ts/" ["Not a directory (os error 20)"]) := by
  decide +kernel

end Format

end CommandLine

end ResultLint
