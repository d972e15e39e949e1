import ResultLint.Proofs.CommandLine.Format
import ResultLint.Proofs.ReturnType.Finding
import ResultLint.Proofs.ReturnType.Suppression
import ResultLint.Proofs.Source.Names

/-!
The compact format. A finding is a line of its own as long as no line ends inside it. Names of
functions hold no line end unless they are salvaged from a source with syntax errors, but a type is
shown as it is written, and it may be written over several lines.
-/
namespace ResultLint

open Source

namespace Violation

/-- A line ends inside the summary of a finding just if one ends inside its path, its code or its
message. -/
theorem feed_mem_summary_iff (v : Violation) :
    '\n' ∈ v.summary.toList ↔
      '\n' ∈ v.location.file.chars ∨ '\n' ∈ v.code.toList ∨ '\n' ∈ v.message.toList := by
  have digits (n : Nat) : '\n' ∉ Nat.toDigits 10 n := by
    intro feed
    exact absurd (Nat.isDigit_of_mem_toDigits (by decide) (by decide) feed) (by decide)
  have severity : '\n' ∉ v.severity.name.toList := by
    cases v.severity <;> decide
  simp [summary, place, headline, Path.toString, digits, severity]

end Violation

namespace ReturnType

/-- The declared return type of a function is written over several lines. -/
def SpansLines (source : List Char) (f : FunctionNode) : Prop :=
  ∃ declared, f.returnType = some declared ∧
    '\n' ∈ (Text.slice? source declared.typeSpan.start declared.typeSpan.stop).getD []

theorem inspect_code (policy : Policy) (severity : Severity) (ctx : FileContext)
    (f : FunctionNode) (v : Violation) (found : inspect policy severity ctx f = some v) :
    v.code = "RW001" := by
  unfold inspect at found
  split at found
  · cases found
  · split at found
    · cases found
      rfl
    · obtain ⟨-, reported⟩ := Option.ite_none_right_eq_some.mp found
      cases reported
      rfl

/-- A line ends inside what is reported at a function just if one ends inside the name that is shown
or inside the type. -/
theorem feed_mem_message_iff (policy : Policy) (severity : Severity) (ctx : FileContext)
    (f : FunctionNode) (v : Violation) (found : inspect policy severity ctx f = some v) :
    '\n' ∈ v.message.toList ↔ v.messageId ≠ none ∧ '\n' ∈ f.name.toList ∨
      v.messageId = some "requireResultType" ∧ SpansLines ctx.content f := by
  -- Of the three messages only the one about an unsuited type shows text of the source other than
  -- the name.
  unfold inspect at found
  split at found
  · cases found
  · next d examined =>
    split at found
    · cases found
      obtain ⟨-, -, -, rfl⟩ := (policy.examine_some_iff f ctx d).mp examined
      change '\n' ∈ (diagnosis f ctx).message.toList ↔
        some (diagnosis f ctx).fault.id ≠ none ∧ _ ∨
          some (diagnosis f ctx).fault.id = some "requireResultType" ∧ _
      unfold diagnosis SpansLines
      cases f.returnType with
      | none =>
        dsimp only
        rw [message_missing, String.toList_append, String.toList_append]
        simp [Fault.id]
      | some declared =>
        dsimp only
        rw [message_unsuited]
        simp [Fault.id, FileContext.text]
    · obtain ⟨-, reported⟩ := Option.ite_none_right_eq_some.mp found
      cases reported
      have message : (missingReason ctx f).message =
          "Allow directive for 'require-result-return-type' is missing required reason" := rfl
      rw [message]
      refine iff_of_false (by decide) ?_
      rintro (⟨named, -⟩ | ⟨named, -⟩)
      · exact named rfl
      · cases named

end ReturnType

namespace Analyzer

/-- A finding with the function at which the rule reports it. -/
structure FoundAt [Recovery] (a : Analyzer) (fs : FileSystem) (v : Violation) (p : Path)
    (content : List Char) (f : FunctionNode) : Prop where
  made : a.MadeIn fs v p
  read : fs.readText p = .ok content
  lowered : f ∈ (parsed p content).functions
  reported : ∃ policy w, ReturnType.rule policy .error ∈ a.rules ∧
    ReturnType.inspect policy .error (.ofFile p content a.root) f = some w ∧
    v = regrade (a.config.severityOf? ReturnType.ruleName) w

variable {a : Analyzer} {fs : FileSystem} {v : Violation} {p : Path}

theorem MadeIn.foundAt [Recovery] (made : a.MadeIn fs v p)
    (only : ∀ rule ∈ a.rules, ∃ policy, rule = ReturnType.rule policy .error) :
    ∃ content f, a.FoundAt fs v p content f := by
  obtain ⟨own, checked, member⟩ := made.made
  unfold checkFile at checked
  simp only [bind_ok_iff, mapError_ok_iff] at checked
  obtain ⟨content, read, checked⟩ := checked
  obtain ⟨rule, registered, w, reported, graded⟩ :=
    a.exists_regraded_of_checkSource p content own checked v member
  obtain ⟨policy, rfl⟩ := only rule registered
  rw [ReturnType.rule_check_eq_filterMap] at reported
  obtain ⟨f, lowered, found⟩ := List.mem_filterMap.mp reported
  exact ⟨content, f, made, read, lowered, policy, w, registered, found, graded⟩

section FoundAt

variable [Recovery] {content : List Char} {f : FunctionNode} (found : a.FoundAt fs v p content f)

include found

theorem FoundAt.code : v.code = "RW001" := by
  obtain ⟨policy, w, -, inspected, rfl⟩ := found.reported
  rw [(regrade_gradedAs _ w).content]
  exact ReturnType.inspect_code policy .error _ f w inspected

/-- A line ends inside a message just if one ends inside the type that it shows, or inside a name
that is salvaged from a source with syntax errors. -/
theorem FoundAt.feed_mem_message_iff :
    '\n' ∈ v.message.toList ↔
      (parsed p content).hasErrors = true ∧ v.messageId ≠ none ∧ '\n' ∈ f.name.toList ∨
        v.messageId = some "requireResultType" ∧ ReturnType.SpansLines content f := by
  obtain ⟨policy, w, -, inspected, rfl⟩ := found.reported
  have message : '\n' ∈ w.message.toList ↔ w.messageId ≠ none ∧ '\n' ∈ f.name.toList ∨
      w.messageId = some "requireResultType" ∧ ReturnType.SpansLines content f :=
    ReturnType.feed_mem_message_iff policy .error _ f w inspected
  rw [(regrade_gradedAs _ w).content]
  dsimp only
  rw [message]
  cases errors : (parsed p content).hasErrors with
  | true => simp
  | false =>
    have named := name_feedless content _ errors f found.lowered
    simp [named]

/-- A finding is a line just if its path, the name and the type that it shows are. -/
theorem FoundAt.feed_mem_summary_iff :
    '\n' ∈ v.summary.toList ↔
      (∃ name, Path.Component.name name ∈ v.location.file.components ∧ '\n' ∈ name) ∨
        (parsed p content).hasErrors = true ∧ v.messageId ≠ none ∧ '\n' ∈ f.name.toList ∨
        v.messageId = some "requireResultType" ∧ ReturnType.SpansLines content f := by
  have code : '\n' ∉ v.code.toList := by
    rw [found.code]
    decide
  rw [v.feed_mem_summary_iff, or_iff_right code, found.feed_mem_message_iff,
    Path.mem_chars_iff '\n' (by decide) (by decide)]

end FoundAt

end Analyzer

namespace CommandLine

variable {e : Environment} {fs : FileSystem} {named : Option Path} {request : CheckRequest}
  {config : Config} {plan : Plan} {analyzer : Analyzer} {result : LintResult}

theorem Analyzed.foundAt [Recovery] (done : Analyzed e fs named request config plan analyzer result)
    (v : Violation) (reported : v ∈ result.violations) :
    ∃ p content f, analyzer.FoundAt fs v p content f := by
  obtain ⟨p, made⟩ := analyzer.madeIn_of_analyze fs result done.analyzed v reported
  obtain ⟨-, rules, -, -⟩ := Plan.fields_of_build plan _ _ _ analyzer done.ready.built
  obtain ⟨-, -, -, configured⟩ := Plan.fields_of_ofConfig config plan done.ready.planned
  obtain ⟨policy, only⟩ := config.configuredRules_ok plan.rules configured
  refine ⟨p, made.foundAt fun rule registered => ⟨policy, ?_⟩⟩
  rwa [rules, only, List.mem_singleton] at registered

/-- The result that a check reports. -/
def resultOf [Recovery] (e : Environment) (fs : FileSystem) (named : Option Path)
    (request : CheckRequest) : Except Failure LintResult := do
  let config ← settledConfig e fs named request
  let both ← setUp config request.excludes fs.current request.path
  (both.2.analyze fs).mapError fun e => about "Analysis failed" e.chain

/-- A check comes to its report just with that result. -/
theorem resultOf_ok_iff [Recovery] : resultOf e fs named request = .ok result ↔
    ∃ config plan analyzer, Analyzed e fs named request config plan analyzer result := by
  unfold resultOf
  simp only [bind_ok_iff, mapError_ok_iff]
  constructor
  · rintro ⟨config, loaded, ⟨plan, analyzer⟩, up, analyzed⟩
    exact ⟨config, plan, analyzer, (ready_iff ..).mpr ⟨loaded, up⟩, analyzed⟩
  · rintro ⟨config, plan, analyzer, ready, analyzed⟩
    obtain ⟨loaded, up⟩ := (ready_iff ..).mp ready
    exact ⟨config, loaded, ⟨plan, analyzer⟩, up, analyzed⟩

/-- A check in the compact format prints the findings one after another, each with its place,
severity, code and message and a line feed behind it. These are the lines of what is printed just if
no finding is in a file with a line feed in its path, none is about a type that is written over
several lines, and none in a source with syntax errors shows a salvaged name with a line feed. -/
theorem compact_lines_iff [Recovery]
    (done : Analyzed e fs named request config plan analyzer result)
    (format : request.format = .compact) (arguments : List String)
    (understood : Request.ofArguments e.config arguments = .ok ⟨.check request, named⟩) :
    let printed := (run e fs arguments).output.toList
    let lines := result.violations.map fun v => v.summary.toList
    (∀ v : Violation, v.summary = v.location.file.toString ++ ":" ++ toString v.location.line ++
      ":" ++ toString v.location.column ++ ": " ++ v.severity.name ++ " [" ++ v.code ++ "] " ++
      v.message) ∧
    printed = lines.flatMap (· ++ ['\n']) ∧
    (∀ v ∈ result.violations, ∃ p content f, analyzer.FoundAt fs v p content f) ∧
    (Text.splitOn '\n' printed = lines ++ [[]] ↔ ∀ v ∈ result.violations,
      (∀ name, Path.Component.name name ∈ v.location.file.components → '\n' ∉ name) ∧
      ∀ p content f, analyzer.FoundAt fs v p content f →
        ¬ (v.messageId = some "requireResultType" ∧ ReturnType.SpansLines content f) ∧
        ((Analyzer.parsed p content).hasErrors = true → v.messageId ≠ none →
          '\n' ∉ f.name.toList)) := by
  intro printed lines
  have ran : (run e fs arguments).output = Report.compact result := by
    have same : { request with format := .compact } = request := by rw [← format]
    rw [run_check e fs named request arguments understood, ← same, done.check_eq]
    rfl
  have output : printed = lines.flatMap (· ++ ['\n']) := by
    simp only [printed, lines, ran, Report.compact, String.toList_join, List.flatMap_map,
      String.toList_append]
    rfl
  have spelled (v : Violation) : v.summary = v.location.file.toString ++ ":" ++
      toString v.location.line ++ ":" ++ toString v.location.column ++ ": " ++ v.severity.name ++
      " [" ++ v.code ++ "] " ++ v.message := by
    apply String.toList_injective
    simp [Violation.summary, Violation.place, Violation.headline]
  refine ⟨spelled, output, done.foundAt, ?_⟩
  rw [output, Text.splitOn_ended_iff, List.forall_mem_map]
  refine forall₂_congr fun v reported => ?_
  obtain ⟨p, content, f, here⟩ := done.foundAt v reported
  constructor
  · intro feedless
    refine ⟨fun name listed feed => ?_,
      fun p content f found => ⟨fun overLines => ?_, fun errors shown feed => ?_⟩⟩
    · exact feedless (here.feed_mem_summary_iff.mpr (.inl ⟨name, listed, feed⟩))
    · exact feedless (found.feed_mem_summary_iff.mpr (.inr (.inr overLines)))
    · exact feedless (found.feed_mem_summary_iff.mpr (.inr (.inl ⟨errors, shown, feed⟩)))
  · rintro ⟨path, shows⟩ feed
    obtain ⟨types, names⟩ := shows p content f here
    rcases here.feed_mem_summary_iff.mp feed with
      ⟨name, listed, inside⟩ | ⟨errors, shown, inside⟩ | overLines
    · exact path name listed inside
    · exact names errors shown inside
    · exact types overLines

/-- The statement at a function whose type is written on one line. -/
theorem compact_lines_iff_one_line :
    let fs : FileSystem := ⟨.directory [("a.ts".toList,
      .file (Text.encode "function f(): string {}\n".toList))], .ofString "/"⟩
    let e : Environment := ⟨none, none, none⟩
    let request : CheckRequest := ⟨.ofString ".", .compact, none, []⟩
    let line := "a.ts:1:13: error [RW001] Function \"f\" must return Result<T, E> type. " ++
      "Current return type: string"
    ∃ config plan analyzer result, Analyzed e fs none request config plan analyzer result ∧
      Text.splitOn '\n' (run e fs ["check", "--format", "compact"]).output.toList =
        [line.toList, []] ∧
      ∀ v ∈ result.violations, ∀ p content f, analyzer.FoundAt fs v p content f →
        ¬ (v.messageId = some "requireResultType" ∧ ReturnType.SpansLines content f) ∧
        ((Analyzer.parsed p content).hasErrors = true → v.messageId ≠ none →
          '\n' ∉ f.name.toList) := by
  intro fs e request line
  have reported : (resultOf e fs none request).toOption.map
      (fun result => result.violations.map Violation.summary) = some [line] := by
    decide +kernel
  obtain ⟨result, known, summaries⟩ := Option.map_eq_some_iff.mp reported
  have ok : resultOf e fs none request = .ok result := by
    cases ran : resultOf e fs none request with
    | error failure => simp [ran, Except.toOption] at known
    | ok other =>
      rw [ran] at known
      cases known
      rfl
  obtain ⟨config, plan, analyzer, done⟩ := resultOf_ok_iff.mp ok
  have lines : result.violations.map (fun v => v.summary.toList) = [line.toList] := by
    have mapped := congrArg (List.map String.toList) summaries
    rwa [List.map_map] at mapped
  obtain ⟨-, output, -, each⟩ := compact_lines_iff done rfl ["check", "--format", "compact"] rfl
  have printed : Text.splitOn '\n' (run e fs ["check", "--format", "compact"]).output.toList =
      [line.toList, []] := by
    rw [output, lines]
    decide +kernel
  have oneLine := each.mp (by rw [lines, printed]; rfl)
  exact ⟨config, plan, analyzer, result, done, printed, fun v member => (oneLine v member).2⟩

/-- A type that is written over three lines takes three lines of the compact format. -/
theorem compact_type_spans_lines :
    let fs : FileSystem := ⟨.directory [("a.ts".toList,
      .file (Text.encode "function f(): Promise<\n  string\n> {}\n".toList))], .ofString "/"⟩
    let e : Environment := ⟨none, none, none⟩
    let request : CheckRequest := ⟨.ofString ".", .compact, none, []⟩
    (resultOf e fs none request).toOption.map (·.violations.length) = some 1 ∧
      (run e fs ["check", "--format", "compact"]).output =
        "a.ts:1:13: error [RW001] Function \"f\" must return Result<T, E> type. " ++
          "Current return type: Promise<\n  string\n>\n" := by
  intro fs e request
  exact ⟨by decide +kernel, by decide +kernel⟩

end CommandLine

end ResultLint
