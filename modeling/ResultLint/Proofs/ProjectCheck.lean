import ResultLint.Proofs.Analyzer.Respelling
import ResultLint.Proofs.CommandLine.Check

/-!
The check of a project from the command line and as one of its tests. Both make the same plan of a
configuration, so they stop at the same faults and build analyzers that differ in their roots at
most. The command looks at the directory that it is given, the test at the root that is configured
below it; where that is another directory the two part.
-/
namespace ResultLint.ProjectCheck

open CommandLine FileSystem

/-- One error, as the command tells it and as the test does. -/
inductive SameError : Failure → Error → Prop
  | choice (choice : Plan.Choice) (e : ConfigError) :
      SameError (choiceFailure (choice, e)) (.config e)
  | building (e : AnalysisError) :
      SameError (about "Failed to build analyzer" e.chain) (.analysis e)
  | running (e : AnalysisError) : SameError (about "Analysis failed" e.chain) (.analysis e)

/-- The command and the test come to one end: the same error, or one result. -/
inductive SameEnd (fs : FileSystem) : Outcome → Except Error (LintResult × Severity) → Prop
  | failed (failure : Failure) (error : Error) (same : SameError failure error) :
      SameEnd fs ⟨1, "", some failure, fs⟩ (.error error)
  | found (result : LintResult) (failOn : Severity) :
      SameEnd fs ⟨if result.reaches failOn then 1 else 0, Report.text result, none, fs⟩
        (.ok (result, failOn))

/-- Analyzers that look at one directory, and alike in everything but the spelling of its path. -/
structure SameScope (a b : Analyzer) : Prop where
  root : a.root.components = b.root.components
  rest : a = { b with root := a.root }

/-- Whatever analyzers the command and the test build for a project, they have one scope. -/
def SameScopes (fs : FileSystem) (project : Path) (config : Config) (root : Path) : Prop :=
  ∀ plan command test, Plan.ofConfig config = .ok plan →
    (plan.setup project []).build fs.current = .ok command →
    (plan.setup (project.join root) []).build fs.current = .ok test → SameScope test command

/-- The command's exit code tells whether the test fails. -/
theorem exitCode_iff_of_sameEnd [Recovery] (fs : FileSystem) (manifest : Option Path)
    (options : CheckOptions) (outcome : Outcome)
    (same : SameEnd fs outcome (evaluate fs (projectRoot fs manifest) options)) :
    outcome.exitCode = 1 ↔ (failure? fs manifest options).isSome = true := by
  unfold failure?
  generalize evaluate fs (projectRoot fs manifest) options = ended at same
  cases same with
  | failed failure error same => simp
  | found result failOn => cases reached : result.reaches failOn <;> simp [reached]

theorem evaluate_of_loaded [Recovery] (fs : FileSystem) (root : Path) (options : CheckOptions)
    (config : Config) (loaded : loadConfig fs root options.config = .ok config) :
    evaluate fs root options = (do
      let plan ← (Plan.ofConfig (CheckOptions.applyTo options config)).mapError fun e => .config e.2
      let analyzer ← ((plan.setup (root.join config.files.root) []).build fs.current).mapError
        .analysis
      let result ← (analyzer.analyze fs).mapError .analysis
      return (result, plan.failOn)) := by
  unfold evaluate
  rw [loaded]
  rfl

/-- The test reads a configuration file as the command does. -/
theorem loadConfig_of_load (fs : FileSystem) (root path : Path) (named : Option String)
    (config : Config) (place : configPath? fs root named = some path)
    (loaded : Config.load fs path = .ok config) : loadConfig fs root named = .ok config := by
  unfold Config.load at loaded
  unfold loadConfig
  rw [place]
  dsimp only
  cases text : fs.readText path with
  | error fault => simp [text] at loaded
  | ok s =>
    rw [text] at loaded
    have parsed := (mapError_ok_iff _ _ config).mp loaded
    simp [Except.mapError, bind, Except.bind, parsed]

section Both

variable {e : Environment} {fs : FileSystem} {project : Path} {named : Option Path}
  {options : CheckOptions} {config : Config}

theorem settledConfig_eq (unsaid : options.failOn = none)
    (loaded : CommandLine.loadConfig fs (CommandLine.configPath? e fs project named) = .ok config) :
    settledConfig e fs named ⟨project, .text, options.preset, []⟩ =
      .ok (CheckOptions.applyTo options config) := by
  unfold settledConfig CheckOptions.applyTo
  dsimp only
  rw [loaded, unsaid]
  rfl

/-- Both stop at the same fault of the configuration. -/
theorem sameEnd_of_fault [Recovery] (failure : Failure)
    (loaded : settledConfig e fs named ⟨project, .text, options.preset, []⟩ =
      .ok (CheckOptions.applyTo options config))
    (byTest : loadConfig fs project options.config = .ok config)
    (fault : EarliestFault (CheckOptions.applyTo options config) [] failure) :
    ∃ error, SameError failure error ∧
      check e fs named ⟨project, .text, options.preset, []⟩ = .error failure ∧
      evaluate fs project options = .error error := by
  have stopped : check e fs named ⟨project, .text, options.preset, []⟩ = .error failure :=
    (check_error_iff e fs named _ failure).mpr (.misconfigured _ failure loaded fault)
  have up := (setUp_error_iff _ _ fs.current project failure).mpr fault
  rw [evaluate_of_loaded fs project options config byTest]
  cases planned : Plan.ofConfig (CheckOptions.applyTo options config) with
  | error refusal =>
    obtain ⟨choice, refused⟩ := refusal
    rw [setUp_of_ofConfig_error _ _ _ _ choice refused planned] at up
    cases up
    exact ⟨.config refused, .choice choice refused, stopped, rfl⟩
  | ok plan =>
    obtain ⟨broken, built, rfl⟩ := (setUp_of_build _ _ _ _ plan planned failure).mp up
    refine ⟨.analysis broken, .building broken, stopped, ?_⟩
    have built' := plan.build_root project [] fs.current (project.join config.files.root)
    rw [built] at built'
    simp only [bind, Except.bind, Except.mapError, built', Except.map]

section Planned

variable {plan : Plan} {command : Analyzer}
  (planned : Plan.ofConfig (CheckOptions.applyTo options config) = .ok plan)
  (built : (plan.setup project []).build fs.current = .ok command)

include built

theorem build_of_test : (plan.setup (project.join config.files.root) []).build fs.current =
    .ok { command with root := (fs.current.join project).join config.files.root } := by
  rw [plan.build_root project, built, Path.join_assoc]
  rfl

include planned

/-- Spelled otherwise or not, one directory gives one result. -/
theorem analyze_of_test [Recovery]
    (same : fs.SameDirectory (fs.current.join project)
      ((fs.current.join project).join config.files.root)) :
    { command with root := (fs.current.join project).join config.files.root }.analyze fs =
      command.analyze fs := by
  obtain ⟨root, rules, -, lenient⟩ := plan.fields_of_build project [] fs.current command built
  have configured : command.Configured := by
    obtain ⟨-, -, -, read⟩ := Plan.fields_of_ofConfig _ plan planned
    obtain ⟨policy, only⟩ := Config.configuredRules_ok _ _ read
    intro rule member
    rw [rules, only, List.mem_singleton] at member
    exact ⟨policy, .error, member⟩
  have respelled := command.analyze_congr same configured lenient
  rw [← root] at respelled ⊢
  exact respelled.symm

/-- The test's result is then the command's. -/
theorem evaluate_eq_of_root [Recovery] (byTest : loadConfig fs project options.config = .ok config)
    (same : fs.SameDirectory (fs.current.join project)
      ((fs.current.join project).join config.files.root)) :
    evaluate fs project options =
      ((command.analyze fs).mapError .analysis).map fun result => (result, plan.failOn) := by
  rw [evaluate_of_loaded fs project options config byTest, planned]
  simp only [bind, Except.bind, Except.mapError]
  rw [build_of_test built]
  simp only
  rw [analyze_of_test planned built same]
  cases command.analyze fs <;> rfl

/-- The two scopes are one just if the configured root leads back to the project's directory. -/
theorem sameScopes_iff :
    SameScopes fs project (CheckOptions.applyTo options config) config.files.root ↔
      ((fs.current.join project).join config.files.root).components =
        (fs.current.join project).components := by
  have root := (plan.fields_of_build project [] fs.current command built).1
  constructor
  · intro scopes
    have same := (scopes plan command _ planned built (build_of_test built)).root
    rwa [root] at same
  · intro back plan' command' test planned' built' builtTest
    rw [planned] at planned'
    cases planned'
    rw [built] at built'
    cases built'
    rw [build_of_test built] at builtTest
    cases builtTest
    rw [← root] at back ⊢
    exact ⟨back, rfl⟩

end Planned

/-- A configuration with a fault leads to no analyzer. -/
theorem sameScopes_of_fault (root : Path) (failure : Failure)
    (fault : EarliestFault config [] failure) : SameScopes fs project config root := by
  intro plan command test planned built
  have up := (setUp_error_iff config [] fs.current project failure).mpr fault
  unfold setUp at up
  rw [planned] at up
  simp only [bind, Except.bind, Except.mapError, built] at up
  cases up

/-- With a plan and an analyzer both come to one end if their roots are one directory. -/
theorem sameEnd_of_root [Recovery] {plan : Plan} {command : Analyzer}
    (ready : Ready e fs named ⟨project, .text, options.preset, []⟩
      (CheckOptions.applyTo options config) plan command)
    (byTest : loadConfig fs project options.config = .ok config)
    (same : fs.SameDirectory (fs.current.join project)
      ((fs.current.join project).join config.files.root)) (arguments : List String)
    (understood : Request.ofArguments e.config arguments =
      .ok ⟨.check ⟨project, .text, options.preset, []⟩, named⟩) :
    SameEnd fs (run e fs arguments) (evaluate fs project options) := by
  rw [run_check e fs named _ arguments understood, ready.check_eq,
    evaluate_eq_of_root ready.planned ready.built byTest same]
  unfold afterSetUp
  cases command.analyze fs with
  | error broken => exact .failed _ _ (.running broken)
  | ok result => exact .found result plan.failOn

end Both

/-- On a project directory, and with one configuration, the command without further excludes and the
test come to one end over one directory just if the configuration has a fault, which both then tell,
or the configured root leads back to the directory itself. -/
theorem agrees_with_command_iff [Recovery] (e : Environment) (fs : FileSystem) (project : Path)
    (named manifest : Option Path) (options : CheckOptions) (config : Config)
    (arguments : List String) (entries : List (List Char × FileTree))
    (absolute : fs.current.isAbsolute = true)
    (directory : fs.locate (fs.current.join project) = .ok (.directory entries))
    (understood : Request.ofArguments e.config arguments =
      .ok ⟨.check ⟨project, .text, options.preset, []⟩, named⟩)
    (unsaid : options.failOn = none) (here : projectRoot fs manifest = project)
    (byCommand :
      CommandLine.loadConfig fs (CommandLine.configPath? e fs project named) = .ok config)
    (byTest : loadConfig fs project options.config = .ok config) :
    (SameScopes fs project (CheckOptions.applyTo options config) config.files.root ∧
      SameEnd fs (run e fs arguments) (evaluate fs project options) ∧
      ((run e fs arguments).exitCode = 1 ↔ (failure? fs manifest options).isSome = true)) ↔
    (∃ failure, EarliestFault (CheckOptions.applyTo options config) [] failure) ∨
      ((fs.current.join project).join config.files.root).components =
        (fs.current.join project).components := by
  have loaded := settledConfig_eq unsaid byCommand
  have exits := exitCode_iff_of_sameEnd fs manifest options (run e fs arguments)
  rw [here] at exits
  cases up : setUp (CheckOptions.applyTo options config) [] fs.current project with
  | error failure =>
    have fault := (setUp_error_iff _ _ _ _ failure).mp up
    obtain ⟨error, same, stopped, tested⟩ := sameEnd_of_fault failure loaded byTest fault
    have ended : SameEnd fs (run e fs arguments) (evaluate fs project options) := by
      rw [run_check e fs named _ arguments understood, stopped, tested]
      exact .failed failure error same
    exact iff_of_true ⟨sameScopes_of_fault _ failure fault, ended, exits ended⟩
      (.inl ⟨failure, fault⟩)
  | ok both =>
    -- without a fault both have analyzers, and all turns on where their roots lead
    obtain ⟨plan, command⟩ := both
    have ready := (ready_iff e fs named ⟨project, .text, options.preset, []⟩ _ plan command).mpr
      ⟨loaded, up⟩
    have faultless :
        ¬ ∃ failure, EarliestFault (CheckOptions.applyTo options config) [] failure := by
      rintro ⟨failure, fault⟩
      rw [(setUp_error_iff _ _ fs.current project failure).mpr fault] at up
      cases up
    rw [or_iff_right faultless, sameScopes_iff ready.planned ready.built]
    refine and_iff_left_of_imp fun back => ?_
    have same : fs.SameDirectory (fs.current.join project)
        ((fs.current.join project).join config.files.root) :=
      ⟨by simp [Path.isAbsolute_join, absolute], by simp [Path.isAbsolute_join, absolute],
        back.symm, entries, directory⟩
    have ended := sameEnd_of_root ready byTest same arguments understood
    exact ⟨ended, exits ended⟩

/-- The statement at a project without a configuration: the root that is configured by default is
the directory itself under another spelling. -/
theorem agrees_with_command_iff_default :
    let fs : FileSystem := ⟨.directory [
      ("b.ts".toList, .file (Text.encode "function f() {}\n".toList))], .ofString "/"⟩
    let e : Environment := ⟨none, none, none⟩
    let project : Path := .ofString "."
    let options : CheckOptions := ⟨none, none, none⟩
    CommandLine.loadConfig fs (CommandLine.configPath? e fs project none) = .ok .default ∧
      loadConfig fs project options.config = .ok .default ∧
      SameEnd fs (run e fs ["check"]) (evaluate fs project options) ∧
      ((run e fs ["check"]).exitCode = 1 ↔ (failure? fs (some project) options).isSome = true) := by
  intro fs e project options
  have byCommand : CommandLine.loadConfig fs (CommandLine.configPath? e fs project none) =
      .ok .default := rfl
  have byTest : loadConfig fs project options.config = .ok .default := rfl
  have agrees := (agrees_with_command_iff e fs project none (some project) options .default
    ["check"] _ rfl rfl rfl rfl rfl byCommand byTest).mpr (.inr (by decide +kernel))
  exact ⟨byCommand, byTest, agrees.2⟩

/-- Where a root is configured that is another directory, the command fails with findings that the
test does not look for. -/
theorem command_ignores_configured_root :
    let fs : FileSystem := ⟨.directory [
      ("railway-lint.toml".toList, .file (Text.encode "[analyzer]\nroot = \"web\"\n".toList)),
      ("web".toList, .directory [("readme.txt".toList, .file [])]),
      ("b.ts".toList, .file (Text.encode "function f() {}\n".toList))], .ofString "/"⟩
    let e : Environment := ⟨none, none, none⟩
    let project : Path := .ofString "."
    let options : CheckOptions := ⟨none, none, none⟩
    (∃ config, config.files.root = .ofString "web" ∧
      CommandLine.loadConfig fs (CommandLine.configPath? e fs project none) = .ok config ∧
      loadConfig fs project options.config = .ok config) ∧
    (run e fs ["check", "."]).exitCode = 1 ∧ failure? fs (some project) options = none := by
  intro fs e project options
  refine ⟨?_, by decide +kernel, by decide +kernel⟩
  have byCommand : CommandLine.configPath? e fs project none =
      some (.ofString "./railway-lint.toml") := by decide +kernel
  have byTest : configPath? fs project options.config =
      some (.ofString "./railway-lint.toml") := by decide +kernel
  have root : (Config.load fs (.ofString "./railway-lint.toml")).toOption.map
      (fun config => config.files.root) = some (.ofString "web") := by decide +kernel
  cases loaded : Config.load fs (.ofString "./railway-lint.toml") with
  | error fault => simp [loaded, Except.toOption] at root
  | ok config =>
    refine ⟨config, by simpa [loaded, Except.toOption] using root, ?_,
      loadConfig_of_load fs project _ _ config byTest loaded⟩
    unfold CommandLine.loadConfig
    rw [byCommand]
    exact (mapError_ok_iff _ _ config).mpr loaded

end ResultLint.ProjectCheck
