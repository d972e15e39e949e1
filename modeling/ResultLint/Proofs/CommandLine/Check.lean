import ResultLint.CommandLine.Run
import ResultLint.Proofs.Plan

/-!
The two ways in which a check ends. Either some step of it fails; then nothing is printed, and the
exit code is 1. Or every step succeeds; then the whole report is printed, and the exit code says
whether some finding reaches the threshold. Of several faults in a configuration the one of the
earliest step is told.
-/
namespace ResultLint

/-- A run fails with the walk to its files, or else with the first file in the queue that cannot be
read and checked. -/
theorem Analyzer.analyze_error_iff [Recovery] (a : Analyzer) (fs : FileSystem) (e : AnalysisError) :
    a.analyze fs = .error e ↔
      (∃ fault, fs.filesBelow a.config.files.respectIgnoreFiles a.root = .error fault ∧
        e = .noSuchTree a.root fault) ∨
      ∃ found, fs.filesBelow a.config.files.respectIgnoreFiles a.root = .ok found ∧
        FirstFault (a.checkFile fs.readText) (a.queue found) e := by
  unfold analyze analyzeFiles
  simp only [bind_error_iff, mapError_error_iff, mapError_ok_iff, mapM_error_iff, pure_error_iff,
    and_false, exists_false, or_false]

namespace CommandLine

open ReturnType

/-- The steps that set a check up from its configuration, in their order. -/
inductive Step where
  | failOn
  | preset
  | optionShape
  | exemptPattern
  | includeGlob
  | excludeGlob
  deriving DecidableEq, Repr

def Step.all : List Step :=
  [.failOn, .preset, .optionShape, .exemptPattern, .includeGlob, .excludeGlob]

/-- What is wrong with a configuration at a step, whatever is wrong at others, and how it is
told. Of patterns only those count that somebody wrote: the built-in ones are well formed. -/
inductive Fault (config : Config) (excludes : List String) : Step → Failure → Prop
  | failOn (name : String) (said : config.failOn = some name)
      (unknown : Severity.ofName? name = none) :
      Fault config excludes .failOn
        (about "Invalid fail_on" (ConfigError.unknownSeverity name).chain)
  | preset (name : String) (said : config.preset = some name)
      (unknown : Preset.ofName? name = none) :
      Fault config excludes .preset (plain (ConfigError.unknownPreset name).chain)
  | optionShape (rule : RuleConfig) (fault : Json.Fault) (said : config.rule? ruleName = some rule)
      (refused : Options.ofJson rule.toJson = .error fault) :
      Fault config excludes .optionShape
        (about "Failed to configure rules" (ConfigError.wrongOptions ruleName fault).chain)
  | exemptPattern (rule : RuleConfig) (options : Options) (patterns : List String)
      (error : OptionsError) (said : config.rule? ruleName = some rule)
      (read : Options.ofJson rule.toJson = .ok options)
      (given : options.exemptPatterns = some patterns)
      (first : FirstFault Policy.compilePattern patterns error) :
      Fault config excludes .exemptPattern
        (about "Failed to configure rules" (ConfigError.refusedOptions ruleName error).chain)
  | includeGlob (error : Glob.Error)
      (first : FirstFault (fun p : String => Glob.parse p.toList) config.files.includes error) :
      Fault config excludes .includeGlob
        (about "Failed to build analyzer" (AnalysisError.badPattern error).chain)
  | excludeGlob (error : Glob.Error)
      (first : FirstFault (fun p : String => Glob.parse p.toList)
        (excludes ++ config.files.excludes) error) :
      Fault config excludes .excludeGlob
        (about "Failed to build analyzer" (AnalysisError.badPattern error).chain)

/-- The fault of a configuration that is told: that of the earliest step that has one. -/
def EarliestFault (config : Config) (excludes : List String) (failure : Failure) : Prop :=
  ∃ front step rest, Step.all = front ++ step :: rest ∧
    (∀ earlier ∈ front, ∀ other, ¬ Fault config excludes earlier other) ∧
    Fault config excludes step failure

/-- The severity from which findings fail a check: the one that is said, else that of errors. -/
inductive Threshold (config : Config) : Severity → Prop
  | unsaid (silent : config.failOn = none) : Threshold config .error
  | said (name : String) (severity : Severity) (said : config.failOn = some name)
      (known : Severity.ofName? name = some severity) : Threshold config severity

theorem threshold_iff (config : Config) (severity : Severity) :
    Threshold config severity ↔ config.failSeverity = .ok severity := by
  unfold Config.failSeverity
  constructor
  · intro threshold
    cases threshold with
    | unsaid silent => rw [silent]
    | said name _ said known => simp [said, known]
  · intro read
    split at read
    · next silent =>
      cases read
      exact .unsaid silent
    · next name said =>
      split at read
      · next known =>
        cases read
        exact .said name severity said known
      · cases read

section SetUp

variable (config : Config) (excludes : List String)

/-- Whether a step succeeds, and how its error is told. -/
def told {α ε : Type} (tell : ε → Failure) (x : Except ε α) : Except Failure Unit :=
  (x.mapError tell).map fun _ => ()

theorem told_error_iff {α ε : Type} (tell : ε → Failure) (x : Except ε α) (failure : Failure) :
    told tell x = .error failure ↔ ∃ e, x = .error e ∧ failure = tell e := by
  rw [told, map_error_iff, mapError_error_iff]

@[simp] theorem told_ok {α ε : Type} (tell : ε → Failure) (a : α) :
    told tell (.ok a) = .ok () := rfl

@[simp] theorem told_error {α ε : Type} (tell : ε → Failure) (e : ε) :
    told tell (.error e : Except ε α) = .error (tell e) := rfl

theorem told_of_error {α ε : Type} {tell : ε → Failure} {x : Except ε α} {e : ε}
    (refused : x = .error e) : told tell x = .error (tell e) :=
  (told_error_iff tell x _).mpr ⟨e, refused, rfl⟩

/-- A step of its own; options that are not of the right form have no patterns. -/
def attempt : Step → Except Failure Unit
  | .failOn => told (fun e => choiceFailure (.failOn, e)) config.failSeverity
  | .preset => told (fun e => choiceFailure (.preset, e)) config.chosenPreset
  | .optionShape => told (fun e => choiceFailure (.rules, e)) config.tableOptions
  | .exemptPattern =>
    told (fun e => choiceFailure (.rules, .refusedOptions ruleName e))
      ((((config.tableOptions.toOption.getD .none).exemptPatterns.getD []).mapM
        Policy.compilePattern))
  | .includeGlob =>
    told (fun e => about "Failed to build analyzer" e.chain)
      (AnalyzerSetup.compile config.files.includes)
  | .excludeGlob =>
    told (fun e => about "Failed to build analyzer" e.chain)
      (AnalyzerSetup.compile (excludes ++ config.files.excludes))

/-- Only somebody's own patterns can be malformed. -/
theorem ownPatterns_fault_iff (error : OptionsError) :
    FirstFault Policy.compilePattern
        ((config.tableOptions.toOption.getD .none).exemptPatterns.getD []) error ↔
      ∃ rule options patterns, config.rule? ruleName = some rule ∧
        Options.ofJson rule.toJson = .ok options ∧ options.exemptPatterns = some patterns ∧
        FirstFault Policy.compilePattern patterns error := by
  constructor
  · intro first
    cases read : config.tableOptions with
    | error e => simp [read, Except.toOption, Options.none, firstFault_nil] at first
    | ok own =>
      rw [read] at first
      change FirstFault _ (own.exemptPatterns.getD []) _ at first
      cases given : own.exemptPatterns with
      | none => simp [given, firstFault_nil] at first
      | some patterns =>
        rw [given] at first
        rcases (config.tableOptions_ok_iff own).mp read with ⟨-, rfl⟩ | ⟨rule, said, ofJson⟩
        · cases given
        · exact ⟨rule, own, patterns, said, ofJson, given, first⟩
  · rintro ⟨rule, own, patterns, said, ofJson, given, first⟩
    have read : config.tableOptions = .ok own :=
      (config.tableOptions_ok_iff own).mpr (.inr ⟨rule, said, ofJson⟩)
    rw [read]
    change FirstFault _ (own.exemptPatterns.getD []) _
    rwa [given]

theorem attempt_error_iff (step : Step) (failure : Failure) :
    attempt config excludes step = .error failure ↔ Fault config excludes step failure := by
  constructor
  · intro failed
    cases step with
    | failOn =>
      obtain ⟨_, refused, rfl⟩ := (told_error_iff _ _ _).mp failed
      obtain ⟨name, said, unknown, rfl⟩ := (config.failSeverity_error_iff _).mp refused
      exact .failOn name said unknown
    | preset =>
      obtain ⟨_, refused, rfl⟩ := (told_error_iff _ _ _).mp failed
      obtain ⟨name, said, unknown, rfl⟩ := (config.chosenPreset_error_iff _).mp refused
      exact .preset name said unknown
    | optionShape =>
      obtain ⟨_, refused, rfl⟩ := (told_error_iff _ _ _).mp failed
      obtain ⟨rule, fault, said, wrong, rfl⟩ := (config.tableOptions_error_iff _).mp refused
      exact .optionShape rule fault said wrong
    | exemptPattern =>
      obtain ⟨error, refused, rfl⟩ := (told_error_iff _ _ _).mp failed
      obtain ⟨rule, options, patterns, said, read, given, first⟩ :=
        (ownPatterns_fault_iff config error).mp ((mapM_error_iff _ _ _).mp refused)
      exact .exemptPattern rule options patterns error said read given first
    | includeGlob =>
      obtain ⟨_, refused, rfl⟩ := (told_error_iff _ _ _).mp failed
      obtain ⟨error, first, rfl⟩ := (AnalyzerSetup.compile_error_iff _ _).mp refused
      exact .includeGlob error first
    | excludeGlob =>
      obtain ⟨_, refused, rfl⟩ := (told_error_iff _ _ _).mp failed
      obtain ⟨error, first, rfl⟩ := (AnalyzerSetup.compile_error_iff _ _).mp refused
      exact .excludeGlob error first
  · intro fault
    cases fault with
    | failOn name said unknown =>
      exact told_of_error ((config.failSeverity_error_iff _).mpr ⟨name, said, unknown, rfl⟩)
    | preset name said unknown =>
      exact told_of_error ((config.chosenPreset_error_iff _).mpr ⟨name, said, unknown, rfl⟩)
    | optionShape rule fault said wrong =>
      exact told_of_error ((config.tableOptions_error_iff _).mpr ⟨rule, fault, said, wrong, rfl⟩)
    | exemptPattern rule options patterns error said read given first =>
      have malformed := (ownPatterns_fault_iff config error).mpr
        ⟨rule, options, patterns, said, read, given, first⟩
      exact told_of_error ((mapM_error_iff _ _ error).mpr malformed)
    | includeGlob error first =>
      exact told_of_error ((AnalyzerSetup.compile_error_iff _ _).mpr ⟨error, first, rfl⟩)
    | excludeGlob error first =>
      exact told_of_error ((AnalyzerSetup.compile_error_iff _ _).mpr ⟨error, first, rfl⟩)

theorem earliestFault_iff (failure : Failure) :
    EarliestFault config excludes failure ↔
      FirstFault (attempt config excludes) Step.all failure := by
  have clear (step : Step) : (∃ u, attempt config excludes step = .ok u) ↔
      ∀ other, ¬ Fault config excludes step other := by
    simp only [← attempt_error_iff]
    cases attempt config excludes step <;> simp
  simp only [EarliestFault, FirstFault, clear, attempt_error_iff]

/-- The plan of a check and its analyzer. -/
def setUp (current path : Path) : Except Failure (Plan × Analyzer) := do
  let plan ← (Plan.ofConfig config).mapError choiceFailure
  let analyzer ← ((plan.setup path excludes).build current).mapError fun e =>
    about "Failed to build analyzer" e.chain
  return (plan, analyzer)

theorem setUp_of_ofConfig_error (current path : Path) (choice : Plan.Choice) (e : ConfigError)
    (refused : Plan.ofConfig config = .error (choice, e)) :
    setUp config excludes current path = .error (choiceFailure (choice, e)) := by
  unfold setUp
  rw [refused]
  rfl

theorem setUp_of_build (current path : Path) (plan : Plan) (read : Plan.ofConfig config = .ok plan)
    (failure : Failure) :
    setUp config excludes current path = .error failure ↔
      ∃ e, (plan.setup path excludes).build current = .error e ∧
        failure = about "Failed to build analyzer" e.chain := by
  have built : setUp config excludes current path =
      (((plan.setup path excludes).build current).mapError fun e =>
        about "Failed to build analyzer" e.chain) >>= fun analyzer => .ok (plan, analyzer) := by
    unfold setUp
    rw [read]
    rfl
  rw [built, bind_error_iff, mapError_error_iff]
  simp

/-- A check is set up unless its configuration has a fault; then the earliest one is told. -/
theorem setUp_error_iff (current path : Path) (failure : Failure) :
    setUp config excludes current path = .error failure ↔
      EarliestFault config excludes failure := by
  rw [earliestFault_iff]
  simp only [Step.all, firstFault_cons, firstFault_nil, attempt]
  have refused := setUp_of_ofConfig_error config excludes current path
  simp only [Plan.ofConfig_error_iff] at refused
  -- step by step: at the first one that fails both sides name its error and look no further
  cases severity : config.failSeverity with
  | error e =>
    rw [refused .failOn e (.inl ⟨rfl, severity⟩)]
    simp [eq_comm]
  | ok s =>
    cases chosen : config.chosenPreset with
    | error e =>
      rw [refused .preset e (.inr ⟨⟨s, severity⟩, .inl ⟨rfl, chosen⟩⟩)]
      simp [eq_comm]
    | ok preset =>
      have rules := config.configuredRules_error_iff preset chosen
      cases read : config.tableOptions with
      | error e =>
        rw [refused .rules e (.inr ⟨⟨s, severity⟩, .inr ⟨⟨preset, chosen⟩, rfl,
          (rules e).mpr (.inl read)⟩⟩)]
        simp [eq_comm]
      | ok own =>
        cases patterns : (own.exemptPatterns.getD []).mapM Policy.compilePattern with
        | error e =>
          rw [refused .rules (.refusedOptions ruleName e) (.inr ⟨⟨s, severity⟩, .inr
            ⟨⟨preset, chosen⟩, rfl, (rules _).mpr (.inr
              ⟨own, read, e, (mapM_error_iff _ _ _).mp patterns, rfl⟩)⟩⟩)]
          simp [Except.toOption, patterns, eq_comm]
        | ok expressions =>
          cases planned : Plan.ofConfig config with
          | error refusal =>
            -- all four choices were made, so there is no error left for a plan
            have refusal := (Plan.ofConfig_error_iff config refusal.1 refusal.2).mp planned
            simp [severity, chosen, rules, read, ← mapM_error_iff, patterns] at refusal
          | ok plan =>
            obtain ⟨same, -, -, -⟩ := Plan.fields_of_ofConfig config plan planned
            rw [setUp_of_build config excludes current path plan planned]
            simp only [Plan.build_error_iff, same]
            cases AnalyzerSetup.compile config.files.includes <;>
              cases AnalyzerSetup.compile (excludes ++ config.files.excludes) <;>
                simp [Except.toOption, patterns, eq_comm]

end SetUp

section Endings

variable (e : Environment) (fs : FileSystem) (named : Option Path) (request : CheckRequest)

/-- The configuration of a check: the one that is loaded, but with the preset that is asked for. -/
def settledConfig : Except Failure Config :=
  (loadConfig fs (configPath? e fs request.path named)).map fun config =>
    { config with preset := request.preset <|> config.preset }

/-- A check that is set up: its configuration is loaded, every choice in it can be made, and its
analyzer is built. -/
structure Ready (config : Config) (plan : Plan) (analyzer : Analyzer) : Prop where
  loaded : settledConfig e fs named request = .ok config
  planned : Plan.ofConfig config = .ok plan
  built : (plan.setup request.path request.excludes).build fs.current = .ok analyzer

/-- How a check fails: at loading its configuration, at the earliest fault in it, at the walk to its
files, at reading and checking the first file that cannot be checked, or at writing the report. -/
inductive Fails [Recovery] : Failure → Prop
  | unloaded (path : Path) (error : ConfigError)
      (place : configPath? e fs request.path named = some path)
      (refused : Config.load fs path = .error error) :
      Fails (about ("Failed to load config: " ++ path.toString) error.chain)
  | misconfigured (config : Config) (failure : Failure)
      (loaded : settledConfig e fs named request = .ok config)
      (earliest : EarliestFault config request.excludes failure) : Fails failure
  | unwalked (config : Config) (plan : Plan) (analyzer : Analyzer) (fault : FileFault)
      (ready : Ready e fs named request config plan analyzer)
      (walk : fs.filesBelow config.files.respectIgnoreFiles analyzer.root = .error fault) :
      Fails (about "Analysis failed" (AnalysisError.noSuchTree analyzer.root fault).chain)
  | unchecked (config : Config) (plan : Plan) (analyzer : Analyzer) (found : List Path)
      (error : AnalysisError) (ready : Ready e fs named request config plan analyzer)
      (walk : fs.filesBelow config.files.respectIgnoreFiles analyzer.root = .ok found)
      (first : FirstFault (analyzer.checkFile fs.readText) (analyzer.queue found) error) :
      Fails (about "Analysis failed" error.chain)
  | unrendered (config : Config) (plan : Plan) (analyzer : Analyzer) (result : LintResult)
      (missing : Report.MissingSource) (ready : Ready e fs named request config plan analyzer)
      (analyzed : analyzer.analyze fs = .ok result)
      (unreported : result.report request.format fs.readText analyzer.root = .error missing) :
      Fails (about ("Failed to read " ++ missing.path.toString) [missing.fault.message])

/-- What a check prints when every step succeeds, and its exit code. -/
inductive Reports [Recovery] : String → Nat → Prop
  | reported (config : Config) (plan : Plan) (analyzer : Analyzer) (result : LintResult)
      (report : String) (threshold : Severity)
      (ready : Ready e fs named request config plan analyzer)
      (analyzed : analyzer.analyze fs = .ok result)
      (rendered : result.report request.format fs.readText analyzer.root = .ok report)
      (counts : Threshold config threshold) :
      Reports report (if ∃ v ∈ result.violations, threshold ≤ v.severity then 1 else 0)

/-- What a check does once it is set up. -/
def afterSetUp [Recovery] (plan : Plan) (analyzer : Analyzer) : Except Failure (String × Bool) := do
  let result ← (analyzer.analyze fs).mapError fun e => about "Analysis failed" e.chain
  let report ← (result.report request.format fs.readText analyzer.root).mapError fun missing =>
    about ("Failed to read " ++ missing.path.toString) [missing.fault.message]
  return (report, plan.isFailedBy result)

theorem afterSetUp_error_iff [Recovery] (plan : Plan) (analyzer : Analyzer) (failure : Failure) :
    afterSetUp fs request plan analyzer = .error failure ↔
      (∃ error, analyzer.analyze fs = .error error ∧
        failure = about "Analysis failed" error.chain) ∨
      ∃ result missing, analyzer.analyze fs = .ok result ∧
        result.report request.format fs.readText analyzer.root = .error missing ∧
        failure = about ("Failed to read " ++ missing.path.toString) [missing.fault.message] := by
  unfold afterSetUp
  simp only [bind_error_iff, mapError_error_iff, mapError_ok_iff, pure_error_iff, and_false,
    exists_false, or_false, exists_and_left]

theorem check_eq [Recovery] : check e fs named request = (do
    let config ← settledConfig e fs named request
    let (plan, analyzer) ← setUp config request.excludes fs.current request.path
    afterSetUp fs request plan analyzer) := by
  unfold check planOf settledConfig setUp
  cases loadConfig fs (configPath? e fs request.path named) with
  | error failure => rfl
  | ok config =>
    simp only [bind, Except.bind, Except.map, pure, Except.pure]
    cases Plan.ofConfig { config with preset := request.preset <|> config.preset } with
    | error refusal => rfl
    | ok plan =>
      simp only [Except.mapError]
      cases (plan.setup request.path request.excludes).build fs.current <;> rfl

theorem ready_iff (config : Config) (plan : Plan) (analyzer : Analyzer) :
    Ready e fs named request config plan analyzer ↔
      settledConfig e fs named request = .ok config ∧
        setUp config request.excludes fs.current request.path = .ok (plan, analyzer) := by
  unfold setUp
  simp only [bind_ok_iff, mapError_ok_iff, pure_ok_iff, Prod.mk.injEq]
  constructor
  · intro ready
    exact ⟨ready.loaded, plan, ready.planned, analyzer, ready.built, rfl, rfl⟩
  · rintro ⟨loaded, plan, planned, analyzer, built, rfl, rfl⟩
    exact ⟨loaded, planned, built⟩

theorem settledConfig_error_iff (failure : Failure) :
    settledConfig e fs named request = .error failure ↔
      ∃ path error, configPath? e fs request.path named = some path ∧
        Config.load fs path = .error error ∧
        failure = about ("Failed to load config: " ++ path.toString) error.chain := by
  unfold settledConfig loadConfig
  cases configPath? e fs request.path named with
  | none => simp [Except.map]
  | some path => simp [map_error_iff, mapError_error_iff]

section IsReady

variable {e fs named request} {config : Config} {plan : Plan} {analyzer : Analyzer}
  (ready : Ready e fs named request config plan analyzer)

include ready

theorem Ready.config_eq : analyzer.config = config :=
  (Plan.fields_of_build plan _ _ _ analyzer ready.built).2.2.1.trans
    (Plan.fields_of_ofConfig config plan ready.planned).1

theorem Ready.check_eq [Recovery] :
    check e fs named request = afterSetUp fs request plan analyzer := by
  obtain ⟨loaded, up⟩ := (ready_iff e fs named request config plan analyzer).mp ready
  rw [CommandLine.check_eq, loaded]
  change (setUp config request.excludes fs.current request.path >>= _) = _
  rw [up]
  rfl

theorem Ready.threshold : Threshold config plan.failOn :=
  (threshold_iff config plan.failOn).mpr (Plan.fields_of_ofConfig config plan ready.planned).2.1

end IsReady

theorem check_error_iff [Recovery] (failure : Failure) :
    check e fs named request = .error failure ↔ Fails e fs named request failure := by
  constructor
  · intro failed
    simp only [check_eq, bind_error_iff, settledConfig_error_iff, setUp_error_iff] at failed
    rcases failed with ⟨path, error, place, refused, rfl⟩ | ⟨config, loaded, earliest | rest⟩
    · exact .unloaded path error place refused
    · exact .misconfigured config failure loaded earliest
    · obtain ⟨⟨plan, analyzer⟩, up, failed⟩ := rest
      have ready := (ready_iff e fs named request config plan analyzer).mpr ⟨loaded, up⟩
      rcases (afterSetUp_error_iff fs request plan analyzer failure).mp failed with
        ⟨error, stopped, rfl⟩ | ⟨result, missing, analyzed, unreported, rfl⟩
      · rw [analyzer.analyze_error_iff, ready.config_eq] at stopped
        rcases stopped with ⟨fault, walk, rfl⟩ | ⟨found, walk, first⟩
        · exact .unwalked config plan analyzer fault ready walk
        · exact .unchecked config plan analyzer found error ready walk first
      · exact .unrendered config plan analyzer result missing ready analyzed unreported
  · intro fails
    cases fails with
    | unloaded path error place refused =>
      rw [check_eq, bind_error_iff, settledConfig_error_iff]
      exact .inl ⟨path, error, place, refused, rfl⟩
    | misconfigured config _ loaded earliest =>
      rw [check_eq, bind_error_iff]
      refine .inr ⟨config, loaded, (bind_error_iff _ _ _).mpr (.inl ?_)⟩
      exact (setUp_error_iff config request.excludes fs.current request.path failure).mpr earliest
    | unwalked config plan analyzer fault ready walk =>
      rw [ready.check_eq, afterSetUp_error_iff]
      refine .inl ⟨.noSuchTree analyzer.root fault, ?_, rfl⟩
      rw [analyzer.analyze_error_iff, ready.config_eq]
      exact .inl ⟨fault, walk, rfl⟩
    | unchecked config plan analyzer found error ready walk first =>
      rw [ready.check_eq, afterSetUp_error_iff]
      refine .inl ⟨error, ?_, rfl⟩
      rw [analyzer.analyze_error_iff, ready.config_eq]
      exact .inr ⟨found, walk, first⟩
    | unrendered config plan analyzer result missing ready analyzed unreported =>
      rw [ready.check_eq, afterSetUp_error_iff]
      exact .inr ⟨result, missing, analyzed, unreported, rfl⟩

theorem afterSetUp_ok_iff [Recovery] (plan : Plan) (analyzer : Analyzer) (report : String)
    (isFailed : Bool) :
    afterSetUp fs request plan analyzer = .ok (report, isFailed) ↔
      ∃ result, analyzer.analyze fs = .ok result ∧
        result.report request.format fs.readText analyzer.root = .ok report ∧
        isFailed = plan.isFailedBy result := by
  unfold afterSetUp
  simp only [bind_ok_iff, mapError_ok_iff, pure_ok_iff, Prod.mk.injEq]
  constructor
  · rintro ⟨result, analyzed, _, rendered, rfl, rfl⟩
    exact ⟨result, analyzed, rendered, rfl⟩
  · rintro ⟨result, analyzed, rendered, rfl⟩
    exact ⟨result, analyzed, report, rendered, rfl, rfl⟩

theorem reports_iff [Recovery] (report : String) (code : Nat) :
    Reports e fs named request report code ↔
      ∃ isFailed, check e fs named request = .ok (report, isFailed) ∧
        code = if isFailed then 1 else 0 := by
  have reached (plan : Plan) (result : LintResult) : plan.isFailedBy result = true ↔
      ∃ v ∈ result.violations, plan.failOn ≤ v.severity := by
    simp [Plan.isFailedBy, LintResult.reaches]
  constructor
  · intro reports
    cases reports with
    | reported config plan analyzer result _ threshold ready analyzed rendered counts =>
      -- a configuration has one threshold only, so it is the plan's
      obtain rfl : threshold = plan.failOn := by
        have said := (threshold_iff config _).mp counts
        rw [(threshold_iff config _).mp ready.threshold, Except.ok.injEq] at said
        exact said.symm
      refine ⟨plan.isFailedBy result, ?_, ?_⟩
      · rw [ready.check_eq, afterSetUp_ok_iff]
        exact ⟨result, analyzed, rendered, rfl⟩
      · simp only [reached]
  · rintro ⟨isFailed, checked, rfl⟩
    rw [check_eq, bind_ok_iff] at checked
    obtain ⟨config, loaded, checked⟩ := checked
    obtain ⟨⟨plan, analyzer⟩, up, checked⟩ := (bind_ok_iff _ _ _).mp checked
    have ready := (ready_iff e fs named request config plan analyzer).mpr ⟨loaded, up⟩
    obtain ⟨result, analyzed, rendered, rfl⟩ :=
      (afterSetUp_ok_iff fs request plan analyzer report isFailed).mp checked
    simp only [reached]
    exact .reported config plan analyzer result report plan.failOn ready analyzed rendered
      ready.threshold

theorem run_check [Recovery] (arguments : List String)
    (understood : Request.ofArguments e.config arguments = .ok ⟨.check request, named⟩) :
    run e fs arguments = match check e fs named request with
      | .ok (report, isFailed) => ⟨if isFailed then 1 else 0, report, none, fs⟩
      | .error failure => ⟨1, "", some failure, fs⟩ := by
  unfold run
  rw [understood]
  rfl

/-- A check that is understood has one of two endings. It fails at some step, prints nothing, and
its exit code is 1; or every step succeeds, the report is printed, and the exit code is 1 just if
some finding reaches the threshold. -/
theorem check_fails_or_reports [Recovery] (arguments : List String)
    (understood : Request.ofArguments e.config arguments = .ok ⟨.check request, named⟩) :
    (∀ failure, Fails e fs named request failure ↔
      run e fs arguments = ⟨1, "", some failure, fs⟩) ∧
    (∀ report code, Reports e fs named request report code ↔
      run e fs arguments = ⟨code, report, none, fs⟩) ∧
    ((∃ failure, Fails e fs named request failure) ↔
      ¬ ∃ report code, Reports e fs named request report code) := by
  rw [run_check e fs named request arguments understood]
  simp only [← check_error_iff, reports_iff]
  cases check e fs named request with
  | error failure => simp
  | ok outcome =>
    obtain ⟨report, isFailed⟩ := outcome
    cases isFailed <;> simp [eq_comm, and_comm]

/-- The statement at a configuration with faults at three steps: the threshold's is told. -/
theorem check_fails_or_reports_three_faults :
    let text := "preset = \"lax\"\nfail_on = \"high\"\n[analyzer]\ninclude = [\"[\"]\n"
    let fs : FileSystem := ⟨.directory [
      ("railway-lint.toml".toList, .file (Text.encode text.toList))], .ofString "/"⟩
    let e : Environment := ⟨none, none, none⟩
    let request : CheckRequest := ⟨.ofString ".", .json, none, ["["]⟩
    Request.ofArguments e.config ["check", "--format", "json", "-e", "["] =
        .ok ⟨.check request, none⟩ ∧
      run e fs ["check", "--format", "json", "-e", "["] =
        ⟨1, "", some (about "Invalid fail_on" (ConfigError.unknownSeverity "high").chain), fs⟩ := by
  intro text fs e request
  have understood : Request.ofArguments e.config ["check", "--format", "json", "-e", "["] =
      .ok ⟨.check request, none⟩ := rfl
  refine ⟨understood, ((check_fails_or_reports e fs none request _ understood).1 _).mp ?_⟩
  have read : (settledConfig e fs none request).toOption.map Config.failOn =
      some (some "high") := by decide +kernel
  cases loaded : settledConfig e fs none request with
  | error failure => simp [loaded, Except.toOption] at read
  | ok config =>
    have said : config.failOn = some "high" := by simpa [loaded, Except.toOption] using read
    exact .misconfigured config _ loaded
      ⟨[], .failOn, _, rfl, by simp, .failOn "high" said (by decide)⟩

end Endings

end CommandLine

end ResultLint
