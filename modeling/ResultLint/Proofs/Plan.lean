import ResultLint.Plan
import ResultLint.Proofs.ReturnType.Policy

/-!
What a plan makes of a configuration. The built-in patterns of files and names are well formed, so
a plan can only fail through what somebody wrote; and the root of an analyzer has no part in
anything else of it.
-/
namespace ResultLint

open ReturnType

namespace Config

variable (config : Config)

theorem failSeverity_error_iff (e : ConfigError) :
    config.failSeverity = .error e ↔
      ∃ name, config.failOn = some name ∧ Severity.ofName? name = none ∧
        e = .unknownSeverity name := by
  unfold failSeverity
  cases config.failOn with
  | none => simp
  | some name => cases known : Severity.ofName? name <;> simp [known, eq_comm]

theorem chosenPreset_error_iff (e : ConfigError) :
    config.chosenPreset = .error e ↔
      ∃ name, config.preset = some name ∧ Preset.ofName? name = none ∧
        e = .unknownPreset name := by
  unfold chosenPreset
  cases config.preset with
  | none => simp
  | some name => cases known : Preset.ofName? name <;> simp [known, eq_comm]

theorem tableOptions_error_iff (e : ConfigError) :
    config.tableOptions = .error e ↔
      ∃ rule fault, config.rule? ruleName = some rule ∧
        Options.ofJson rule.toJson = .error fault ∧ e = .wrongOptions ruleName fault := by
  unfold tableOptions
  cases config.rule? ruleName with
  | none => simp
  | some rule => simp [mapError_error_iff]

theorem tableOptions_ok_iff (options : Options) :
    config.tableOptions = .ok options ↔
      (config.rule? ruleName = none ∧ options = .none) ∨
        ∃ rule, config.rule? ruleName = some rule ∧ Options.ofJson rule.toJson = .ok options := by
  unfold tableOptions
  cases config.rule? ruleName with
  | none => simp [eq_comm]
  | some rule => simp [mapError_ok_iff]

/-- The patterns of the presets are well formed. -/
theorem preset_patterns (preset : Preset) :
    ∃ expressions, preset.options.patternList.mapM Policy.compilePattern = .ok expressions := by
  apply exists_ok_of_isOk
  cases preset <;> decide +kernel

/-- The preset and the options of a table over the defaults. -/
def layered (preset : Option Preset) (own : Options) : Options :=
  (Options.defaults.overriddenBy ((preset.map Preset.options).getD .none)).overriddenBy own

theorem layered_patternList (preset : Option Preset) (own : Options) :
    (layered preset own).patternList =
      own.exemptPatterns.getD ((preset.map fun p => p.options.patternList).getD []) := by
  unfold layered Options.patternList Options.overriddenBy
  cases own.exemptPatterns with
  | some patterns => rfl
  | none =>
    cases preset with
    | none => rfl
    | some p => cases p <;> rfl

/-- Options over a preset compile unless one of their own patterns is malformed. -/
theorem compile_layered_error_iff (preset : Option Preset) (own : Options) (error : OptionsError) :
    Policy.compile (layered preset own) = .error error ↔
      FirstFault Policy.compilePattern (own.exemptPatterns.getD []) error := by
  rw [Policy.compile_eq, map_error_iff, layered_patternList]
  cases own.exemptPatterns with
  | some patterns => exact mapM_error_iff _ _ _
  | none =>
    simp only [Option.getD_none, firstFault_nil, iff_false]
    cases preset with
    | none => simp [pure_error_iff]
    | some p =>
      obtain ⟨expressions, compiled⟩ := preset_patterns p
      simp [compiled]

/-- Under a preset that there is, the rules fail with the form of the options or, if that is right,
with the first of the options' own patterns that is malformed. -/
theorem configuredRules_error_iff (preset : Option Preset)
    (chosen : config.chosenPreset = .ok preset) (e : ConfigError) :
    config.configuredRules = .error e ↔
      config.tableOptions = .error e ∨ ∃ own, config.tableOptions = .ok own ∧
        ∃ error, FirstFault Policy.compilePattern (own.exemptPatterns.getD []) error ∧
          e = .refusedOptions ruleName error := by
  have rules : config.configuredRules = .error e ↔ config.policy = .error e := by
    unfold configuredRules
    simp only [bind_error_iff, pure_error_iff, and_false, exists_false, or_false]
  have policy : config.policy = config.tableOptions >>= fun own =>
      (Policy.compile (layered preset own)).mapError (.refusedOptions ruleName) := by
    unfold Config.policy effectiveOptions
    rw [chosen]
    cases config.tableOptions <;> rfl
  rw [rules, policy, bind_error_iff]
  simp only [mapError_error_iff, compile_layered_error_iff]

theorem configuredRules_ok (rules : List Rule) (configured : config.configuredRules = .ok rules) :
    ∃ policy, rules = [ReturnType.rule policy .error] := by
  unfold configuredRules at configured
  simp only [bind_ok_iff, pure_ok_iff] at configured
  obtain ⟨policy, -, rfl⟩ := configured
  exact ⟨policy, rfl⟩

end Config

namespace AnalyzerSetup

theorem withRules_eq (setup : AnalyzerSetup) (rules : List Rule) :
    setup.withRules rules = { setup with rules := setup.rules ++ rules } := by
  unfold withRules
  induction rules generalizing setup with
  | nil => simp
  | cons rule rules ih => rw [List.foldl_cons, ih]; simp [withRule]

theorem compile_error_iff (patterns : List String) (e : AnalysisError) :
    compile patterns = .error e ↔
      ∃ error, FirstFault (fun p : String => Glob.parse p.toList) patterns error ∧
        e = .badPattern error := by
  unfold compile
  rw [mapM_error_iff]
  exact firstFault_mapError _ .badPattern patterns e

/-- Well-formed patterns behind others do not bring about any fault. -/
theorem compile_append_error_iff (patterns valid : List String)
    (compiled : ∃ globs, compile valid = .ok globs) (e : AnalysisError) :
    compile (patterns ++ valid) = .error e ↔ compile patterns = .error e := by
  obtain ⟨globs, compiled⟩ := compiled
  have parts : compile (patterns ++ valid) = (do
      let front ← compile patterns
      let behind ← compile valid
      return front ++ behind) := List.mapM_append
  rw [parts, compiled, bind_error_iff]
  simp [bind, Except.bind, pure, Except.pure]

/-- The built-in patterns of files are well formed. -/
theorem compile_builtIn (patterns : List String)
    (builtIn : patterns = Preset.files ∨ patterns = Preset.ignores ∨
      patterns = Config.defaultExcludes ∨ patterns = []) :
    ∃ globs, compile patterns = .ok globs := by
  apply exists_ok_of_isOk
  rcases builtIn with rfl | rfl | rfl | rfl <;> decide +kernel

end AnalyzerSetup

namespace Plan

theorem setup_eq (plan : Plan) (root : Path) (excludes : List String) :
    plan.setup root excludes =
      { root := some root
        rules := plan.rules
        includes := []
        excludes := excludes
        presetFiles := if plan.preset.isSome then Preset.files else []
        presetIgnores := if plan.preset.isSome then Preset.ignores else []
        config := some plan.config
        failOnSyntaxErrors := false } := by
  unfold setup
  cases plan.preset <;> simp [AnalyzerSetup.withRules_eq, AnalyzerSetup.empty,
    AnalyzerSetup.withRoot, AnalyzerSetup.withConfig, AnalyzerSetup.withExcludes,
    AnalyzerSetup.withPresetFiles]

section Build

variable (plan : Plan) (root : Path) (excludes : List String)

/-- The patterns that select files under a plan. -/
def includes : List String :=
  if plan.config.files.includes.isEmpty then
    if plan.preset.isSome then Preset.files else []
  else plan.config.files.includes

/-- The patterns that leave files out under a plan. -/
def leftOut : List String :=
  let asked := excludes ++ plan.config.files.excludes
  (if asked.isEmpty then Config.defaultExcludes else asked) ++
    if plan.config.files.includes.isEmpty && plan.preset.isSome then Preset.ignores else []

/-- The root of a plan has no part in anything but the root of its analyzer. -/
theorem build_eq (current : Path) :
    (plan.setup root excludes).build current = (do
      let selecting ← AnalyzerSetup.compile plan.includes
      let leaving ← AnalyzerSetup.compile (plan.leftOut excludes)
      return ⟨current.join root, plan.rules, selecting, leaving, plan.config, false⟩) := by
  rw [setup_eq]
  unfold AnalyzerSetup.build AnalyzerSetup.effectiveIncludes AnalyzerSetup.effectiveExcludes
    AnalyzerSetup.askedIncludes AnalyzerSetup.settled includes leftOut
  simp only [List.nil_append, Option.getD_some]
  cases plan.config.files.includes.isEmpty <;> cases plan.preset.isSome <;> rfl

theorem build_root (current other : Path) :
    (plan.setup other excludes).build current =
      ((plan.setup root excludes).build current).map fun a =>
        { a with root := current.join other } := by
  rw [build_eq, build_eq]
  cases AnalyzerSetup.compile plan.includes <;>
    cases AnalyzerSetup.compile (plan.leftOut excludes) <;> rfl

theorem fields_of_build (current : Path) (analyzer : Analyzer)
    (built : (plan.setup root excludes).build current = .ok analyzer) :
    analyzer.root = current.join root ∧ analyzer.rules = plan.rules ∧
      analyzer.config = plan.config ∧ analyzer.failOnSyntaxErrors = false := by
  rw [build_eq] at built
  simp only [bind_ok_iff, pure_ok_iff] at built
  obtain ⟨_, _, _, _, rfl⟩ := built
  exact ⟨rfl, rfl, rfl, rfl⟩

theorem compile_includes_error_iff (e : AnalysisError) :
    AnalyzerSetup.compile plan.includes = .error e ↔
      AnalyzerSetup.compile plan.config.files.includes = .error e := by
  unfold includes
  split
  · next silent =>
    rw [List.isEmpty_iff.mp silent]
    obtain ⟨globs, preset⟩ := AnalyzerSetup.compile_builtIn
      (if plan.preset.isSome then Preset.files else []) (by split <;> simp)
    rw [preset]
    simp [AnalyzerSetup.compile, pure_error_iff]
  · rfl

theorem compile_leftOut_error_iff (e : AnalysisError) :
    AnalyzerSetup.compile (plan.leftOut excludes) = .error e ↔
      AnalyzerSetup.compile (excludes ++ plan.config.files.excludes) = .error e := by
  unfold leftOut
  dsimp only
  have builtIn := AnalyzerSetup.compile_builtIn
    (if plan.config.files.includes.isEmpty && plan.preset.isSome then Preset.ignores else [])
    (by split <;> simp)
  rw [AnalyzerSetup.compile_append_error_iff _ _ builtIn]
  split
  · next silent =>
    rw [List.isEmpty_iff.mp silent]
    obtain ⟨globs, standard⟩ := AnalyzerSetup.compile_builtIn Config.defaultExcludes (by simp)
    rw [standard]
    simp [AnalyzerSetup.compile, pure_error_iff]
  · rfl

/-- An analyzer fails to be built just with the first malformed one among the includes, and if there
is none with the first among the excludes. -/
theorem build_error_iff (current : Path) (e : AnalysisError) :
    (plan.setup root excludes).build current = .error e ↔
      AnalyzerSetup.compile plan.config.files.includes = .error e ∨
        (∃ globs, AnalyzerSetup.compile plan.config.files.includes = .ok globs) ∧
          AnalyzerSetup.compile (excludes ++ plan.config.files.excludes) = .error e := by
  rw [build_eq, bind_error_iff, compile_includes_error_iff]
  rw [← ok_iff_of_error_iff plan.compile_includes_error_iff]
  simp only [bind_error_iff, pure_error_iff, compile_leftOut_error_iff, and_false, exists_false,
    or_false, exists_and_right]

end Build

/-- A configuration is read in three steps; the first one that fails is told. -/
theorem ofConfig_error_iff (config : Config) (choice : Choice) (e : ConfigError) :
    ofConfig config = .error (choice, e) ↔
      (choice = .failOn ∧ config.failSeverity = .error e) ∨
        (∃ severity, config.failSeverity = .ok severity) ∧
          ((choice = .preset ∧ config.chosenPreset = .error e) ∨
            (∃ preset, config.chosenPreset = .ok preset) ∧
              choice = .rules ∧ config.configuredRules = .error e) := by
  unfold ofConfig
  cases config.failSeverity with
  | error e' => simp [bind, Except.bind, Except.mapError, eq_comm]
  | ok severity =>
    cases config.chosenPreset with
    | error e' => simp [bind, Except.bind, Except.mapError, eq_comm]
    | ok preset =>
      cases config.configuredRules <;>
        simp [bind, Except.bind, Except.mapError, pure, Except.pure, eq_comm]

theorem fields_of_ofConfig (config : Config) (plan : Plan) (read : ofConfig config = .ok plan) :
    plan.config = config ∧ config.failSeverity = .ok plan.failOn ∧
      config.chosenPreset = .ok plan.preset ∧ config.configuredRules = .ok plan.rules := by
  unfold ofConfig at read
  simp only [bind_ok_iff, mapError_ok_iff, pure_ok_iff] at read
  obtain ⟨severity, failOn, preset, chosen, rules, configured, rfl⟩ := read
  exact ⟨rfl, failOn, chosen, configured⟩

end Plan

end ResultLint
