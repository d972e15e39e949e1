import ResultLint.Proofs.CommandLine.Check
import ResultLint.Proofs.Path.Ancestors
import ResultLint.Proofs.ProjectCheck

/-!
The check of a project as one of its own tests. The project's root is the deepest workspace at or
above the manifest's directory. The test fails with what stops the run there, or with the report of
a run that comes to an end with a finding that reaches the threshold, and passes otherwise. What the
test says over the configuration takes the place of what the configuration says, before any of it is
looked at.
-/
namespace ResultLint.ProjectCheck

open CommandLine (Threshold threshold_iff)
open ReturnType

section Root

variable (fs : FileSystem)

/-- The manifest of a directory can be read, and there is a workspace at its top level. -/
def DeclaresWorkspace (directory : Path) : Prop :=
  ∃ text entries value, fs.readText (directory.join (.ofString "Cargo.toml")) = .ok text ∧
    Toml.read text = .ok entries ∧ Toml.entry? entries "workspace" = some value

/-- The root of a project by the directory of its manifest: the deepest workspace among that
directory and those above it, or the directory itself if there is none. -/
inductive IsRoot (manifest : Path) : Path → Prop
  | workspace (root : Path) (above : root ∈ manifest.ancestors)
      (declares : DeclaresWorkspace fs root)
      (deepest : ∀ other ∈ manifest.ancestors, DeclaresWorkspace fs other →
        other.components <+: root.components) : IsRoot manifest root
  | alone (none : ∀ other ∈ manifest.ancestors, ¬ DeclaresWorkspace fs other) :
      IsRoot manifest manifest

theorem isWorkspace_iff (directory : Path) :
    isWorkspace fs directory = true ↔ DeclaresWorkspace fs directory := by
  unfold isWorkspace DeclaresWorkspace
  cases fs.readText (directory.join (.ofString "Cargo.toml")) with
  | error fault => simp
  | ok text =>
    dsimp only
    cases read : Toml.read text with
    | error fault => simp [read]
    | ok entries => simp [read, Option.isSome_iff_exists]

theorem projectRoot_eq_iff (manifest root : Path) :
    projectRoot fs (some manifest) = root ↔ IsRoot fs manifest root := by
  unfold projectRoot
  dsimp only
  cases found : manifest.ancestors.find? (isWorkspace fs) with
  | some nearest =>
    have deepest := (Path.find_ancestors_eq_some_iff manifest nearest _).mp found
    simp only [isWorkspace_iff] at deepest
    obtain ⟨above, declares, deepest⟩ := deepest
    rw [Option.getD_some]
    constructor
    · rintro rfl
      exact .workspace nearest above declares deepest
    · intro isRoot
      cases isRoot with
      | workspace _ above' declares' deepest' =>
        -- two deepest workspaces are both the first that is found
        have same := (Path.find_ancestors_eq_some_iff manifest root (isWorkspace fs)).mpr
          ⟨above', (isWorkspace_iff fs root).mpr declares',
            by simpa [isWorkspace_iff] using deepest'⟩
        rw [found] at same
        exact Option.some.inj same
      | alone none => exact absurd declares (none nearest above)
  | none =>
    rw [List.find?_eq_none] at found
    simp only [isWorkspace_iff] at found
    rw [Option.getD_none]
    constructor
    · rintro rfl
      exact .alone found
    · intro isRoot
      cases isRoot with
      | workspace _ above declares _ => exact absurd declares (found root above)
      | alone none => rfl

end Root

section Loading

variable (fs : FileSystem) (root : Path)

/-- The configuration file of a project: the one that is named, or the first one that is there. -/
inductive ConfigFile : Option String → Path → Prop
  | named (name : String) : ConfigFile (some name) (root.join (.ofString name))
  | visible (there : fs.isPresent (root.join (.ofString "railway-lint.toml")) = true) :
      ConfigFile none (root.join (.ofString "railway-lint.toml"))
  | hidden (missing : fs.isPresent (root.join (.ofString "railway-lint.toml")) = false)
      (there : fs.isPresent (root.join (.ofString ".railway-lint.toml")) = true) :
      ConfigFile none (root.join (.ofString ".railway-lint.toml"))

/-- The configuration that a project loads: the default one without a file, else the file's. -/
inductive Loads (named : Option String) : Config → Prop
  | absent (unnamed : named = none)
      (missing : ∀ name ∈ configNames, fs.isPresent (root.join (.ofString name)) = false) :
      Loads named .default
  | read (path : Path) (text : List Char) (config : Config)
      (place : ConfigFile fs root named path) (opened : fs.readText path = .ok text)
      (parsed : Config.parse text = .ok config) : Loads named config

variable (named : Option String)

theorem configPath_eq_some_iff (path : Path) :
    configPath? fs root named = some path ↔ ConfigFile fs root named path := by
  unfold configPath?
  cases named with
  | some name =>
    constructor
    · intro same
      cases same
      exact .named name
    · intro place
      cases place with
      | named => rfl
  | none =>
    simp only [configNames, List.map_cons, List.map_nil, List.find?_cons, List.find?_nil]
    cases first : fs.isPresent (root.join (.ofString "railway-lint.toml")) with
    | true =>
      dsimp only
      constructor
      · intro same
        cases same
        exact .visible first
      · intro place
        cases place with
        | visible => rfl
        | hidden missing => simp [first] at missing
    | false =>
      dsimp only
      cases second : fs.isPresent (root.join (.ofString ".railway-lint.toml")) with
      | true =>
        dsimp only
        constructor
        · intro same
          cases same
          exact .hidden first second
        · intro place
          cases place with
          | visible there => simp [first] at there
          | hidden => rfl
      | false =>
        dsimp only
        constructor
        · intro same
          cases same
        · intro place
          cases place with
          | visible there => simp [first] at there
          | hidden _ there => simp [second] at there

theorem configPath_eq_none_iff :
    configPath? fs root named = none ↔ named = none ∧
      ∀ name ∈ configNames, fs.isPresent (root.join (.ofString name)) = false := by
  cases named <;> simp [configPath?]

theorem loadConfig_ok_iff (config : Config) :
    loadConfig fs root named = .ok config ↔ Loads fs root named config := by
  unfold loadConfig
  cases place : configPath? fs root named with
  | none =>
    have absent := (configPath_eq_none_iff fs root named).mp place
    constructor
    · intro same
      cases same
      exact .absent absent.1 absent.2
    · intro loads
      cases loads with
      | absent => rfl
      | read path text _ file =>
        rw [(configPath_eq_some_iff fs root named path).mpr file] at place
        cases place
  | some path =>
    simp only [bind_ok_iff, mapError_ok_iff]
    constructor
    · rintro ⟨text, opened, parsed⟩
      exact .read path text config ((configPath_eq_some_iff fs root named path).mp place) opened
        parsed
    · intro loads
      cases loads with
      | absent unnamed missing =>
        rw [(configPath_eq_none_iff fs root named).mpr ⟨unnamed, missing⟩] at place
        cases place
      | read path' text _ file opened parsed =>
        rw [(configPath_eq_some_iff fs root named path').mpr file] at place
        cases place
        exact ⟨text, opened, parsed⟩

theorem loadConfig_error_iff (e : Error) :
    loadConfig fs root named = .error e ↔ ∃ path, ConfigFile fs root named path ∧
      ((∃ fault, fs.readText path = .error fault ∧ e = .unreadableConfig path fault) ∨
        ∃ text fault, fs.readText path = .ok text ∧ Config.parse text = .error fault ∧
          e = .config (.malformed fault)) := by
  simp only [← configPath_eq_some_iff]
  unfold loadConfig
  cases configPath? fs root named with
  | none => simp
  | some path =>
    simp only [bind_error_iff, mapError_error_iff, mapError_ok_iff, Option.some.injEq,
      exists_eq_left', exists_and_left]

end Loading

/-- A configuration with what the test says in the place of what the configuration says. -/
structure Overridden (options : CheckOptions) (config settled : Config) : Prop where
  preset : settled.preset = options.preset.or config.preset
  failOn : settled.failOn = options.failOn.or config.failOn
  rest : settled.files = config.files ∧ settled.rules = config.rules

theorem overridden_iff (options : CheckOptions) (config settled : Config) :
    Overridden options config settled ↔ settled = CheckOptions.applyTo options config := by
  constructor
  · rintro ⟨preset, failOn, files, rules⟩
    cases settled
    simp_all [CheckOptions.applyTo, Option.orElse_eq_orElse, Option.orElse_eq_or]
  · rintro rfl
    exact ⟨Option.orElse_eq_or, Option.orElse_eq_or, rfl, rfl⟩

/-- What is wrong with a configuration that cannot be run: its threshold, else its preset, else the
options of the rule, else one of its patterns of files. -/
inductive Refused (config : Config) : Error → Prop
  | threshold (name : String) (said : config.failOn = some name)
      (unknown : Severity.ofName? name = none) : Refused config (.config (.unknownSeverity name))
  | preset (severity : Severity) (threshold : Threshold config severity) (name : String)
      (said : config.preset = some name) (unknown : Preset.ofName? name = none) :
      Refused config (.config (.unknownPreset name))
  | options (severity : Severity) (threshold : Threshold config severity) (preset : Option Preset)
      (chosen : config.chosenPreset = .ok preset) (rule : RuleConfig) (fault : Json.Fault)
      (said : config.rule? ruleName = some rule)
      (malformed : Options.ofJson rule.toJson = .error fault) :
      Refused config (.config (.wrongOptions ruleName fault))
  | pattern (severity : Severity) (threshold : Threshold config severity) (preset : Option Preset)
      (chosen : config.chosenPreset = .ok preset) (own : Options)
      (read : config.tableOptions = .ok own) (error : OptionsError)
      (first : FirstFault Policy.compilePattern (own.exemptPatterns.getD []) error) :
      Refused config (.config (.refusedOptions ruleName error))
  | includes (plan : Plan) (planned : Plan.ofConfig config = .ok plan) (error : Glob.Error)
      (first : FirstFault (fun p : String => Glob.parse p.toList) config.files.includes error) :
      Refused config (.analysis (.badPattern error))
  | excludes (plan : Plan) (planned : Plan.ofConfig config = .ok plan) (globs : List Glob)
      (compiled : AnalyzerSetup.compile config.files.includes = .ok globs) (error : Glob.Error)
      (first : FirstFault (fun p : String => Glob.parse p.toList) config.files.excludes error) :
      Refused config (.analysis (.badPattern error))

section Settled

variable (config : Config)

theorem refused_config_iff (e : ConfigError) :
    Refused config (.config e) ↔ ∃ choice, Plan.ofConfig config = .error (choice, e) := by
  simp only [Plan.ofConfig_error_iff, ← threshold_iff]
  constructor
  · intro refused
    cases refused with
    | threshold name said unknown =>
      exact ⟨.failOn, .inl ⟨rfl, (config.failSeverity_error_iff _).mpr ⟨name, said, unknown, rfl⟩⟩⟩
    | preset severity threshold name said unknown =>
      exact ⟨.preset, .inr ⟨⟨severity, threshold⟩, .inl ⟨rfl,
        (config.chosenPreset_error_iff _).mpr ⟨name, said, unknown, rfl⟩⟩⟩⟩
    | options severity threshold preset chosen rule fault said malformed =>
      have wrong := (config.tableOptions_error_iff _).mpr ⟨rule, fault, said, malformed, rfl⟩
      exact ⟨.rules, .inr ⟨⟨severity, threshold⟩, .inr ⟨⟨preset, chosen⟩, rfl,
        (config.configuredRules_error_iff preset chosen _).mpr (.inl wrong)⟩⟩⟩
    | pattern severity threshold preset chosen own read error first =>
      exact ⟨.rules, .inr ⟨⟨severity, threshold⟩, .inr ⟨⟨preset, chosen⟩, rfl,
        (config.configuredRules_error_iff preset chosen _).mpr
          (.inr ⟨own, read, error, first, rfl⟩)⟩⟩⟩
  · rintro ⟨choice, ⟨-, severity⟩ | ⟨⟨severity, threshold⟩,
      ⟨-, chosen⟩ | ⟨⟨preset, chosen⟩, -, rules⟩⟩⟩
    · obtain ⟨name, said, unknown, rfl⟩ := (config.failSeverity_error_iff _).mp severity
      exact .threshold name said unknown
    · obtain ⟨name, said, unknown, rfl⟩ := (config.chosenPreset_error_iff _).mp chosen
      exact .preset severity threshold name said unknown
    · rcases (config.configuredRules_error_iff preset chosen e).mp rules with
        wrong | ⟨own, read, error, first, rfl⟩
      · obtain ⟨rule, fault, said, malformed, rfl⟩ := (config.tableOptions_error_iff _).mp wrong
        exact .options severity threshold preset chosen rule fault said malformed
      · exact .pattern severity threshold preset chosen own read error first

/-- With a plan only a pattern of files can be wrong. -/
theorem refused_analysis_iff (e : AnalysisError) (root current : Path) :
    Refused config (.analysis e) ↔ ∃ plan, Plan.ofConfig config = .ok plan ∧
      (plan.setup root []).build current = .error e := by
  constructor
  · intro refused
    cases refused with
    | includes plan planned error first =>
      refine ⟨plan, planned, (plan.build_error_iff root [] current _).mpr (.inl ?_)⟩
      rw [(Plan.fields_of_ofConfig config plan planned).1]
      exact (AnalyzerSetup.compile_error_iff _ _).mpr ⟨error, first, rfl⟩
    | excludes plan planned globs compiled error first =>
      refine ⟨plan, planned, (plan.build_error_iff root [] current _).mpr (.inr ?_)⟩
      rw [(Plan.fields_of_ofConfig config plan planned).1]
      exact ⟨⟨globs, compiled⟩, (AnalyzerSetup.compile_error_iff _ _).mpr ⟨error, first, rfl⟩⟩
  · rintro ⟨plan, planned, broken⟩
    have faults := (plan.build_error_iff root [] current e).mp broken
    rw [(Plan.fields_of_ofConfig config plan planned).1] at faults
    rcases faults with fault | ⟨⟨globs, compiled⟩, fault⟩
    · obtain ⟨error, first, rfl⟩ := (AnalyzerSetup.compile_error_iff _ _).mp fault
      exact .includes plan planned error first
    · obtain ⟨error, first, rfl⟩ := (AnalyzerSetup.compile_error_iff _ _).mp fault
      exact .excludes plan planned globs compiled error first

end Settled

section Ending

variable (fs : FileSystem) (root : Path) (options : CheckOptions)

/-- A run that is ready: a configuration is loaded and settled, every choice in it can be made, and
the analyzer for its root is built. -/
structure Readied (settled : Config) (plan : Plan) (analyzer : Analyzer) : Prop where
  loaded : ∃ config, Loads fs root options.config config ∧ Overridden options config settled
  planned : Plan.ofConfig settled = .ok plan
  built : (plan.setup (root.join settled.files.root) []).build fs.current = .ok analyzer

theorem Readied.config_eq {settled : Config} {plan : Plan} {analyzer : Analyzer}
    (ready : Readied fs root options settled plan analyzer) : analyzer.config = settled :=
  (plan.fields_of_build _ _ _ analyzer ready.built).2.2.1.trans
    (Plan.fields_of_ofConfig settled plan ready.planned).1

variable [Recovery]

/-- How a run stops: at reading its configuration, at something in it that is wrong, at the walk to
the files, or at the first file that cannot be read. -/
inductive Stops : Error → Prop
  | unreadable (path : Path) (fault : FileFault) (place : ConfigFile fs root options.config path)
      (unread : fs.readText path = .error fault) : Stops (.unreadableConfig path fault)
  | malformed (path : Path) (text : List Char) (fault : Config.Fault)
      (place : ConfigFile fs root options.config path) (opened : fs.readText path = .ok text)
      (unparsed : Config.parse text = .error fault) : Stops (.config (.malformed fault))
  | refused (config settled : Config) (e : Error) (loaded : Loads fs root options.config config)
      (overridden : Overridden options config settled) (refused : Refused settled e) : Stops e
  | unwalked (settled : Config) (plan : Plan) (analyzer : Analyzer) (fault : FileFault)
      (ready : Readied fs root options settled plan analyzer)
      (walk : fs.filesBelow settled.files.respectIgnoreFiles analyzer.root = .error fault) :
      Stops (.analysis (.noSuchTree analyzer.root fault))
  | unchecked (settled : Config) (plan : Plan) (analyzer : Analyzer) (found : List Path)
      (e : AnalysisError) (ready : Readied fs root options settled plan analyzer)
      (walk : fs.filesBelow settled.files.respectIgnoreFiles analyzer.root = .ok found)
      (first : FirstFault (analyzer.checkFile fs.readText) (analyzer.queue found) e) :
      Stops (.analysis e)

/-- A run that comes to an end, with its result and the threshold that holds for it. -/
def Finishes (result : LintResult) (threshold : Severity) : Prop :=
  ∃ settled plan analyzer, Readied fs root options settled plan analyzer ∧
    analyzer.analyze fs = .ok result ∧ Threshold settled threshold

/-- The steps of a run behind the loading of its configuration. -/
def runSettled (settled : Config) : Except Error (LintResult × Severity) := do
  let plan ← (Plan.ofConfig settled).mapError fun e => .config e.2
  let analyzer ← ((plan.setup (root.join settled.files.root) []).build fs.current).mapError
    .analysis
  return (← (analyzer.analyze fs).mapError .analysis, plan.failOn)

theorem evaluate_eq_runSettled :
    evaluate fs root options =
      loadConfig fs root options.config >>= fun config =>
        runSettled fs root (CheckOptions.applyTo options config) := rfl

theorem runSettled_error_iff (settled : Config) (e : Error) :
    runSettled fs root settled = .error e ↔ Refused settled e ∨
      ∃ plan analyzer broken, Plan.ofConfig settled = .ok plan ∧
        (plan.setup (root.join settled.files.root) []).build fs.current = .ok analyzer ∧
        analyzer.analyze fs = .error broken ∧ e = .analysis broken := by
  unfold runSettled
  simp only [bind_error_iff, mapError_error_iff, mapError_ok_iff, pure_error_iff, and_false,
    exists_false, or_false]
  constructor
  · rintro (⟨⟨choice, e'⟩, planned, rfl⟩ | ⟨plan, planned,
      ⟨broken, unbuilt, rfl⟩ | ⟨analyzer, built, broken, failed, rfl⟩⟩)
    · exact .inl ((refused_config_iff settled e').mpr ⟨choice, planned⟩)
    · exact .inl ((refused_analysis_iff settled broken _ _).mpr ⟨plan, planned, unbuilt⟩)
    · exact .inr ⟨plan, analyzer, broken, planned, built, failed, rfl⟩
  · rintro (refused | ⟨plan, analyzer, broken, planned, built, failed, rfl⟩)
    · cases e with
      | unreadableConfig path fault => cases refused
      | config e' =>
        obtain ⟨choice, planned⟩ := (refused_config_iff settled e').mp refused
        exact .inl ⟨(choice, e'), planned, rfl⟩
      | analysis broken =>
        obtain ⟨plan, planned, unbuilt⟩ := (refused_analysis_iff settled broken _ _).mp refused
        exact .inr ⟨plan, planned, .inl ⟨broken, unbuilt, rfl⟩⟩
    · exact .inr ⟨plan, planned, .inr ⟨analyzer, built, broken, failed, rfl⟩⟩

theorem evaluate_error_iff (e : Error) :
    evaluate fs root options = .error e ↔ Stops fs root options e := by
  rw [evaluate_eq_runSettled, bind_error_iff, loadConfig_error_iff]
  simp only [loadConfig_ok_iff, runSettled_error_iff]
  constructor
  · rintro (⟨path, place, ⟨fault, unread, rfl⟩ | ⟨text, fault, opened, unparsed, rfl⟩⟩ |
      ⟨config, loads, refused | ⟨plan, analyzer, broken, planned, built, failed, rfl⟩⟩)
    · exact .unreadable path fault place unread
    · exact .malformed path text fault place opened unparsed
    · exact .refused config _ e loads ((overridden_iff _ _ _).mpr rfl) refused
    · have ready : Readied fs root options (CheckOptions.applyTo options config) plan analyzer :=
        ⟨⟨config, loads, (overridden_iff _ _ _).mpr rfl⟩, planned, built⟩
      have failed := (analyzer.analyze_error_iff fs broken).mp failed
      rw [ready.config_eq] at failed
      rcases failed with ⟨fault, walk, rfl⟩ | ⟨found, walk, first⟩
      · exact .unwalked _ plan analyzer fault ready walk
      · exact .unchecked _ plan analyzer found broken ready walk first
  · intro stops
    cases stops with
    | unreadable path fault place unread => exact .inl ⟨path, place, .inl ⟨fault, unread, rfl⟩⟩
    | malformed path text fault place opened unparsed =>
      exact .inl ⟨path, place, .inr ⟨text, fault, opened, unparsed, rfl⟩⟩
    | refused config settled _ loads overridden refused =>
      rw [overridden_iff] at overridden
      exact .inr ⟨config, loads, .inl (overridden ▸ refused)⟩
    | unwalked settled plan analyzer fault ready walk =>
      obtain ⟨config, loads, overridden⟩ := ready.loaded
      rw [overridden_iff] at overridden
      rw [← ready.config_eq] at walk
      subst overridden
      exact .inr ⟨config, loads, .inr ⟨plan, analyzer, _, ready.planned, ready.built,
        (analyzer.analyze_error_iff fs _).mpr (.inl ⟨fault, walk, rfl⟩), rfl⟩⟩
    | unchecked settled plan analyzer found broken ready walk first =>
      obtain ⟨config, loads, overridden⟩ := ready.loaded
      rw [overridden_iff] at overridden
      rw [← ready.config_eq] at walk
      subst overridden
      exact .inr ⟨config, loads, .inr ⟨plan, analyzer, _, ready.planned, ready.built,
        (analyzer.analyze_error_iff fs _).mpr (.inr ⟨found, walk, first⟩), rfl⟩⟩

theorem evaluate_ok_iff (result : LintResult) (threshold : Severity) :
    evaluate fs root options = .ok (result, threshold) ↔
      Finishes fs root options result threshold := by
  rw [evaluate_eq_runSettled, bind_ok_iff]
  unfold runSettled Finishes
  simp only [bind_ok_iff, mapError_ok_iff, pure_ok_iff, Prod.mk.injEq, loadConfig_ok_iff]
  constructor
  · rintro ⟨config, loads, plan, planned, analyzer, built, _, analyzed, rfl, rfl⟩
    refine ⟨_, plan, analyzer, ⟨⟨config, loads, (overridden_iff _ _ _).mpr rfl⟩, planned, built⟩,
      analyzed, ?_⟩
    exact (threshold_iff _ _).mpr (Plan.fields_of_ofConfig _ plan planned).2.1
  · rintro ⟨settled, plan, analyzer, ready, analyzed, reached⟩
    obtain ⟨config, loads, overridden⟩ := ready.loaded
    rw [overridden_iff] at overridden
    subst overridden
    have same : plan.failOn = threshold := by
      have read := (Plan.fields_of_ofConfig _ plan ready.planned).2.1
      rw [(threshold_iff _ _).mp reached] at read
      exact (Except.ok.inj read).symm
    exact ⟨config, loads, plan, ready.planned, analyzer, ready.built, result, analyzed, rfl, same⟩

/-- A preset that is said by the test and that there is leaves no unknown preset. -/
theorem stops_of_known_preset (name : String) (said : options.preset = some name)
    (known : Preset.ofName? name ≠ none) (unknown : String) :
    ¬ Stops fs root options (.config (.unknownPreset unknown)) := by
  intro stops
  cases stops with
  | refused config settled _ loads overridden refused =>
    cases refused with
    | preset severity threshold _ chosen missing =>
      rw [overridden.preset, said] at chosen
      cases chosen
      exact known missing

/-- The same for the severity from which findings fail the test. -/
theorem stops_of_known_severity (name : String) (said : options.failOn = some name)
    (known : Severity.ofName? name ≠ none) (unknown : String) :
    ¬ Stops fs root options (.config (.unknownSeverity unknown)) := by
  intro stops
  cases stops with
  | refused config settled _ loads overridden refused =>
    cases refused with
    | threshold _ chosen missing =>
      rw [overridden.failOn, said] at chosen
      cases chosen
      exact known missing

/-- The text with which a test fails: what stops its run, or the report of a run in which some
finding reaches the threshold. -/
inductive FailsWith : String → Prop
  | stopped (e : Error) (stops : Stops fs root options e) :
      FailsWith ("railway-lint: " ++ e.message)
  | reached (result : LintResult) (threshold : Severity) (v : Violation)
      (finishes : Finishes fs root options result threshold) (found : v ∈ result.violations)
      (reaches : threshold ≤ v.severity) : FailsWith (result.testReport threshold)

/-- A run that comes to an end without a finding that reaches the threshold. -/
inductive Passes : Prop
  | mk (result : LintResult) (threshold : Severity)
      (finishes : Finishes fs root options result threshold)
      (below : ∀ v ∈ result.violations, ¬ threshold ≤ v.severity) : Passes

end Ending

theorem reaches_iff (result : LintResult) (threshold : Severity) :
    result.reaches threshold = true ↔ ∃ v ∈ result.violations, threshold ≤ v.severity := by
  simp [LintResult.reaches]

section Verdict

variable [Recovery] (fs : FileSystem) (manifest : Path) (options : CheckOptions)

theorem failure_eq_some_iff (text : String) :
    failure? fs (some manifest) options = some text ↔
      FailsWith fs (projectRoot fs (some manifest)) options text := by
  unfold failure?
  generalize projectRoot fs (some manifest) = root
  cases ended : evaluate fs root options with
  | error e =>
    constructor
    · intro same
      cases same
      exact .stopped e ((evaluate_error_iff fs root options e).mp ended)
    · intro fails
      cases fails with
      | stopped e' stops =>
        rw [(evaluate_error_iff fs root options e').mpr stops] at ended
        cases ended
        rfl
      | reached result threshold v finishes =>
        rw [(evaluate_ok_iff fs root options result threshold).mpr finishes] at ended
        cases ended
  | ok ending =>
    obtain ⟨result, threshold⟩ := ending
    dsimp only
    constructor
    · intro same
      split at same
      · next reached =>
        cases same
        obtain ⟨v, found, reaches⟩ := (reaches_iff result threshold).mp reached
        exact .reached result threshold v ((evaluate_ok_iff fs root options _ _).mp ended) found
          reaches
      · cases same
    · intro fails
      cases fails with
      | stopped e stops =>
        rw [(evaluate_error_iff fs root options e).mpr stops] at ended
        cases ended
      | reached _ _ v finishes found reaches =>
        rw [(evaluate_ok_iff fs root options _ _).mpr finishes] at ended
        cases ended
        rw [if_pos ((reaches_iff result threshold).mpr ⟨v, found, reaches⟩)]

theorem failure_eq_none_iff :
    failure? fs (some manifest) options = none ↔
      Passes fs (projectRoot fs (some manifest)) options := by
  unfold failure?
  generalize projectRoot fs (some manifest) = root
  constructor
  · intro passed
    split at passed
    · cases passed
    · next result threshold ended =>
      refine .mk result threshold ((evaluate_ok_iff fs root options _ _).mp ended) ?_
      intro v found reaches
      rw [if_pos ((reaches_iff result threshold).mpr ⟨v, found, reaches⟩)] at passed
      cases passed
  · rintro ⟨result, threshold, finishes, below⟩
    rw [(evaluate_ok_iff fs root options result threshold).mpr finishes]
    have none : ¬ result.reaches threshold = true := by
      rw [reaches_iff]
      rintro ⟨v, found, reaches⟩
      exact below v found reaches
    exact if_neg none

end Verdict

/-- A test takes the deepest workspace for its root, and fails there just with what stops its run,
or with the report of a run that some finding fails; otherwise it passes. Names that the test says
itself and that are right stand for those of the configuration, however wrong these are. -/
theorem test_fails_or_passes [Recovery] (fs : FileSystem) (manifest : Path)
    (options : CheckOptions) :
    ∃ root, (∀ other, IsRoot fs manifest other ↔ other = root) ∧
      (∀ text, failure? fs (some manifest) options = some text ↔
        FailsWith fs root options text) ∧
      (failure? fs (some manifest) options = none ↔ Passes fs root options) ∧
      (∀ name, options.preset = some name → Preset.ofName? name ≠ none →
        ∀ unknown, ¬ Stops fs root options (.config (.unknownPreset unknown))) ∧
      (∀ name, options.failOn = some name → Severity.ofName? name ≠ none →
        ∀ unknown, ¬ Stops fs root options (.config (.unknownSeverity unknown))) ∧
      ∀ front, (∃ above ∈ manifest.ancestors, above.components = front) ↔
        front <+: manifest.components ∧ (manifest.isAbsolute = true → front ≠ []) := by
  refine ⟨projectRoot fs (some manifest), ?_, failure_eq_some_iff fs manifest options,
    failure_eq_none_iff fs manifest options, stops_of_known_preset fs _ options,
    stops_of_known_severity fs _ options, manifest.mem_ancestors_iff⟩
  intro other
  rw [← projectRoot_eq_iff, eq_comm]

/-- The statement at a member of a workspace: the configuration beside the workspace's manifest
names a preset and a severity that there are not, but the test names others. -/
theorem test_fails_or_passes_member :
    let fs : FileSystem := ⟨.directory [("w".toList, .directory [
      ("Cargo.toml".toList, .file (Text.encode "[workspace]\n".toList)),
      ("railway-lint.toml".toList,
        .file (Text.encode "preset = \"none\"\nfail_on = \"never\"\n".toList)),
      ("a".toList, .directory [
        ("Cargo.toml".toList, .file (Text.encode "# [workspace]\n[package]\n".toList))]),
      ("src".toList, .directory [
        ("f.ts".toList, .file (Text.encode "function f() {}\n".toList))])])], .ofString "/"⟩
    let options : CheckOptions := ⟨some "strict", none, some "error"⟩
    IsRoot fs (.ofString "/w/a") (.ofString "/w") ∧
      FailsWith fs (.ofString "/w") options ("\n=== railway-lint: 1 violation(s) ===\n\n" ++
        "RW001 require-result-return-type at src/f.ts:1:1\n  error: Function \"f\" must have an " ++
        "explicit return type annotation that returns Result<T, E>\n  = help: Annotate the " ++
        "return type, e.g. \x60: Result<T, E>\x60\n\nTotal: 1 error(s), 0 warning(s), 0 info(s) in 1 " ++
        "file(s)\n") ∧
      (∀ unknown, ¬ Stops fs (.ofString "/w") options (.config (.unknownPreset unknown))) ∧
      ∀ unknown, ¬ Stops fs (.ofString "/w") options (.config (.unknownSeverity unknown)) := by
  intro fs options
  obtain ⟨root, isRoot, fails, -, preset, severity, -⟩ :=
    test_fails_or_passes fs (.ofString "/w/a") options
  have here : .ofString "/w" = root :=
    (isRoot _).mp ((projectRoot_eq_iff fs _ _).mp (by decide +kernel))
  subst here
  refine ⟨(isRoot _).mpr rfl, (fails _).mp ?_, preset "strict" rfl (by decide),
    severity "error" rfl (by decide)⟩
  decide +kernel

end ResultLint.ProjectCheck
