import ResultLint.Analyzer
import ResultLint.RuleSet

/-!
A run as a configuration asks for it: the rules, the preset's files, and the severity from which
a finding fails the run.
-/
namespace ResultLint

structure Plan where
  config : Config
  failOn : Severity
  preset : Option Preset
  rules : List Rule

namespace Plan

/-- The choices that are read off a configuration, in the order in which they are made. -/
inductive Choice where
  | failOn
  | preset
  | rules
  deriving DecidableEq, Repr

/-- Reads all choices off a configuration; the first one that cannot be made is told. -/
def ofConfig (config : Config) : Except (Choice × ConfigError) Plan := do
  let failOn ← config.failSeverity.mapError fun e => (Choice.failOn, e)
  let preset ← config.chosenPreset.mapError fun e => (Choice.preset, e)
  let rules ← config.configuredRules.mapError fun e => (Choice.rules, e)
  return ⟨config, failOn, preset, rules⟩

/-- The setup for a root, with further patterns of files to leave out. -/
def setup (plan : Plan) (root : Path) (excludes : List String) : AnalyzerSetup :=
  let setup := ((AnalyzerSetup.empty.withRoot root).withConfig plan.config).withExcludes excludes
  let setup := match plan.preset with
    | some _ => setup.withPresetFiles Preset.files Preset.ignores
    | none => setup
  setup.withRules plan.rules

/-- Whether a result fails the run. -/
def isFailedBy (plan : Plan) (result : LintResult) : Bool :=
  result.reaches plan.failOn

end Plan

end ResultLint
