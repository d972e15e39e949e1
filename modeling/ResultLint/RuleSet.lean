import ResultLint.ConfigError
import ResultLint.ReturnType.OptionsRecord
import ResultLint.ReturnType.Rule

/-!
The rules of a run, with their options put together from a configuration: the defaults, over
them the preset's, and over both the rule's own table, each list taken as a whole.
-/
namespace ResultLint

namespace RuleConfig

/-- The rule's own options, read in the order of their keys. -/
def toJson (rule : RuleConfig) : Json :=
  .object (Toml.entriesToJson (rule.options.mergeSort fun a b => decide (a.1 ≤ b.1)))

end RuleConfig

namespace Config

open ReturnType

/-- What the configuration's own table says about the rule. -/
def tableOptions (config : Config) : Except ConfigError Options :=
  match config.rule? ruleName with
  | none => .ok Options.none
  | some rule => (Options.ofJson rule.toJson).mapError (.wrongOptions ruleName)

/-- The options that hold under a configuration. -/
def effectiveOptions (config : Config) : Except ConfigError Options := do
  let preset ← config.chosenPreset
  let own ← config.tableOptions
  let named := (preset.map Preset.options).getD Options.none
  return (Options.defaults.overriddenBy named).overriddenBy own

/-- The policy that holds under a configuration. -/
def policy (config : Config) : Except ConfigError Policy := do
  (Policy.compile (← config.effectiveOptions)).mapError (.refusedOptions ruleName)

/-- Every rule, with its options from a configuration. -/
def configuredRules (config : Config) : Except ConfigError (List Rule) := do
  return [ReturnType.rule (← config.policy) .error]

end Config

end ResultLint
