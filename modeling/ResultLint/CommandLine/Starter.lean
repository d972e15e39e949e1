/-!
The configuration file that a project starts with.
-/
namespace ResultLint.CommandLine

/-- Lines with their ends. -/
def unlines (lines : List String) : String :=
  String.join (lines.map (· ++ "\n"))

/-- The recommended preset, with every other choice shown in comments. -/
def starterConfig : String := unlines [
  "# railway-lint configuration",
  "",
  "# Preset: \"recommended\" (lenient) or \"strict\"",
  "preset = \"recommended\"",
  "",
  "# Exit non-zero when violations reach this severity: error | warning | info",
  "fail_on = \"error\"",
  "",
  "[analyzer]",
  "# Root directory to analyze (default: current directory)",
  "# root = \".\"",
  "",
  "# Glob patterns, relative to the root. Leave include empty to use the",
  "# preset's file set (src/**/*.ts, src/**/*.tsx).",
  "# include = [\"src/**/*.ts\"]",
  "exclude = [",
  "    \"**/node_modules/**\",",
  "    \"**/dist/**\",",
  "]",
  "",
  "# Respect .gitignore files",
  "respect_gitignore = true",
  "",
  "[rules.require-result-return-type]",
  "enabled = true",
  "# severity = \"warning\"  # Override default severity",
  "# Each list below replaces the preset's list when set.",
  "# allowedReturnTypes = [\"void\", \"Promise<void>\", \"never\"]",
  "# exemptFunctions = [\"main\", \"setup\", \"teardown\"]",
  "# exemptPatterns = [\"^handle\"]"]

end ResultLint.CommandLine
