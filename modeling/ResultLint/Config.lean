import ResultLint.Path
import ResultLint.Severity
import ResultLint.Toml.Document

/-!
Configuration: the preset, the grade from which findings fail a run, the files that are looked
at, and a table for each rule. Keys of other names are ignored; a value of a wrong type is not.
-/
namespace ResultLint

/-- What is said about one rule. -/
structure RuleConfig where
  enabled : Option Bool
  severity : Option Severity
  /-- Every other entry of the rule's table. -/
  options : List (String × Toml)
  deriving Repr

/-- Which files are looked at. -/
structure FileConfig where
  root : Path
  /-- Patterns that files must match, relative to the root; none leaves the choice to the preset.
  -/
  includes : List String
  /-- Patterns that files must not match. -/
  excludes : List String
  respectIgnoreFiles : Bool
  deriving Repr

structure Config where
  preset : Option String
  /-- The name of the severity from which a finding fails a run. -/
  failOn : Option String
  files : FileConfig
  rules : List (String × RuleConfig)
  deriving Repr

namespace Config

/-- Patterns of files that are left out where nothing is said. -/
def defaultExcludes : List String := ["**/node_modules/**", "**/dist/**"]

def defaultFiles : FileConfig := ⟨.ofString ".", [], defaultExcludes, true⟩

def default : Config := ⟨none, none, defaultFiles, []⟩

/-- Why a text is no configuration. -/
inductive Fault where
  | document (fault : Toml.Fault)
  /-- The value of this key is of a wrong type. -/
  | wrongType (key : String)
  deriving DecidableEq, Repr

def Fault.message : Fault → String
  | .document fault => fault.message
  | .wrongType key => "TOML parse error at the value of " ++ key

def text? : Toml → Option String
  | .string s => some s
  | _ => none

def flag? : Toml → Option Bool
  | .boolean b => some b
  | _ => none

def texts? : Toml → Option (List String)
  | .array items => items.mapM text?
  | _ => none

/-- A name, or a table with the name as its one key and nothing as its value. -/
def severity? : Toml → Option Severity
  | .string name => Severity.ofName? name
  | .table [(name, .table [])] | .table [(name, .array [])] => Severity.ofName? name
  | _ => none

/-- The value of a key, or the one that stands for an absent entry. -/
def entry {α : Type} (entries : List (String × Toml)) (key : String) (absent : α)
    (read : Toml → Option α) : Except Fault α :=
  match Toml.entry? entries key with
  | none => .ok absent
  | some value =>
    match read value with
    | some a => .ok a
    | none => .error (.wrongType key)

def fileKeys : List String := ["root", "include", "exclude", "respect_gitignore"]

/-- A table, or an array with its values in order. -/
def fileEntries? : Toml → Option (List (String × Toml))
  | .table entries => some entries
  | .array items => some (fileKeys.zip items)
  | _ => none

def readFiles (entries : List (String × Toml)) : Except Fault FileConfig := do
  let root ← entry entries "root" defaultFiles.root fun v => (text? v).map Path.ofString
  let includes ← entry entries "include" [] texts?
  let excludes ← entry entries "exclude" defaultExcludes texts?
  let respect ← entry entries "respect_gitignore" true flag?
  return ⟨root, includes, excludes, respect⟩

/-- The entries of a rule's table that are no options of the rule. -/
def ruleKeys : List String := ["enabled", "severity"]

def readRule (name : String) : Toml → Except Fault RuleConfig
  | .table entries => do
    let enabled ← entry entries "enabled" none fun v => (flag? v).map some
    let severity ← entry entries "severity" none fun v => (severity? v).map some
    return ⟨enabled, severity, entries.filter fun e => !ruleKeys.contains e.1⟩
  | _ => .error (.wrongType name)

def readRules (entries : List (String × Toml)) : Except Fault (List (String × RuleConfig)) :=
  entries.mapM fun (name, value) => do return (name, ← readRule name value)

def table? : Toml → Option (List (String × Toml))
  | .table entries => some entries
  | _ => none

def ofEntries (entries : List (String × Toml)) : Except Fault Config := do
  let preset ← entry entries "preset" none fun v => (text? v).map some
  let failOn ← entry entries "fail_on" none fun v => (text? v).map some
  let files ← readFiles (← entry entries "analyzer" [] fileEntries?)
  let rules ← readRules (← entry entries "rules" [] table?)
  return ⟨preset, failOn, files, rules⟩

/-- Reads a configuration from its text. -/
def parse (text : List Char) : Except Fault Config :=
  match Toml.read text with
  | .ok entries => ofEntries entries
  | .error fault => .error (.document fault)

/-- What is said about a rule, if anything is. -/
def rule? (config : Config) (name : String) : Option RuleConfig :=
  config.rules.lookup name

/-- Rules are in force unless the configuration switches them off. -/
def isEnabled (config : Config) (name : String) : Bool :=
  ((config.rule? name).bind RuleConfig.enabled).getD true

/-- The severity that a rule's findings are given. -/
def severityOf? (config : Config) (name : String) : Option Severity :=
  (config.rule? name).bind RuleConfig.severity

end Config

end ResultLint
