import ResultLint.Config
import ResultLint.FileTree
import ResultLint.Json.Decode
import ResultLint.Preset
import ResultLint.ReturnType.Policy

/-!
What can be wrong with a configuration, and the choices that are read off one: the preset and
the severity from which a finding fails a run.
-/
namespace ResultLint

inductive ConfigError where
  | unreadable (path : Path) (fault : FileFault)
  | malformed (fault : Config.Fault)
  /-- A rule's options are not of the form it wants. -/
  | wrongOptions (rule : String) (fault : Json.Fault)
  /-- A rule's options are of the right form, but cannot be compiled. -/
  | refusedOptions (rule : String) (error : ReturnType.OptionsError)
  | unknownPreset (name : String)
  | unknownSeverity (name : String)

namespace ConfigError

def optionsMessage (rule message : String) : String :=
  "Invalid options for rule " ++ rule ++ ": " ++ message

def message : ConfigError → String
  | .unreadable path fault =>
    "Failed to read config file " ++ path.toString ++ ": " ++ fault.message
  | .malformed fault => "Failed to parse config: " ++ fault.message
  | .wrongOptions rule fault => optionsMessage rule (fault.message .positional)
  | .refusedOptions rule error => optionsMessage rule error.message
  | .unknownPreset name =>
    "Unknown preset: " ++ name ++ " (expected one of: " ++
      ", ".intercalate (Preset.all.map Preset.name) ++ ")"
  | .unknownSeverity name =>
    "Unknown severity: " ++ name ++ " (expected error, warning, or info)"

/-- The message, and behind it that of the fault beneath. -/
def chain : ConfigError → List String
  | e@(.unreadable _ fault) => [e.message, fault.message]
  | e => [e.message]

end ConfigError

namespace Config

/-- Reads a configuration file. -/
def load (fs : FileSystem) (path : Path) : Except ConfigError Config :=
  match fs.readText path with
  | .error fault => .error (.unreadable path fault)
  | .ok text => (parse text).mapError .malformed

/-- Errors fail a run where nothing is said. -/
def failSeverity (config : Config) : Except ConfigError Severity :=
  match config.failOn with
  | none => .ok .error
  | some name =>
    match Severity.ofName? name with
    | some s => .ok s
    | none => .error (.unknownSeverity name)

/-- The preset that is named, if one is. -/
def chosenPreset (config : Config) : Except ConfigError (Option Preset) :=
  match config.preset with
  | none => .ok none
  | some name =>
    match Preset.ofName? name with
    | some p => .ok (some p)
    | none => .error (.unknownPreset name)

end Config

end ResultLint
