import ResultLint.Plan

/-!
The check of a project as one of its own tests: finding the project's root and configuration, and
the report with which the test fails.
-/
namespace ResultLint

/-- What the test says over the configuration; the path is seen from the project's root. -/
structure CheckOptions where
  preset : Option String
  config : Option String
  failOn : Option String
  deriving Repr

namespace ProjectCheck

/-- Names of configuration files in a project, the first one that is there counts. -/
def configNames : List String := ["railway-lint.toml", ".railway-lint.toml"]

inductive Error where
  | unreadableConfig (path : Path) (fault : FileFault)
  | config (error : ConfigError)
  | analysis (error : AnalysisError)

def Error.message : Error → String
  | .unreadableConfig path fault =>
    "failed to read config from " ++ path.toString ++ ": " ++ fault.message
  | .config error => error.message
  | .analysis error => error.message

/-- Whether a manifest is there and says that its directory is a workspace. -/
def isWorkspace (fs : FileSystem) (directory : Path) : Bool :=
  match fs.readText (directory.join (.ofString "Cargo.toml")) with
  | .error _ => false
  | .ok text =>
    match Toml.read text with
    | .ok entries => (Toml.entry? entries "workspace").isSome
    | .error _ => false

/-- The nearest workspace from the manifest's directory upwards, else that directory, else the
current one. -/
def projectRoot (fs : FileSystem) (manifestDirectory : Option Path) : Path :=
  match manifestDirectory with
  | some directory => (directory.ancestors.find? (isWorkspace fs)).getD directory
  | none => fs.current

/-- The configuration file that is named, else the first one that is there, if any. -/
def configPath? (fs : FileSystem) (root : Path) (named : Option String) : Option Path :=
  match named with
  | some name => some (root.join (.ofString name))
  | none => (configNames.map fun name => root.join (.ofString name)).find? fs.isPresent

def loadConfig (fs : FileSystem) (root : Path) (named : Option String) : Except Error Config :=
  match configPath? fs root named with
  | none => .ok .default
  | some path => do
    let text ← (fs.readText path).mapError (.unreadableConfig path)
    (Config.parse text).mapError fun fault => .config (.malformed fault)

/-- The configuration with what the test says over it. -/
def CheckOptions.applyTo (options : CheckOptions) (config : Config) : Config :=
  { config with
    preset := options.preset <|> config.preset
    failOn := options.failOn <|> config.failOn }

/-- The result for a project, and the severity from which a finding fails the test. -/
def evaluate [Recovery] (fs : FileSystem) (root : Path) (options : CheckOptions) :
    Except Error (LintResult × Severity) := do
  let config := CheckOptions.applyTo options (← loadConfig fs root options.config)
  let plan ← (Plan.ofConfig config).mapError fun e => .config e.2
  let analyzer ← ((plan.setup (root.join config.files.root) []).build fs.current).mapError
    .analysis
  return (← (analyzer.analyze fs).mapError .analysis, plan.failOn)

/-- The text with which the test fails, if it does. -/
def failure? [Recovery] (fs : FileSystem) (manifestDirectory : Option Path)
    (options : CheckOptions) : Option String :=
  match evaluate fs (projectRoot fs manifestDirectory) options with
  | .error e => some ("railway-lint: " ++ e.message)
  | .ok (result, failOn) => if result.reaches failOn then some (result.testReport failOn) else none

end ProjectCheck

end ResultLint
