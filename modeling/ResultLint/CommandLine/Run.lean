import ResultLint.Catalog
import ResultLint.CommandLine.Command
import ResultLint.CommandLine.Failure
import ResultLint.CommandLine.Starter
import ResultLint.Plan
import ResultLint.ProjectCheck

/-!
What the program does with its arguments, its environment and a file system: the text that it
prints, the failure that it tells, its exit code, and the files as it leaves them.
-/
namespace ResultLint.CommandLine

/-- The values of the environment that the program looks at. -/
structure Environment where
  /-- The configuration file, where none is given. -/
  config : Option String
  /-- The directory of the configuration for all projects. -/
  configDirectory : Option String
  home : Option String
  deriving DecidableEq, Repr

structure Outcome where
  exitCode : Nat
  output : String
  failure : Option Failure
  files : FileSystem
  deriving Repr

namespace Outcome

def success (files : FileSystem) (output : String) : Outcome := ⟨0, output, none, files⟩

def failed (files : FileSystem) (failure : Failure) : Outcome := ⟨1, "", some failure, files⟩

end Outcome

def programName : String := "railway-lint"

def versionLine : String := programName ++ " 0.1.0\n"

/-- What can be said, in a line for each command. -/
def help : String := unlines [
  "Usage: railway-lint [OPTIONS] <COMMAND>",
  "",
  "  check [PATH] [--format text|json|compact|rich] [--preset NAME] [--exclude PATTERN]...",
  "  list-rules [--json]",
  "  init [--force]",
  "",
  "Options: --config PATH, --verbose, --help, --version"]

/-- A failure with what the program was about before the error's own messages. -/
def about (context : String) (chain : List String) : Failure := ⟨context, chain⟩

/-- A failure with the error's own message first. -/
def plain : List String → Failure
  | [] => ⟨"", []⟩
  | message :: causes => ⟨message, causes⟩

/-- The directory of the configuration for all projects. -/
def Environment.sharedDirectory? (e : Environment) : Option Path :=
  (e.configDirectory.map Path.ofString) <|>
    (e.home.map fun home => (Path.ofString home).join (.ofString ".railway-lint"))

/-- Where the configurations of a project and of all projects may be. -/
def configPaths (e : Environment) (project : Path) : List Path :=
  ProjectCheck.configNames.map (fun name => project.join (.ofString name)) ++
    (e.sharedDirectory?.map fun directory => directory.join (.ofString "config.toml")).toList

/-- The configuration file that is named; else the project's own, else the one for all projects,
if they are there. -/
def configPath? (e : Environment) (fs : FileSystem) (project : Path) (named : Option Path) :
    Option Path :=
  named <|> (configPaths e project).find? fs.isFile

def loadConfig (fs : FileSystem) : Option Path → Except Failure Config
  | none => .ok .default
  | some path =>
    (Config.load fs path).mapError fun e =>
      about ("Failed to load config: " ++ path.toString) e.chain

/-- The failure of a choice that a configuration does not allow. -/
def choiceFailure : Plan.Choice × ConfigError → Failure
  | (.failOn, e) => about "Invalid fail_on" e.chain
  | (.preset, e) => plain e.chain
  | (.rules, e) => about "Failed to configure rules" e.chain

/-- The plan of a check: a preset that is asked for takes the place of the configuration's. -/
def planOf (fs : FileSystem) (configPath : Option Path) (preset : Option String) :
    Except Failure Plan := do
  let config ← loadConfig fs configPath
  let config := { config with preset := preset <|> config.preset }
  (Plan.ofConfig config).mapError choiceFailure

/-- The report of a check, and whether the findings fail it. -/
def check [Recovery] (e : Environment) (fs : FileSystem) (named : Option Path)
    (request : CheckRequest) : Except Failure (String × Bool) := do
  let plan ← planOf fs (configPath? e fs request.path named) request.preset
  let analyzer ← ((plan.setup request.path request.excludes).build fs.current).mapError fun e =>
    about "Failed to build analyzer" e.chain
  let result ← (analyzer.analyze fs).mapError fun e => about "Analysis failed" e.chain
  let report ← (result.report request.format fs.readText analyzer.root).mapError fun missing =>
    about ("Failed to read " ++ missing.path.toString) [missing.fault.message]
  return (report, plan.isFailedBy result)

def listRules (asJson : Bool) : String :=
  if asJson then Catalog.toJson.pretty 0 ++ "\n" else Catalog.toText

/-- Where the starter configuration is written. -/
def starterPath : Path := .ofString "./railway-lint.toml"

def createdNotice : String := unlines [
  "Created " ++ starterPath.toString,
  "",
  "Next steps:",
  "  1. Edit railway-lint.toml to configure the rule",
  "  2. Run: railway-lint check"]

/-- Writes the starter configuration; one that is there is only overwritten if that is asked
for. -/
def writeStarter (fs : FileSystem) (overwrite : Bool) : Except Failure FileSystem :=
  if fs.isPresent starterPath && !overwrite then
    .error (plain ["Configuration file already exists at " ++ starterPath.toString ++
      ". Use --force to overwrite."])
  else (fs.writeText starterPath starterConfig.toList).mapError fun fault => plain [fault.message]

def perform [Recovery] (e : Environment) (fs : FileSystem) (request : Request) : Outcome :=
  match request.command with
  | .check asked =>
    match check e fs request.config asked with
    | .ok (report, isFailed) => ⟨if isFailed then 1 else 0, report, none, fs⟩
    | .error failure => .failed fs failure
  | .listRules asJson => .success fs (listRules asJson)
  | .init overwrite =>
    match writeStarter fs overwrite with
    | .ok written => .success written createdNotice
    | .error failure => .failed fs failure

/-- The single files that a run looks at, apart from those below the path that is checked: what
there is of ignore files above the path, and of configurations. -/
def singleFiles (e : Environment) (current : Path) (request : Request) : List Path :=
  match request.command with
  | .check asked =>
    (current.join asked.path).ancestors.flatMap (fun above =>
      [Walk.ignoreFile, Walk.gitIgnoreFile, Walk.gitExcludeFile].map fun name =>
        above.join (.ofString name)) ++
      request.config.toList ++ configPaths e asked.path
  | .listRules _ => []
  | .init _ => [starterPath]

/-- A run of the program. Arguments that are not understood have an exit code of their own. -/
def run [Recovery] (e : Environment) (fs : FileSystem) (arguments : List String) : Outcome :=
  match Request.ofArguments e.config arguments with
  | .ok request => perform e fs request
  | .error .version => .success fs versionLine
  | .error .help => .success fs help
  | .error .mistake => ⟨2, "", none, fs⟩

end ResultLint.CommandLine
