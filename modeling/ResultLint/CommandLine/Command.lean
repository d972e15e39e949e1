import ResultLint.CommandLine.Arguments
import ResultLint.Path
import ResultLint.Report

/-!
The commands and what can be said to each. The configuration file and the wish for more talk can
be given before a command and behind it; what stands behind it counts.
-/
namespace ResultLint.CommandLine

/-- What a check is asked for. -/
structure CheckRequest where
  path : Path
  format : ReportFormat
  preset : Option String
  excludes : List String

inductive Command where
  | check (request : CheckRequest)
  | listRules (asJson : Bool)
  | init (overwrite : Bool)

/-- A command, and the configuration file that is named for it. -/
structure Request where
  command : Command
  config : Option Path

namespace Request

def anyText (_ : String) : Bool := true

def someText (s : String) : Bool := !s.isEmpty

/-- Options that every command knows. -/
def shared : List OptionSpec := [
  ⟨"verbose", some 'v', .flag⟩,
  ⟨"config", some 'c', .value someText false⟩,
  ⟨"help", some 'h', .ends .help⟩]

def commandNames : List String := ["check", "list-rules", "init"]

/-- The name under which help is asked for. -/
def helpName : String := "help"

def topUsage : Usage :=
  ⟨shared ++ [⟨"version", some 'V', .ends .version⟩], commandNames ++ [helpName], 0⟩

def checkUsage : Usage :=
  ⟨shared ++ [
    ⟨"format", some 'f', .value (fun name => (ReportFormat.ofName? name).isSome) false⟩,
    ⟨"preset", some 'p', .value anyText false⟩,
    ⟨"exclude", some 'e', .value anyText true⟩], [], 1⟩

def listRulesUsage : Usage :=
  ⟨shared ++ [⟨"json", none, .flag⟩], [], 0⟩

def initUsage : Usage :=
  ⟨shared ++ [⟨"force", none, .flag⟩], [], 0⟩

def usageOf? : String → Option Usage
  | "check" => some checkUsage
  | "list-rules" => some listRulesUsage
  | "init" => some initUsage
  | _ => none

/-- The command of a name with what is said to it; the current directory is checked where no
path is given. -/
def commandOf? (g : Given) : String → Option Command
  | "check" => some (.check {
      path := .ofString (g.words.head?.getD ".")
      format := ((g.value? "format").bind ReportFormat.ofName?).getD .text
      preset := g.value? "preset"
      excludes := g.values "exclude" })
  | "list-rules" => some (.listRules (g.isGiven "json"))
  | "init" => some (.init (g.isGiven "force"))
  | _ => none

/-- Help is there for the whole program, for each command, and for help itself. -/
def helpOn : List String → Ending
  | [] => .help
  | [name] => if (commandNames ++ [helpName]).contains name then .help else .mistake
  | _ => .mistake

/-- The configuration file said before a command and behind it. Where one place does not say it
the environment's value is looked at, which must not be empty. -/
def chosenConfig (before behind : Given) (environment : Option String) :
    Except Ending (Option Path) :=
  let given := [behind.value? "config", before.value? "config"]
  if given.contains none && environment == some "" then .error .mistake
  else .ok (((given.filterMap id).head? <|> environment).map Path.ofString)

/-- Reads arguments; `environment` is the configuration file that the environment names. -/
def ofArguments (environment : Option String) (arguments : List String) :
    Except Ending Request := do
  match ← topUsage.read .nothing arguments with
  | (_, none) => .error .mistake
  | (before, some (name, rest)) =>
    if name = helpName then .error (helpOn rest)
    else
      let some usage := usageOf? name | .error .mistake
      let (behind, _) ← usage.read .nothing rest
      let config ← chosenConfig before behind environment
      let some command := commandOf? behind name | .error .mistake
      return ⟨command, config⟩

end Request

end ResultLint.CommandLine
