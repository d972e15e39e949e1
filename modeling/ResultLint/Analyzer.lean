import ResultLint.Config
import ResultLint.Glob
import ResultLint.LintResult
import ResultLint.Rule
import ResultLint.Walk

/-!
Running rules over files: which files are selected, what the rules in force find in each, and the
sorted result of a run. An analyzer is made from a setup, whose parts can be given in any order.
-/
namespace ResultLint

/-- Why a run ends without a result. -/
inductive AnalysisError where
  | unreadable (fault : FileFault)
  | noSuchTree (path : Path) (fault : FileFault)
  | syntaxErrors (path : Path)
  | badPattern (error : Glob.Error)
  deriving DecidableEq, Repr

namespace AnalysisError

def walkMessage (path : Path) (fault : FileFault) : String :=
  path.toString ++ ": IO error for operation on " ++ path.toString ++ ": " ++ fault.message

def message : AnalysisError → String
  | .unreadable fault => "IO error: " ++ fault.message
  | .noSuchTree path fault => "Failed to walk source tree: " ++ walkMessage path fault
  | .syntaxErrors path =>
    "Parse error in " ++ path.toString ++ ": source contains syntax errors"
  | .badPattern error => "Invalid glob pattern: " ++ error.message

/-- The message, and behind it that of the fault beneath. -/
def chain (e : AnalysisError) : List String :=
  e.message :: match e with
    | .unreadable fault => [fault.message]
    | .noSuchTree path fault => [walkMessage path fault]
    | .syntaxErrors _ => []
    | .badPattern error => [error.message]

end AnalysisError

/-- What an analyzer is made from. -/
structure AnalyzerSetup where
  root : Option Path
  rules : List Rule
  includes : List String
  excludes : List String
  /-- The preset's patterns, for where no other file is asked for. -/
  presetFiles : List String
  presetIgnores : List String
  config : Option Config
  failOnSyntaxErrors : Bool

structure Analyzer where
  /-- An absolute path. -/
  root : Path
  rules : List Rule
  includes : List Glob
  excludes : List Glob
  config : Config
  failOnSyntaxErrors : Bool

namespace AnalyzerSetup

def empty : AnalyzerSetup := ⟨none, [], [], [], [], [], none, false⟩

def withRoot (setup : AnalyzerSetup) (root : Path) : AnalyzerSetup :=
  { setup with root := some root }

def withRule (setup : AnalyzerSetup) (rule : Rule) : AnalyzerSetup :=
  { setup with rules := setup.rules ++ [rule] }

def withRules (setup : AnalyzerSetup) (rules : List Rule) : AnalyzerSetup :=
  rules.foldl withRule setup

def withInclude (setup : AnalyzerSetup) (pattern : String) : AnalyzerSetup :=
  { setup with includes := setup.includes ++ [pattern] }

def withExcludes (setup : AnalyzerSetup) (patterns : List String) : AnalyzerSetup :=
  { setup with excludes := setup.excludes ++ patterns }

def withPresetFiles (setup : AnalyzerSetup) (files ignores : List String) : AnalyzerSetup :=
  { setup with presetFiles := files, presetIgnores := ignores }

def withConfig (setup : AnalyzerSetup) (config : Config) : AnalyzerSetup :=
  { setup with config := some config }

def failingOnSyntaxErrors (setup : AnalyzerSetup) (fail : Bool) : AnalyzerSetup :=
  { setup with failOnSyntaxErrors := fail }

/-- The configuration that holds. -/
def settled (setup : AnalyzerSetup) : Config :=
  setup.config.getD .default

/-- Patterns that are asked for by the setup, and behind them by its configuration. -/
def askedIncludes (setup : AnalyzerSetup) : List String :=
  setup.includes ++ setup.settled.files.includes

/-- The patterns that select files: the preset's where none is asked for. -/
def effectiveIncludes (setup : AnalyzerSetup) : List String :=
  if setup.askedIncludes.isEmpty then setup.presetFiles else setup.askedIncludes

/-- The patterns that leave files out: the default ones where none is asked for, and with the
preset's files also its ignores. -/
def effectiveExcludes (setup : AnalyzerSetup) : List String :=
  let asked := setup.excludes ++ setup.settled.files.excludes
  (if asked.isEmpty then Config.defaultExcludes else asked) ++
    (if setup.askedIncludes.isEmpty then setup.presetIgnores else [])

def compile (patterns : List String) : Except AnalysisError (List Glob) :=
  patterns.mapM fun pattern => (Glob.parse pattern.toList).mapError .badPattern

/-- Makes an analyzer; a relative root is seen from the current directory. -/
def build (setup : AnalyzerSetup) (current : Path) : Except AnalysisError Analyzer := do
  let config := setup.settled
  let includes ← compile setup.effectiveIncludes
  let excludes ← compile setup.effectiveExcludes
  return {
    root := current.join (setup.root.getD config.files.root)
    rules := setup.rules
    includes := includes
    excludes := excludes
    config := config
    failOnSyntaxErrors := setup.failOnSyntaxErrors }

end AnalyzerSetup

namespace Analyzer

/-- Whether a path is selected: no exclude matches it as seen from the root, and some include
does, if there are any. -/
def selects (a : Analyzer) (path : Path) : Bool :=
  let relative := ((path.stripBase? a.root).getD path).chars
  !(a.excludes.any fun glob => glob.isMatch relative) &&
    (a.includes.isEmpty || a.includes.any fun glob => glob.isMatch relative)

/-- Whether a file that was found is looked at. -/
def accepts (a : Analyzer) (path : Path) : Bool :=
  (Dialect.ofPath? path).isSome && a.selects path

/-- A finding with the severity that is configured for its rule, unless it is pinned. -/
def regrade (severity : Option Severity) (v : Violation) : Violation :=
  match severity with
  | some s => if v.pinned then v else { v with severity := s }
  | none => v

/-- What one rule finds in a file; nothing if it is switched off. -/
def runRule (a : Analyzer) (ctx : FileContext) (file : SourceFile) (rule : Rule) :
    List Violation :=
  if a.config.isEnabled rule.name then
    (rule.check ctx file).map (regrade (a.config.severityOf? rule.name))
  else []

/-- What the rules find in a source, rule by rule. One with syntax errors is checked too, in the
tree that is salvaged from it, unless such errors end the run. -/
def checkSource [Recovery] (a : Analyzer) (path : Path) (content : List Char) :
    Except AnalysisError (List Violation) :=
  let file := SourceFile.parse content ((Dialect.ofPath? path).getD .typescript)
  if file.hasErrors && a.failOnSyntaxErrors then .error (.syntaxErrors path)
  else .ok (a.rules.flatMap (a.runRule (.ofFile path content a.root) file))

/-- Reads and checks one file. -/
def checkFile [Recovery] (a : Analyzer) (read : Path → Except FileFault (List Char)) (path : Path) :
    Except AnalysisError (List Violation) := do
  let content ← (read path).mapError .unreadable
  a.checkSource path content

/-- The accepted ones among the files that were found, in the order of their paths. -/
def queue (a : Analyzer) (found : List Path) : List Path :=
  (found.filter a.accepts).mergeSort fun p q => (p.compare q).isLE

/-- The result over the files that were found. -/
def analyzeFiles [Recovery] (a : Analyzer) (read : Path → Except FileFault (List Char))
    (found : List Path) : Except AnalysisError LintResult := do
  let files := a.queue found
  let findings ← files.mapM (a.checkFile read)
  return (LintResult.mk findings.flatten files.length).sorted

/-- The result over all files below the root. -/
def analyze [Recovery] (a : Analyzer) (fs : FileSystem) : Except AnalysisError LintResult := do
  let found ← (fs.filesBelow a.config.files.respectIgnoreFiles a.root).mapError
    (.noSuchTree a.root)
  a.analyzeFiles fs.readText found

end Analyzer

end ResultLint
