import ResultLint.FileTree
import ResultLint.Json.Pretty
import ResultLint.LintResultRecord
import ResultLint.Report.Excerpt
import ResultLint.Text.Wrap

/-!
The forms in which a result is shown: coloured text, JSON, a line for each finding, and excerpts
from the sources.
-/
namespace ResultLint

inductive ReportFormat where
  | text | json | compact | rich
  deriving DecidableEq, Repr

namespace ReportFormat

def all : List ReportFormat := [.text, .json, .compact, .rich]

def name : ReportFormat → String
  | .text => "text"
  | .json => "json"
  | .compact => "compact"
  | .rich => "rich"

/-- The format with exactly this name. -/
def ofName? (name : String) : Option ReportFormat :=
  all.find? fun f => f.name == name

end ReportFormat

/-- A source that a report needs and that cannot be read. -/
structure Report.MissingSource where
  path : Path
  fault : FileFault
  deriving DecidableEq, Repr

namespace Report

/-- Colours by their numbers on a terminal. -/
def coloured (colour : Nat) (s : String) : String :=
  "\x1b[" ++ toString colour ++ "m" ++ s ++ "\x1b[0m"

def gradeColour : Severity → Nat
  | .error => 31
  | .warning => 33
  | .info => 34

/-- Red if there are errors, yellow if there are warnings, else green. -/
def totalColour (r : LintResult) : Nat :=
  if 0 < r.counts.errors then 31 else if 0 < r.counts.warnings then 33 else 32

def total (r : LintResult) : String := "Found " ++ r.totals

/-- Every finding as a block, its severity coloured. -/
def text (r : LintResult) : String :=
  String.join (r.violations.map fun v =>
    v.blockWith (fun s => coloured (gradeColour s) s.name) ++ "\n") ++
    coloured (totalColour r) (total r) ++ "\n"

def json (r : LintResult) : String :=
  r.toJson.pretty 0 ++ "\n"

/-- Every finding as a line. -/
def compact (r : LintResult) : String :=
  String.join (r.violations.map fun v => v.summary ++ "\n")

/-- The columns of a row of the excerpts' texts, the margin left out. -/
def rowWidth (margin : String) : Nat := 198 - margin.length

/-- A text over as many rows as it takes. -/
def wrapped (first others : String) (s : String) : List String :=
  Text.Wrap.wrapAll (rowWidth first) first others s.toList

def mark (v : Violation) : Mark :=
  ⟨v.location.offset, v.location.offset + v.location.length, v.rule⟩

/-- A finding with an excerpt from its source, in rows. -/
def rows (source : List Char) (v : Violation) : List String :=
  wrapped "  x " "  | " v.headline ++
    excerpt v.location.file.toString source (mark v) ++
    match v.suggestion with
    | some suggestion => wrapped "  help: " "        " suggestion
    | none => []

/-- Every finding with an excerpt from its source. -/
def rich (read : Path → Except FileFault (List Char)) (root : Path) (r : LintResult) :
    Except MissingSource String := do
  let parts ← r.violations.mapM fun v => do
    let path := root.join v.location.file
    let source ← (read path).mapError (MissingSource.mk path)
    return String.join ((rows source v).map (· ++ "\n")) ++ "\n"
  return String.join parts ++ total r ++ "\n"

end Report

/-- A result in a format; the sources are read from below the root. -/
def LintResult.report (format : ReportFormat) (read : Path → Except FileFault (List Char))
    (root : Path) (r : LintResult) : Except Report.MissingSource String :=
  match format with
  | .text => .ok (Report.text r)
  | .json => .ok (Report.json r)
  | .compact => .ok (Report.compact r)
  | .rich => Report.rich read root r

end ResultLint
