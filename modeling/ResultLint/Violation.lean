import ResultLint.Path
import ResultLint.Severity
import ResultLint.Span

/-!
Findings: what a rule reports about a place in a file, and the forms in which one is shown.
-/
namespace ResultLint

structure Location where
  file : Path
  line : Nat
  column : Nat
  /-- The first byte of the place, and how many bytes it has. -/
  offset : Nat
  length : Nat
  deriving DecidableEq, Repr

/-- The place that a span covers in a file. -/
def Location.ofSpan (file : Path) (span : Span) : Location :=
  ⟨file, span.line, span.column, span.start, span.length⟩

/-- A line and column, without a piece of text. -/
def Location.at (file : Path) (line column : Nat) : Location :=
  ⟨file, line, column, 0, 0⟩

structure Violation where
  code : String
  rule : String
  severity : Severity
  location : Location
  message : String
  /-- Which of the rule's messages this is. -/
  messageId : Option String
  /-- What the user may do about it. -/
  suggestion : Option String
  /-- Whether a configured severity leaves this one as it is. -/
  pinned : Bool
  deriving DecidableEq, Repr

namespace Violation

/-- File, line and column with colons between them. -/
def place (v : Violation) : String :=
  v.location.file.toString ++ ":" ++ toString v.location.line ++ ":" ++ toString v.location.column

/-- The code and the message. -/
def headline (v : Violation) : String :=
  "[" ++ v.code ++ "] " ++ v.message

/-- One line of text. -/
def summary (v : Violation) : String :=
  v.place ++ ": " ++ v.severity.name ++ " " ++ v.headline

/-- A heading, and below it the message and the suggestion; `grade` is how the severity is
shown. -/
def blockWith (grade : Severity → String) (v : Violation) : String :=
  v.code ++ " " ++ v.rule ++ " at " ++ v.place ++ "\n  " ++ grade v.severity ++ ": " ++ v.message ++
    "\n" ++
    match v.suggestion with
    | some suggestion => "  = help: " ++ suggestion ++ "\n"
    | none => ""

def block (v : Violation) : String :=
  v.blockWith Severity.name

end Violation

end ResultLint
