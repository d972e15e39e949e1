import ResultLint.Text.Search

/-!
Failures with what brought them about, and the report of one: the causes are numbered if there
is more than one, and all their lines are indented alike.
-/
namespace ResultLint.CommandLine

structure Failure where
  message : String
  /-- What lies beneath, the nearest first. -/
  causes : List String
  deriving DecidableEq, Repr

namespace Failure

def spaces (n : Nat) : String := String.ofList (List.replicate n ' ')

/-- A text with `first` before its first line and `others` before the further ones. -/
def indented (first others s : String) : String :=
  first ++ ("\n" ++ others).intercalate ((Text.splitOn '\n' s.toList).map String.ofList)

/-- A cause with its number, which stands at the right of five columns. -/
def numbered (number : Nat) (cause : String) : String :=
  let digits := toString number
  indented (spaces (5 - digits.length) ++ digits ++ ": ") (spaces 7) cause

def causeLines : List String → List String
  | [] => []
  | [cause] => [indented (spaces 4) (spaces 4) cause]
  | causes => causes.zipIdx.map fun (cause, number) => numbered number cause

/-- The report of a failure. -/
def report (f : Failure) : String :=
  let beneath := if f.causes.isEmpty then ""
    else "\n\nCaused by:\n" ++ "\n".intercalate (causeLines f.causes)
  "Error: " ++ f.message ++ beneath ++ "\n"

end Failure

end ResultLint.CommandLine
