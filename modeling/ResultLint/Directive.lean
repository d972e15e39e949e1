import ResultLint.Text.Blank
import ResultLint.Text.Lines
import ResultLint.Text.Search

/-!
Allow directives in line comments. A directive names rules in parentheses, or `all`, and may
give a reason in double quotes. It covers the line it stands on and the line below.
-/
namespace ResultLint

open Text

/-- What an allow directive says. -/
structure Directive where
  rules : List String
  reason : Option String
  deriving DecidableEq, Repr

/-- Whether a line is under a directive for a rule. -/
inductive Allowance where
  | denied
  | allowed (reason : Option String)
  deriving DecidableEq, Repr

namespace Directive

/-- The rule names of a parenthesis: pieces between commas, trimmed, blank ones left out. -/
def names (inside : List Char) : List String :=
  (((splitOn ',' inside).map trim).filter fun name => !name.isEmpty).map String.ofList

/-- The reason after the parenthesis; a blank, unquoted or unclosed one is no reason. -/
def reasonOf? (rest : List Char) : Option String := do
  let value ← stripStart? "reason=".toList (trim rest)
  let quoted ← stripStart? ['"'] (trim value)
  let (reason, _) ← cut? ['"'] quoted
  if (trim reason).isEmpty then none else some (String.ofList reason)

/-- The directive in the text of a comment, less its slashes and the blanks around. -/
def ofComment? (comment : List Char) : Option Directive := do
  let directive ← stripStart? "railway-lint:".toList comment
  let list ← stripStart? "allow(".toList (trim directive)
  let (inside, rest) ← cut? [')'] (trim list)
  let rules := names inside
  if rules.isEmpty then none else some ⟨rules, reasonOf? rest⟩

/-- The directive of a line: what follows the first two slashes and any further ones. -/
def ofLine? (line : List Char) : Option Directive := do
  let (_, after) ← cut? ['/', '/'] line
  ofComment? (trim (after.dropWhile (· == '/')))

/-- A directive covers the rules it names, and every rule if it names `all`. -/
def covers (d : Directive) (rule : String) : Bool :=
  d.rules.contains rule || d.rules.contains "all"

end Directive

namespace Allowance

def isAllowed : Allowance → Bool
  | .denied => false
  | .allowed _ => true

def reason? : Allowance → Option String
  | .denied => none
  | .allowed reason => reason

/-- The line above is asked first, then the line itself; lines are counted from one. -/
def check (content : List Char) (line : Nat) (rule : String) : Allowance :=
  let covering := [line - 1, line].findSome? fun number => do
    let directive ← (line? content number).bind Directive.ofLine?
    if directive.covers rule then some directive else none
  match covering with
  | some directive => .allowed directive.reason
  | none => .denied

end Allowance

end ResultLint
