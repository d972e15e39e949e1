import ResultLint.FileContext
import ResultLint.Source.File
import ResultLint.Violation

/-!
Rules: what is checked in one file, with the facts by which a rule is listed and configured.
-/
namespace ResultLint

structure Rule where
  name : String
  code : String
  description : String
  severity : Severity
  /-- What the rule finds in a file. -/
  check : FileContext → SourceFile → List Violation

/-- Rules that report errors want a reason where they are switched off. -/
def Rule.requiresReason (rule : Rule) : Bool :=
  rule.severity == .error

end ResultLint
