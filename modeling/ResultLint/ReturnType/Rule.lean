import ResultLint.Directive
import ResultLint.ReturnType.Policy
import ResultLint.Rule
import ResultLint.Source.Visit

/-!
The rule that functions declare a result type. A finding is suppressed by an allow directive at
the function's first line; where the rule wants a reason and the directive gives none, that is
reported instead, and its severity is pinned.
-/
namespace ResultLint.ReturnType

open Source

def ruleCode : String := "RW001"

def ruleName : String := "require-result-return-type"

def ruleDescription : String :=
  "Require functions to return Result type for Railway Oriented Programming"

def Fault.suggestion : Fault → String
  | .missingReturnType => "Annotate the return type, e.g. \x60: Result<T, E>\x60"
  | .requireResultType => "Return Result<T, E> (or Promise<Result<T, E>>) instead of throwing"

/-- The violation that a directive without a reason is. -/
def missingReason (ctx : FileContext) (node : FunctionNode) : Violation where
  code := ruleCode
  rule := ruleName
  severity := .warning
  location := .ofSpan ctx.relativePath node.span
  message := "Allow directive for '" ++ ruleName ++ "' is missing required reason"
  messageId := none
  suggestion := some "Add reason=\"...\" to explain why this function may skip Result"
  pinned := true

/-- The violation that a diagnostic is reported as. -/
def Diagnostic.violation (d : Diagnostic) (severity : Severity) (ctx : FileContext) :
    Violation where
  code := ruleCode
  rule := ruleName
  severity := severity
  location := .ofSpan ctx.relativePath d.anchor
  message := d.message
  messageId := some d.fault.id
  suggestion := some d.fault.suggestion
  pinned := false

/-- What is reported at one function. -/
def inspect (policy : Policy) (severity : Severity) (ctx : FileContext) (node : FunctionNode) :
    Option Violation :=
  match policy.examine node ctx with
  | none => none
  | some diagnostic =>
    match Allowance.check ctx.content node.span.line ruleName with
    | .denied => some (diagnostic.violation severity ctx)
    | .allowed reason =>
      if severity == .error && reason.isNone then some (missingReason ctx node) else none

/-- Collects what is reported, functions of all categories alike. -/
def collector (policy : Policy) (severity : Severity) (ctx : FileContext) :
    Visitor (List Violation) :=
  .uniform fun node found => found ++ (inspect policy severity ctx node).toList

/-- The rule under a policy. -/
def rule (policy : Policy) (severity : Severity) : Rule where
  name := ruleName
  code := ruleCode
  description := ruleDescription
  severity := severity
  check ctx file := (collector policy severity ctx).visitAll file.functions []

end ResultLint.ReturnType
