import ResultLint.FileContext
import ResultLint.Regex.Pattern
import ResultLint.ReturnType.Options
import ResultLint.ReturnType.Shape
import ResultLint.Source.Function
import ResultLint.Text.Quoted
import ResultLint.Text.Template

/-!
Which functions must declare a result type, and what is found at one that does not. Options are
compiled into a policy once; examining a function changes nothing.
-/
namespace ResultLint.ReturnType

open Source

/-- Why options cannot be compiled. -/
inductive OptionsError where
  | invalidPattern (pattern : String) (reason : Regex.Pattern.Error)
  deriving DecidableEq, Repr

def OptionsError.message : OptionsError → String
  | .invalidPattern pattern reason =>
    "invalid exemptPatterns entry " ++ String.ofList (Text.Quoted.quote pattern.toList) ++ ": " ++
      reason.message

/-- A type that passes. -/
structure AllowedType where
  /-- The entry in normal form. -/
  normal : List Char
  /-- The expression for exactly this text, unless it grows too big. -/
  expression : Option Regex
  deriving Repr

namespace AllowedType

def ofEntry (entry : String) : AllowedType :=
  let normal := normalize entry.toList
  ⟨normal, (Regex.Pattern.parse ('^' :: Regex.Pattern.ofText normal ++ ['$'])).toOption⟩

/-- Whether a type in normal form is the allowed one, contains it, or matches its expression. -/
def admits (a : AllowedType) (type : List Char) : Bool :=
  type == a.normal || Text.contains a.normal type ||
    a.expression.any fun expression => expression.isMatch type

end AllowedType

structure Policy where
  allowed : List AllowedType
  exemptFunctions : List String
  exemptPatterns : List Regex
  deriving Repr

namespace Policy

def ofParts (allowed exempt : List String) (patterns : List Regex) : Policy :=
  ⟨allowed.map AllowedType.ofEntry, exempt ++ Options.alwaysExempt, patterns⟩

def default : Policy :=
  ofParts Options.defaultAllowedReturnTypes Options.defaultExemptFunctions []

def compilePattern (pattern : String) : Except OptionsError Regex :=
  match Regex.Pattern.parse pattern.toList with
  | .ok r => .ok r
  | .error reason => .error (.invalidPattern pattern reason)

/-- Compiles options; a list that is absent is the default one. -/
def compile (options : Options) : Except OptionsError Policy := do
  let options := Options.defaults.overriddenBy options
  let patterns ← (options.exemptPatterns.getD []).mapM compilePattern
  return ofParts (options.allowedReturnTypes.getD []) (options.exemptFunctions.getD []) patterns

/-- Marks of test files in their paths. -/
def testMarks : List String := [".spec.", ".test."]

def isTestFile (path : Path) : Bool :=
  testMarks.any fun mark => Text.contains mark.toList path.chars

/-- Whether a function of this name in a file at this path is left alone. -/
def isExempt (policy : Policy) (name : String) (path : Path) : Bool :=
  policy.exemptFunctions.contains name ||
    policy.exemptPatterns.any (fun pattern => pattern.isMatch name.toList) || isTestFile path

/-- Whether one of the allowed types admits a type in normal form. -/
def isAllowed (policy : Policy) (type : List Char) : Bool :=
  policy.allowed.any fun a => a.admits type

end Policy

/-- Whether a function is looked at: it has a body, it is no constructor or accessor, and it is
not the value that a method wraps. -/
def isEligible (node : FunctionNode) : Bool :=
  let special := match node.methodKind? with
    | some .constructor | some .get | some .set => true
    | _ => false
  node.hasBody && !special && !(node.isMethod && node.key? == some "constructor") &&
    node.binding != .methodDefinition

/-- What is wrong with a return type. -/
inductive Fault where
  | requireResultType
  | missingReturnType
  deriving DecidableEq, Repr

namespace Fault

def all : List Fault := [.requireResultType, .missingReturnType]

def id : Fault → String
  | .requireResultType => "requireResultType"
  | .missingReturnType => "missingReturnType"

/-- The message with slots for the name and the type. -/
def template : Fault → String
  | .requireResultType =>
    "Function \"\x7b\x7bname\x7d\x7d\" must return Result<T, E> type. " ++
      "Current return type: \x7b\x7bcurrentType\x7d\x7d"
  | .missingReturnType =>
    "Function \"\x7b\x7bname\x7d\x7d\" must have an explicit return type annotation that " ++
      "returns Result<T, E>"

end Fault

/-- What is found at a function. -/
structure Diagnostic where
  fault : Fault
  /-- The function if it has no annotation, else the annotation. -/
  anchor : Span
  name : String
  /-- The annotated type as written, if there is one. -/
  currentType : Option String
  deriving DecidableEq, Repr

/-- The message of a fault with its slots filled. -/
def Diagnostic.message (d : Diagnostic) : String :=
  let values := ("name".toList, d.name.toList) ::
    (d.currentType.map fun type => ("currentType".toList, type.toList)).toList
  String.ofList (Text.Template.render values d.fault.template.toList)

/-- Examines one function of a file. -/
def Policy.examine (policy : Policy) (node : FunctionNode) (ctx : FileContext) :
    Option Diagnostic :=
  if !isEligible node then none
  else if policy.isExempt node.name ctx.path then none
  else
    match node.returnType with
    | none => some ⟨.missingReturnType, node.span, node.name, none⟩
    | some declared =>
      let raw := ctx.text declared.typeSpan
      let type := normalize raw
      if isResult type || policy.isAllowed type then none
      else some ⟨.requireResultType, declared.span, node.name, some (String.ofList raw)⟩

end ResultLint.ReturnType
