import ResultLint.Span

/-!
Functions as rules see them: declarations, function expressions, arrow functions and methods,
with the context that may name them and their declared return type.
-/
namespace ResultLint.Source

inductive MethodKind where
  | method
  | constructor
  | get
  | set
  deriving DecidableEq, Repr

/-- The context a function stands in. A name is there only if the binding is a plain
identifier. -/
inductive Binding where
  | declarator (name : Option String)
  | property (key : Option String)
  | assignment (target : Option String)
  | methodDefinition
  | other
  deriving DecidableEq, Repr

/-- A declared return type: the annotation with its colon, and the type alone. -/
structure DeclaredType where
  span : Span
  typeSpan : Span
  deriving DecidableEq, Repr

/-- The category of a function, with what only that category carries. -/
inductive Form where
  | declaration (id : Option String)
  | expression (id : Option String)
  | arrow (id : Option String)
  | method (key : Option String) (kind : MethodKind)
  deriving DecidableEq, Repr

structure FunctionNode where
  form : Form
  binding : Binding
  returnType : Option DeclaredType
  hasBody : Bool
  span : Span
  deriving DecidableEq, Repr

namespace FunctionNode

/-- The function's own identifier. -/
def id? (f : FunctionNode) : Option String :=
  match f.form with
  | .declaration id | .expression id | .arrow id => id
  | .method _ _ => none

/-- The key of a method. -/
def key? (f : FunctionNode) : Option String :=
  match f.form with
  | .method key _ => key
  | _ => none

def methodKind? (f : FunctionNode) : Option MethodKind :=
  match f.form with
  | .method _ kind => some kind
  | _ => none

def isMethod (f : FunctionNode) : Bool :=
  f.methodKind?.isSome

/-- The name that the context gives. -/
def Binding.name? : Binding → Option String
  | .declarator name | .property name | .assignment name => name
  | .methodDefinition | .other => none

/-- What a function without any name is called. -/
def anonymous : String := "anonymous"

/-- The name of a function: its own, else its key, else the one its context gives. -/
def name (f : FunctionNode) : String :=
  ((f.id? <|> f.key?) <|> Binding.name? f.binding).getD anonymous

end FunctionNode

end ResultLint.Source
