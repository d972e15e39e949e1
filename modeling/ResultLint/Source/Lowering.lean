import ResultLint.Source.Cursor
import ResultLint.Source.Function
import ResultLint.Source.Position
import ResultLint.Text.Blank
import ResultLint.Text.Bytes
import ResultLint.Text.Search

/-!
From places in a tree to functions. A place is a function if its node is named and of one of the
function kinds; a method without a body counts only directly in a class body.
-/
namespace ResultLint.Source

open Text

/-- The source text of a node. -/
def textOf (source : List Char) (t : Tree) : String :=
  String.ofList ((slice? source t.label.start t.label.stop).getD [])

def spanOfTree (source : List Char) (t : Tree) : Span :=
  spanOf source t.label.start t.label.stop

namespace Crumb

/-- Whether the node in focus is the first child that plays a role. -/
def holds (c : Crumb) (role : Role) (focus : Tree) : Bool :=
  focus.label.role == some role && !c.before.any fun t => t.label.role == some role

/-- The text of the first child that plays a role, if it is of one of some kinds. -/
def text? (c : Crumb) (source : List Char) (focus : Tree) (role : Role) (kinds : List Kind) :
    Option String :=
  ((Tree.inRole? role (c.children focus)).filter fun t => kinds.contains t.kind).map
    (textOf source)

/-- What a node binds the function in focus to. -/
def binding (c : Crumb) (source : List Char) (focus : Tree) : Binding :=
  match c.label.kind with
  | .variableDeclarator =>
    if c.holds .value focus then .declarator (c.text? source focus .name [.identifier]) else .other
  | .pair =>
    if c.holds .value focus then
      .property (c.text? source focus .key [.propertyName, .identifier])
    else .other
  | .assignment | .augmentedAssignment =>
    if c.holds .right focus then .assignment (c.text? source focus .left [.identifier]) else .other
  | _ => .other

end Crumb

namespace Cursor

/-- The binding that the nodes above give; parentheses are looked through. -/
def bindingFrom (source : List Char) (focus : Tree) : List Crumb → Binding
  | [] => .other
  | crumb :: up =>
    if crumb.label.kind = .parenthesized then bindingFrom source (crumb.close focus) up
    else crumb.binding source focus

def binding (c : Cursor) (source : List Char) : Binding :=
  bindingFrom source c.focus c.path

/-- Whether the node stands directly in a class body. -/
def inClass (c : Cursor) : Bool :=
  c.path.head?.any fun crumb => crumb.label.kind == .classBody

end Cursor

/-- An annotation without its colons and the blanks around the rest. -/
def behindColon (annotated : Span) (raw : List Char) : Span :=
  let rest := trimStart (raw.dropWhile (· == ':'))
  let lead := byteLength raw - byteLength rest
  ⟨annotated.start + lead, annotated.start + lead + byteLength (trimEnd rest), annotated.line,
    annotated.column + lead⟩

/-- The declared return type of a node: the type is the first named node of the annotation, or
what stands behind the colon if there is none. -/
def declaredType? (source : List Char) (node : Tree) : Option DeclaredType :=
  (Tree.inRole? .returnType node.children).map fun annotated =>
    let span := spanOfTree source annotated
    match annotated.children.find? fun t => t.label.named with
    | some type => ⟨span, spanOfTree source type⟩
    | none => ⟨span, behindColon span (textOf source annotated).toList⟩

def hasBody (node : Tree) : Bool :=
  (Tree.inRole? .body node.children).isSome

/-- The identifier that a function bears itself. -/
def ownName? (source : List Char) (node : Tree) : Option String :=
  ((Tree.inRole? .name node.children).filter fun t => t.kind == .identifier).map (textOf source)

/-- A literal without the quotes around it. -/
def unquote (literal : List Char) : List Char :=
  let isQuote (c : Char) : Bool := c == '\'' || c == '"'
  match literal with
  | first :: rest =>
    match rest.reverse with
    | last :: body => if isQuote first && isQuote last then body.reverse else literal
    | [] => literal
  | [] => literal

/-- The key of a method: its name as spelled, a private one without the number sign. -/
def methodKey? (source : List Char) (node : Tree) : Option String :=
  (Tree.inRole? .name node.children).bind fun name =>
    match name.kind with
    | .propertyName => some (textOf source name)
    | .privateName =>
      some (String.ofList ((textOf source name).toList.dropWhile (· == '#')))
    | _ => none

/-- Whether a method's name spells the constructor, quoted or not. -/
def namesConstructor (source : List Char) (node : Tree) : Bool :=
  methodKey? source node == some "constructor" ||
    (Tree.inRole? .name node.children).any fun name =>
      name.kind == .string && String.ofList (unquote (textOf source name).toList) == "constructor"

/-- The kind that a keyword before the name gives a method. -/
def accessorKind? (node : Tree) : Option MethodKind :=
  let before : List Tree := match Tree.inRole? .name node.children with
    | some name => node.children.takeWhile fun t => t.label.start < name.label.start
    | none => node.children
  before.findSome? fun t =>
    match t.label.named, t.kind with
    | false, .get => some .get
    | false, .set => some .set
    | _, _ => none

def methodKind (source : List Char) (c : Cursor) : MethodKind :=
  match accessorKind? c.focus with
  | some kind => kind
  | none =>
    if c.inClass && namesConstructor source c.focus then .constructor else .method

/-- The category of the node in focus, if it is a function. -/
def form? (source : List Char) (c : Cursor) : Option Form :=
  let method : Form := .method (methodKey? source c.focus) (methodKind source c)
  if !c.focus.label.named then none
  else
    match c.focus.kind with
    | .functionDeclaration | .generatorDeclaration | .functionSignature =>
      some (.declaration (ownName? source c.focus))
    | .function | .generatorFunction => some (.expression (ownName? source c.focus))
    | .arrowFunction => some (.arrow (ownName? source c.focus))
    | .methodDefinition => some method
    | .methodSignature => if c.inClass then some method else none
    | _ => none

/-- The function at a place of a tree, if there is one. -/
def functionAt? (source : List Char) (c : Cursor) : Option FunctionNode :=
  (form? source c).map fun form =>
    ⟨form, c.binding source, declaredType? source c.focus, hasBody c.focus,
      spanOfTree source c.focus⟩

/-- The functions of a tree in reading order, an enclosing one before those it holds. -/
def functionsOf (source : List Char) (t : Tree) : List FunctionNode :=
  (Cursor.walk t).filterMap (functionAt? source)

end ResultLint.Source
