/-!
Concrete trees of source files. A node has a kind, the range of bytes it covers, and the role it
plays in its parent. Keywords are unnamed nodes; some of them share a kind with named ones.
-/
namespace ResultLint.Source

/-- What a node is, as far as anything depends on it. -/
inductive Kind where
  | comment
  | functionDeclaration
  | generatorDeclaration
  | functionSignature
  /-- A function expression, and the keyword that opens a function. -/
  | function
  | generatorFunction
  | arrowFunction
  | methodDefinition
  | methodSignature
  | classBody
  | variableDeclarator
  | pair
  | assignment
  | augmentedAssignment
  | parenthesized
  | identifier
  | propertyName
  | privateName
  | string
  | typeAscription
  | member
  | subscript
  | object
  | array
  | nonNull
  | block
  | get
  | set
  | other
  deriving DecidableEq, Repr

/-- The role of a child in its parent. -/
inductive Role where
  | name
  | key
  | value
  | left
  | right
  | body
  | returnType
  deriving DecidableEq, Repr

structure Label where
  kind : Kind
  named : Bool
  role : Option Role
  start : Nat
  stop : Nat
  deriving DecidableEq, Repr

inductive Tree where
  | node (label : Label) (children : List Tree)
  deriving Repr

namespace Tree

def label : Tree → Label
  | .node l _ => l

def children : Tree → List Tree
  | .node _ ts => ts

def kind (t : Tree) : Kind := t.label.kind

def withRole (role : Role) : Tree → Tree
  | .node l ts => .node { l with role := some role } ts

/-- The first of some trees that plays a role. -/
def inRole? (role : Role) (ts : List Tree) : Option Tree :=
  ts.find? fun t => t.label.role == some role

/-- The number of nodes. -/
def size : Tree → Nat
  | .node _ ts => 1 + sizeAll ts
where
  sizeAll : List Tree → Nat
    | [] => 0
    | t :: ts => size t + sizeAll ts

end Tree

end ResultLint.Source
