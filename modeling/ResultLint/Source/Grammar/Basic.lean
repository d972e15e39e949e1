import ResultLint.Dialect
import ResultLint.Source.Terminal
import ResultLint.Source.Tree

/-!
Grammars as data, and the one reader that follows them. A grammar is tried from left to right
and the first alternative that fits is taken. The reader passes white space and comments between
tokens, puts comments into the tree where they stand, and knows where a line end may stand for a
semicolon.
-/
namespace ResultLint.Source

/-- What the surroundings of a place allow. -/
structure Setting where
  dialect : Dialect
  /-- Whether a line end may stand for a semicolon. -/
  semicolons : Bool
  /-- Whether an arrow function may declare its return type. -/
  arrowTypes : Bool
  /-- Whether a type may be that of a function, outside brackets. -/
  functionTypes : Bool
  deriving DecidableEq, Repr

/-- A change of surroundings on the way into a part of the grammar. -/
inductive Shift where
  /-- Between brackets a line end means nothing. -/
  | brackets
  /-- Statements and members begin afresh. -/
  | statement
  /-- Before the colon of a conditional, an arrow function without a declared return type. -/
  | noArrowTypes
  /-- Before an arrow, a type that has no arrow itself. -/
  | noFunctionTypes
  deriving DecidableEq, Repr

def Shift.apply (s : Setting) : Shift → Setting
  | .brackets => { s with semicolons := false, arrowTypes := true, functionTypes := true }
  | .statement => { s with semicolons := true, arrowTypes := true, functionTypes := true }
  | .noArrowTypes => { s with arrowTypes := false }
  | .noFunctionTypes => { s with functionTypes := false }

/-- The named parts of the grammar. -/
inductive Rule where
  | statement | statements | block | declaration | classTail | classMember | decorator
  | expression | expressions | operand | suffixed | primary | arrow | parameters | signature
  | pattern | propertyName | object | array | arguments | template | element | elementChildren
  | type | unionType | typeOperand | typePostfix | typePrimary | typeArguments | typeParameters
  | objectType | indexSignature | ascription | returnAscription
  deriving DecidableEq, Repr

/-- What a step in a chain asks of the kind of what stands before it. -/
inductive Before where
  | anything
  /-- What can be assigned to. -/
  | target
  deriving DecidableEq, Repr

inductive Grammar where
  /-- A token; with a kind it becomes a leaf, named or not. -/
  | token (t : Terminal) (leaf : Option (Kind × Bool))
  /-- A token behind which white space belongs to the next one. -/
  | tight (t : Terminal)
  | sequence (gs : List Grammar)
  | choice (gs : List Grammar)
  | optional (g : Grammar)
  | many (g : Grammar)
  | node (kind : Kind) (g : Grammar)
  | role (r : Role) (g : Grammar)
  /-- A beginning and steps that each put what stands before them into a node. -/
  | chain (first : Grammar) (steps : List (Kind × Before × Option Role × Grammar))
  | rule (r : Rule)
  | within (shift : Shift) (g : Grammar)
  | ahead (g : Grammar)
  | notAhead (g : Grammar)
  | dialect (d : Dialect) (g : Grammar)
  | arrowTypes (g : Grammar)
  | functionTypes (g : Grammar)
  /-- A line end that stands for a semicolon. Before the body of a function none does. -/
  | lineSemicolon (beforeBody : Bool)
  /-- No line end stands for a semicolon here. -/
  | noSemicolon
  /-- White space and comments, after a token that did not pass them. -/
  | spacing
  /-- The end of the text. -/
  | finish

namespace Grammar

/-- A place in the text, the comments passed before it, and the trees read so far. -/
structure Place where
  rest : List Char
  position : Nat
  /-- Ranges of comments not yet put into a tree, the last one first. -/
  comments : List (Nat × Nat)
  newline : Bool
  lineStop : Nat
  /-- Where the last token ends. -/
  last : Nat
  /-- The trees of the current node, the last one first. -/
  trees : List Tree

def commentTree (range : Nat × Nat) : Tree :=
  .node ⟨.comment, true, none, range.1, range.2⟩ []

/-- Puts the comments that wait into the tree. -/
def Place.settle (p : Place) : Place :=
  { p with comments := [], trees := p.comments.map commentTree ++ p.trees }

/-- The place after white space and comments. -/
def Place.afterTrivia (p : Place) : Place :=
  let t := Trivia.skip p.position p.rest
  { p with rest := t.rest, position := t.position, comments := t.comments ++ p.comments,
           newline := t.newline, lineStop := t.lineStop }

/-- Goes past a token, and past what follows it if `loose`. -/
def Place.take (p : Place) (m : Terminal.Match) (leaf : Option (Kind × Bool)) (loose : Bool) :
    Place :=
  let stop := p.position + Text.byteLength m.1
  let settled := p.settle
  let trees := match leaf with
    | some (kind, named) => .node ⟨kind, named, none, p.position, stop⟩ [] :: settled.trees
    | none => settled.trees
  let next := { settled with rest := m.2, position := stop, last := stop, trees := trees,
                             newline := false, lineStop := stop }
  if loose then next.afterTrivia else next

/-- Whether a line end before this text is no end of a statement because the text goes on with
it. -/
def continues (beforeBody : Bool) (s : List Char) : Bool :=
  match s with
  | [] => false
  | c :: cs =>
    if c = '\x7b' then beforeBody
    else if c = '+' ∨ c = '-' then cs.head? != some c
    else if c = '!' then cs.head? == some '='
    else if c = 'i' then
      let word := String.ofList (Terminal.wordChars false s).1
      word == "in" || word == "instanceof"
    else "\x60,.;*%><=?^|&/:".toList.contains c

/-- Whether a semicolon may be left out here. -/
def endsHere (beforeBody : Bool) (p : Place) : Bool :=
  match p.rest with
  | [] => true
  | c :: _ => c == '\x7d' || (p.newline && !continues beforeBody p.rest)

/-- A left-out semicolon stands behind the comments of its line. -/
def Place.endLine (p : Place) : Place :=
  let inside := p.comments.filter fun c => c.2 ≤ p.lineStop
  { p with comments := p.comments.filter fun c => p.lineStop < c.2,
           trees := inside.map commentTree ++ p.trees, last := p.lineStop }

def isTarget : Kind → Bool
  | .identifier | .member | .subscript | .object | .array | .parenthesized | .nonNull => true
  | _ => false

/-- The kind of the one tree that was read; a part without a tree of its own is of no kind. -/
def kindOf (trees : List Tree) : Kind :=
  match trees.find? fun t => t.kind != .comment with
  | some t => t.kind
  | none => .other

def Before.admits (b : Before) (trees : List Tree) : Bool :=
  match b with
  | .anything => true
  | .target => isTarget (kindOf trees)

/-- Gives a role to the first tree that is no comment; the trees come last one first. -/
def assignRole (r : Role) (trees : List Tree) : List Tree :=
  (go trees.reverse).reverse
where
  go : List Tree → List Tree
    | [] => []
    | t :: ts => if t.kind = .comment then t :: go ts else t.withRole r :: ts

/-- Repeats a step as long as it moves on. -/
def iterate (step : Place → Option Place) : Nat → Place → Place
  | 0, p => p
  | fuel + 1, p =>
    match step p with
    | some q => if p.position < q.position then iterate step fuel q else p
    | none => p

/-- Follows a grammar from a place; `rules` gives the named parts. -/
def follow (rules : Rule → Grammar) : Nat → Setting → Grammar → Place → Option Place
  | 0, _, _, _ => none
  | fuel + 1, setting, g, p =>
    match g with
    | .token t leaf => (t.read p.rest).map fun m => p.take m leaf true
    | .tight t => (t.read p.rest).map fun m => p.take m none false
    | .sequence gs => gs.foldlM (fun q g => follow rules fuel setting g q) p
    | .choice gs => gs.findSome? fun g => follow rules fuel setting g p
    | .optional g => some ((follow rules fuel setting g p).getD p)
    | .many g => some (iterate (follow rules fuel setting g) fuel p)
    | .node kind g =>
      let start := p.settle
      (follow rules fuel setting g { start with trees := [] }).map fun q =>
        let label : Label := ⟨kind, true, none, p.position, q.last⟩
        { q with trees := .node label q.trees.reverse :: start.trees }
    | .role r g =>
      let start := p.settle
      (follow rules fuel setting g { start with trees := [] }).map fun q =>
        { q with trees := assignRole r q.trees ++ start.trees }
    | .chain first steps =>
      let start := p.settle
      (follow rules fuel setting first { start with trees := [] }).map fun q =>
        let step (q : Place) : Option Place :=
          steps.findSome? fun (kind, before, part, g) =>
            if Before.admits before q.trees then
              (follow rules fuel setting g { q with trees := [] }).map fun r =>
                let head := match part with
                  | some part => assignRole part q.trees
                  | none => q.trees
                let label : Label := ⟨kind, true, none, p.position, r.last⟩
                { r with trees := [.node label (r.trees ++ head).reverse] }
            else none
        let q := iterate step fuel q
        { q with trees := q.trees ++ start.trees }
    | .rule r => follow rules fuel setting (rules r) p
    | .within shift g => follow rules fuel (shift.apply setting) g p
    | .ahead g => (follow rules fuel setting g p).map fun _ => p
    | .notAhead g =>
      match follow rules fuel setting g p with
      | some _ => none
      | none => some p
    | .dialect d g => if setting.dialect = d then follow rules fuel setting g p else none
    | .arrowTypes g => if setting.arrowTypes then follow rules fuel setting g p else none
    | .functionTypes g => if setting.functionTypes then follow rules fuel setting g p else none
    | .lineSemicolon beforeBody => if endsHere beforeBody p then some p.endLine else none
    | .noSemicolon =>
      if setting.semicolons && endsHere false p then none else some p
    | .spacing => some p.afterTrivia
    | .finish => if p.rest.isEmpty then some p else none

end Grammar

end ResultLint.Source
