import ResultLint.Source.Tree

/-!
A place in a tree: the node in focus and the way up to the root. Stepping through the places in
reading order visits every node once, a node before its children.
-/
namespace ResultLint.Source

/-- A node above the focus: its label and its children on both sides, those before it nearest
first. -/
structure Crumb where
  label : Label
  before : List Tree
  after : List Tree

structure Cursor where
  focus : Tree
  path : List Crumb

namespace Crumb

/-- All children of the node, the one on the way down put back. -/
def children (c : Crumb) (focus : Tree) : List Tree :=
  c.before.reverse ++ focus :: c.after

/-- The node, the one on the way down put back. -/
def close (c : Crumb) (focus : Tree) : Tree :=
  .node c.label (c.children focus)

end Crumb

namespace Cursor

/-- The place at the top of a tree. -/
def top (t : Tree) : Cursor := ⟨t, []⟩

def firstChild? (c : Cursor) : Option Cursor :=
  match c.focus with
  | .node _ [] => none
  | .node l (t :: ts) => some ⟨t, ⟨l, [], ts⟩ :: c.path⟩

/-- The sibling after a node, or after the nearest node above it that has one. -/
def nextBehind? (focus : Tree) : List Crumb → Option Cursor
  | [] => none
  | crumb :: up =>
    match crumb.after with
    | [] => nextBehind? (crumb.close focus) up
    | t :: ts => some ⟨t, { crumb with before := focus :: crumb.before, after := ts } :: up⟩

/-- The next place in reading order: the first child, else what comes behind the node. -/
def next? (c : Cursor) : Option Cursor :=
  match c.firstChild? with
  | some d => some d
  | none => nextBehind? c.focus c.path

/-- A place and the ones that follow it, as many as `fuel` at most. -/
def walkFrom : Nat → Cursor → List Cursor
  | 0, _ => []
  | fuel + 1, c =>
    match c.next? with
    | none => [c]
    | some d => c :: walkFrom fuel d

/-- All places of a tree in reading order; it has as many as nodes. -/
def walk (t : Tree) : List Cursor :=
  walkFrom t.size (top t)

end Cursor

end ResultLint.Source
