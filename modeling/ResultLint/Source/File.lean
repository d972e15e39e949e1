import ResultLint.Source.Grammar.Rules
import ResultLint.Source.Lowering

/-!
A source file reduced to its functions, and whether it follows the grammar. One that does not is
recovered: some tree is salvaged from it, and its functions are taken from that tree. Which tree
that is lies with the parser, so it is a parameter here.
-/
namespace ResultLint.Source

/-- The text and position behind a first line that names an interpreter. -/
def behindInterpreterLine (source : List Char) : List Char × Nat :=
  match source with
  | '#' :: '!' :: cs =>
    let line := cs.takeWhile (· != '\n')
    (cs.drop line.length, Text.byteLength line + 2)
  | _ => (source, 0)

/-- How deep the grammar is followed: enough for brackets around every character. -/
def depthLimit (source : List Char) : Nat :=
  40 * source.length + 400

/-- Where the reading of a source ends; none if it does not follow the grammar to its end. -/
def reading? (source : List Char) (dialect : Dialect) : Option Grammar.Place :=
  let (rest, position) := behindInterpreterLine source
  let start : Grammar.Place := ⟨rest, position, [], false, position, position, []⟩
  let whole : Grammar :=
    .node .other (.sequence [.rule .statements, .finish])
  Grammar.follow Rule.grammar (depthLimit source) ⟨dialect, true, true, true⟩ whole
    start.afterTrivia

/-- The tree of a source that follows the grammar. -/
def tree? (source : List Char) (dialect : Dialect) : Option Tree :=
  (reading? source dialect).bind fun p => p.trees.head?

end ResultLint.Source

namespace ResultLint

open Source

structure SourceFile where
  dialect : Dialect
  hasErrors : Bool
  functions : List FunctionNode
  deriving Repr

/-- What the parser salvages from a source that does not follow the grammar. Nothing is assumed of
the tree: neither its shape nor what its nodes cover. -/
class Recovery where
  tree (source : List Char) (dialect : Dialect) : Tree

/-- Nothing is salvaged, for where no other recovery is at hand. -/
instance (priority := low) Recovery.nothing : Recovery where
  tree _ _ := .node ⟨.other, true, none, 0, 0⟩ []

/-- The functions of a source, from its own tree or from the one that is salvaged. -/
def SourceFile.parse [Recovery] (source : List Char) (dialect : Dialect) : SourceFile :=
  match tree? source dialect with
  | some t => ⟨dialect, false, functionsOf source t⟩
  | none => ⟨dialect, true, functionsOf source (Recovery.tree source dialect)⟩

theorem SourceFile.parse_of_tree [Recovery] (source : List Char) (dialect : Dialect) (t : Tree)
    (read : tree? source dialect = some t) :
    parse source dialect = ⟨dialect, false, functionsOf source t⟩ := by
  rw [parse, read]

/-- A source without syntax errors is taken from its own tree, not from one that is salvaged. -/
theorem SourceFile.exists_tree [Recovery] (source : List Char) (dialect : Dialect)
    (intact : (parse source dialect).hasErrors = false) :
    ∃ t, tree? source dialect = some t ∧
      (parse source dialect).functions = functionsOf source t := by
  cases read : tree? source dialect with
  | some t => exact ⟨t, rfl, by rw [parse_of_tree source dialect t read]⟩
  | none =>
    rw [parse, read] at intact
    cases intact

end ResultLint
