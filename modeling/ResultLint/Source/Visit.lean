import ResultLint.Source.File

/-!
Callbacks over the functions of a source, one for each category.
-/
namespace ResultLint.Source

/-- What to do at a function of each category, with a state passed along. -/
structure Visitor (σ : Type) where
  declaration : FunctionNode → σ → σ
  expression : FunctionNode → σ → σ
  arrow : FunctionNode → σ → σ
  method : FunctionNode → σ → σ

namespace Visitor

/-- A visitor that does the same at every function. -/
def uniform {σ : Type} (f : FunctionNode → σ → σ) : Visitor σ := ⟨f, f, f, f⟩

/-- Calls the callback of the function's category. -/
def visit {σ : Type} (v : Visitor σ) (node : FunctionNode) (state : σ) : σ :=
  match node.form with
  | .declaration _ => v.declaration node state
  | .expression _ => v.expression node state
  | .arrow _ => v.arrow node state
  | .method _ _ => v.method node state

/-- Visits functions in order. -/
def visitAll {σ : Type} (v : Visitor σ) (nodes : List FunctionNode) (state : σ) : σ :=
  nodes.foldl (fun s node => v.visit node s) state

end Visitor

end ResultLint.Source
