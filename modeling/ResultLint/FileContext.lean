import ResultLint.Path
import ResultLint.Span
import ResultLint.Text.Bytes

/-!
What a rule knows about the file it looks at: where it is, its text, and its path as seen from
the project root.
-/
namespace ResultLint

structure FileContext where
  path : Path
  content : List Char
  relativePath : Path
  deriving Repr

namespace FileContext

/-- A path outside the root keeps its full spelling. -/
def ofFile (path : Path) (content : List Char) (root : Path) : FileContext :=
  ⟨path, content, (path.stripBase? root).getD path⟩

/-- The source text of a span; empty if the span does not cut the text between characters. -/
def text (ctx : FileContext) (span : Span) : List Char :=
  (Text.slice? ctx.content span.start span.stop).getD []

end FileContext

end ResultLint
