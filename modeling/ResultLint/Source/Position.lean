import ResultLint.Span

/-!
Lines and columns. Lines end at line feeds only, columns count bytes, and both begin at one.
-/
namespace ResultLint.Source

/-- Moves a line and column over the first bytes of a text. -/
def advance (bytes : Nat) (line column : Nat) : List Char → Nat × Nat
  | [] => (line, column)
  | c :: cs =>
    if bytes = 0 then (line, column)
    else if c = '\n' then advance (bytes - c.utf8Size) (line + 1) 1 cs
    else advance (bytes - c.utf8Size) line (column + c.utf8Size) cs

/-- The span of a range of bytes. -/
def spanOf (source : List Char) (start stop : Nat) : Span :=
  let (line, column) := advance start 1 1 source
  ⟨start, stop, line, column⟩

end ResultLint.Source
