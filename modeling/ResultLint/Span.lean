/-!
The place of a piece of source text: a half-open range of bytes, and the line and column at
which it starts, both counted from one and the column in bytes.
-/
namespace ResultLint

structure Span where
  start : Nat
  stop : Nat
  line : Nat
  column : Nat
  deriving DecidableEq, Repr, Inhabited

namespace Span

/-- A range whose ends are out of order covers nothing. -/
def length (s : Span) : Nat :=
  s.stop - s.start

def isEmpty (s : Span) : Bool :=
  s.length == 0

end Span

end ResultLint
