import ResultLint.Text.Search

/-!
File paths written with slashes. Repeated slashes and inner `.` pieces carry no meaning, so
paths are compared by their components; what is left of a path keeps its own spelling.
-/
namespace ResultLint

structure Path where
  chars : List Char
  deriving DecidableEq, Repr, Inhabited

namespace Path

/-- What a path says between its slashes. -/
inductive Component where
  | root
  | current
  | parent
  | name (text : List Char)
  deriving DecidableEq, Repr

def ofString (text : String) : Path := ⟨text.toList⟩

def toString (p : Path) : String := String.ofList p.chars

/-- The pieces between slashes, each with the text after its slash. -/
def pieces : List Char → List (List Char × List Char)
  | [] => [([], [])]
  | c :: cs =>
    if c = '/' then ([], cs) :: pieces cs
    else
      match pieces cs with
      | [] => [([c], [])]
      | (piece, rest) :: more => (c :: piece, rest) :: more

/-- The component that a piece behind the first one stands for, if any. -/
def Component.ofPiece? (piece : List Char) : Option Component :=
  if piece = [] ∨ piece = ['.'] then none
  else if piece = ['.', '.'] then some .parent
  else some (.name piece)

/-- The components of the text behind a path's beginning, each with the text that follows it. -/
def innerComponents (s : List Char) : List (Component × List Char) :=
  (pieces s).filterMap fun (piece, rest) => (Component.ofPiece? piece).map (·, rest)

/-- A leading slash is the root, and a leading `.` counts although an inner one does not. -/
def scan : List Char → List (Component × List Char)
  | '/' :: rest => (.root, rest) :: innerComponents rest
  | ['.'] => [(.current, [])]
  | '.' :: '/' :: rest => (.current, '/' :: rest) :: innerComponents rest
  | s => innerComponents s

def components (p : Path) : List Component :=
  (scan p.chars).map Prod.fst

def isAbsolute (p : Path) : Bool :=
  p.chars.head? == some '/'

/-- Drops leading slashes and `.` pieces. -/
def skipIdle : List Char → List Char
  | [] => []
  | c :: cs =>
    if c = '/' then skipIdle cs
    else
      match c, cs with
      | '.', [] => []
      | '.', '/' :: rest => skipIdle rest
      | c, cs => c :: cs

/-- Drops trailing slashes and `.` pieces, written for the reversed text: the same rule as at
the front. -/
def skipIdleEnd (s : List Char) : List Char :=
  (skipIdle s.reverse).reverse

/-- A path without its trailing slashes and `.` pieces; its beginning stays. -/
def trimmedEnd (s : List Char) : List Char :=
  match s with
  | '/' :: rest => '/' :: skipIdleEnd rest
  | ['.'] => ['.']
  | '.' :: '/' :: rest => '.' :: skipIdleEnd ('/' :: rest)
  | s => skipIdleEnd s

/-- What is left of scanned components, and of the text after the last one taken, behind the
components of a base; none if they disagree. -/
def remainder? : List (Component × List Char) → List Component → Option (List Char) →
    Option (Option (List Char))
  | _, [], rest => some rest
  | [], _ :: _, _ => none
  | (c, rest) :: more, b :: bs, _ => if c = b then remainder? more bs (some rest) else none

/-- The part of a path below a base directory, in its own spelling without idle pieces at its
ends; none if the base is not above it. -/
def stripBase? (p base : Path) : Option Path :=
  (remainder? (scan p.chars) base.components none).map fun
    | none => ⟨trimmedEnd p.chars⟩
    | some rest => ⟨skipIdleEnd (skipIdle rest)⟩

/-- A path as seen from a base: absolute paths stand for themselves, others are appended with
one slash where none is there yet. -/
def join (base p : Path) : Path :=
  if p.isAbsolute then p
  else
    match base.chars.getLast? with
    | none => p
    | some last => if last = '/' then ⟨base.chars ++ p.chars⟩ else ⟨base.chars ++ '/' :: p.chars⟩

/-- The last component, if it is a name. -/
def fileName? (p : Path) : Option (List Char) :=
  match p.components.getLast? with
  | some (.name text) => some text
  | _ => none

/-- The text behind the last dot of the file name; a name that begins with its only dot has
none. -/
def extension? (p : Path) : Option (List Char) := do
  let name ← p.fileName?
  let behind := (name.reverse.takeWhile (· != '.')).reverse
  if behind.length + 1 < name.length then some behind else none

/-- The directory above a path: the path less its last component and the slashes before it. -/
def parent? (p : Path) : Option Path :=
  match p.components.getLast? with
  | none | some .root => none
  | some _ => some ⟨trimmedEnd ((trimmedEnd p.chars).reverse.dropWhile (· != '/')).reverse⟩

/-- A path and the directories above it, as often as `count` allows. -/
def ancestorsWithin : Nat → Path → List Path
  | 0, p => [p]
  | count + 1, p =>
    p :: match p.parent? with
      | some above => ancestorsWithin count above
      | none => []

/-- A path and all directories above it, the nearest first. -/
def ancestors (p : Path) : List Path :=
  ancestorsWithin p.components.length p

/-- The place of a kind of component in the order. -/
def Component.rank : Component → Nat
  | .root => 0
  | .current => 1
  | .parent => 2
  | .name _ => 3

/-- Components in order: the root, `.`, `..`, then names by their characters. -/
def Component.compare : Component → Component → Ordering
  | .name a, .name b => compareOfLessAndEq a b
  | a, b => Ord.compare a.rank b.rank

/-- Lists in lexicographic order, a proper beginning first. -/
def compareComponents : List Component → List Component → Ordering
  | [], [] => .eq
  | [], _ :: _ => .lt
  | _ :: _, [] => .gt
  | a :: as, b :: bs => (a.compare b).then (compareComponents as bs)

/-- Paths in the order of their components. -/
def compare (p q : Path) : Ordering :=
  compareComponents p.components q.components

end Path

end ResultLint
