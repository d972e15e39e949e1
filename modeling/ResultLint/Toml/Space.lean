/-!
What may stand between the parts of a TOML document: blanks, comments and line ends. Control
characters other than the tab have no place in a document.
-/
namespace ResultLint.Toml

def isSpace (c : Char) : Bool :=
  c == ' ' || c == '\t'

/-- Whether a character may stand inside a comment or a text. -/
def isPrintable (c : Char) : Bool :=
  c == '\t' || (0x20 ≤ c.toNat && c.toNat != 0x7F)

def skipSpace (s : List Char) : List Char :=
  s.dropWhile isSpace

/-- A line feed, or a carriage return before one. -/
def lineFeed? : List Char → Option (List Char)
  | '\n' :: rest => some rest
  | '\r' :: '\n' :: rest => some rest
  | _ => none

/-- Drops blanks and line ends. -/
def skipBlankLines : List Char → List Char
  | [] => []
  | '\r' :: '\n' :: rest => skipBlankLines rest
  | c :: rest => if isSpace c || c == '\n' then skipBlankLines rest else c :: rest

/-- The text behind a comment, if there is one; its line end is left. -/
def skipComment (s : List Char) : List Char :=
  match s with
  | '#' :: rest => rest.dropWhile isPrintable
  | _ => s

/-- The end of a statement: blanks, perhaps a comment, and the end of the line or the text. -/
def lineEnd? (s : List Char) : Option (List Char) :=
  match skipComment (skipSpace s) with
  | [] => some []
  | rest => lineFeed? rest

/-- Drops blanks, and comments with their line ends, as often as `count` allows. -/
def skipLines : Nat → List Char → List Char
  | 0, s => s
  | count + 1, s =>
    match lineFeed? (skipComment (skipSpace s)) with
    | some rest => skipLines count rest
    | none => skipSpace s

/-- What may stand around the items of an array. -/
def skipAll (s : List Char) : List Char :=
  skipLines s.length s

end ResultLint.Toml
