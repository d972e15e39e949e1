/-!
Finding one text inside another: a leading part taken off (`stripStart?`, `stripEnd?`), the
text before and after a first occurrence (`cut?`), and pieces between separators (`splitOn`).
-/
namespace ResultLint.Text

/-- What follows `mark` in a text that begins with it. -/
def stripStart? (mark s : List Char) : Option (List Char) :=
  mark.isPrefixOf? s

/-- What stands before `mark` in a text that ends with it. -/
def stripEnd? (mark s : List Char) : Option (List Char) :=
  (mark.reverse.isPrefixOf? s.reverse).map List.reverse

/-- What stands before and after the first occurrence of `mark`. -/
def cut? (mark : List Char) : List Char → Option (List Char × List Char)
  | [] => if mark.isEmpty then some ([], []) else none
  | c :: cs =>
    match stripStart? mark (c :: cs) with
    | some rest => some ([], rest)
    | none => (cut? mark cs).map fun parts => (c :: parts.1, parts.2)

/-- Whether `part` occurs in a text as consecutive characters. -/
def contains (part s : List Char) : Bool :=
  (cut? part s).isSome

/-- The pieces between occurrences of a separator; one piece more than occurrences. -/
def splitOn (separator : Char) : List Char → List (List Char)
  | [] => [[]]
  | c :: cs =>
    if c = separator then [] :: splitOn separator cs
    else
      match splitOn separator cs with
      | [] => [[c]]
      | p :: ps => (c :: p) :: ps

end ResultLint.Text
