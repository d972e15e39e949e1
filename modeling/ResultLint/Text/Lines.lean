/-!
The lines of a text. A line ends at a line feed, and a carriage return directly before that
line feed belongs to the line end. A text that ends with a line end has no further empty line.
-/
namespace ResultLint.Text

def lines : List Char → List (List Char)
  | [] => []
  | '\n' :: cs => [] :: lines cs
  | '\r' :: '\n' :: cs => [] :: lines cs
  | c :: cs =>
    match lines cs with
    | [] => [[c]]
    | l :: ls => (c :: l) :: ls

/-- The line with a number counted from one, if the text has it. -/
def line? (s : List Char) (number : Nat) : Option (List Char) :=
  match number with
  | 0 => none
  | n + 1 => (lines s)[n]?

end ResultLint.Text
