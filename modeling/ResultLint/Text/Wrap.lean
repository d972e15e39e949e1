import ResultLint.Text.LineBreak
import ResultLint.Unicode.Width

/-!
Wrapping a line of text to a number of columns. Words are put behind each other as long as they
fit; a word that is wider than a whole line is cut. Nothing is lost but the spaces at the ends of
lines.
-/
namespace ResultLint.Text.Wrap

open Unicode

/-- What stays together on a line, and the spaces behind it. -/
structure Word where
  chars : List Char
  spaces : Nat
  deriving DecidableEq, Repr

namespace Word

/-- A piece of text, its trailing spaces told apart. -/
def ofPiece (piece : List Char) : Word where
  chars := (piece.reverse.dropWhile (· == ' ')).reverse
  spaces := (piece.reverse.takeWhile (· == ' ')).length

def columns (w : Word) : Nat :=
  Width.ofText w.chars

/-- A word with the spaces behind it. -/
def spaced (w : Word) : List Char :=
  w.chars ++ List.replicate w.spaces ' '

end Word

/-- Cuts a text before every character whose mark is set; `piece` is what is collected. -/
def cutAt (piece : List Char) : List Char → List Bool → List (List Char)
  | [], _ => if piece.isEmpty then [] else [piece]
  | c :: cs, marks =>
    if marks.headD false then piece :: cutAt [c] cs marks.tail
    else cutAt (piece ++ [c]) cs marks.tail

/-- Whether each place has a hyphen, or one that is not shown, before it; `last` is the character
before the text. -/
def behindHyphen (last : Char) : List Char → List Bool
  | [] => []
  | c :: cs => (last = '-' || last = '\u00AD') :: behindHyphen c cs

/-- The pieces of a line between the places where it may be broken, those behind hyphens left
out. -/
def pieces (line : List Char) : List (List Char) :=
  cutAt [] line (List.zipWith (fun place hyphen => place && !hyphen) (LineBreak.places line)
    (behindHyphen ' ' line))

/-- Letters and numbers. -/
def alphanumeric : CharSet :=
  Property.union ((Property.lookup? binaries "alphabetic").toList ++
    ["nd", "nl", "no"].filterMap (Property.lookup? categories))

/-- The places of a word behind a hyphen that has letters or numbers on both sides; the two
characters before the text come first. -/
def hyphenated (a b : Char) : List Char → List Bool
  | [] => []
  | c :: cs =>
    (b = '-' && alphanumeric.contains a && alphanumeric.contains c) :: hyphenated b c cs

/-- Cuts a text into pieces of a number of columns; `piece` is what is collected, and `columns`
its width. -/
def cutWide (limit : Nat) (piece : List Char) (columns : Nat) : List Char → List (List Char)
  | [] => if piece.isEmpty then [] else [piece]
  | c :: cs =>
    if 0 < columns && limit < columns + Width.columns c then
      piece :: cutWide limit [c] (Width.columns c) cs
    else cutWide limit (piece ++ [c]) (columns + Width.columns c) cs

/-- The last of some pieces of a word has the spaces behind the word. -/
def ofPieces (spaces : Nat) : List (List Char) → List Word
  | [] => [⟨[], spaces⟩]
  | [piece] => [⟨piece, spaces⟩]
  | piece :: more => ⟨piece, 0⟩ :: ofPieces spaces more

/-- The parts of a word between its hyphens. -/
def splitHyphens (w : Word) : List Word :=
  ofPieces w.spaces (cutAt [] w.chars (hyphenated ' ' ' ' w.chars))

/-- A word, or the parts of one that does not fit on a line. -/
def splitWide (limit : Nat) (w : Word) : List Word :=
  if limit < w.columns then ofPieces w.spaces (cutWide limit [] 0 w.chars) else [w]

def words (limit : Nat) (line : List Char) : List Word :=
  (((pieces line).map Word.ofPiece).flatMap splitHyphens).flatMap (splitWide limit)

/-- Puts words on lines: one that does not fit behind the words before it opens a new line.
`row` is what is collected, and `columns` its width with the spaces at its end. -/
def rows (limit : Nat) (row : List Word) (columns : Nat) : List Word → List (List Word)
  | [] => [row]
  | w :: ws =>
    if limit < columns + w.columns && !row.isEmpty then
      row :: rows limit [w] (w.columns + w.spaces) ws
    else rows limit (row ++ [w]) (columns + w.columns + w.spaces) ws

/-- The text of a row, without the spaces at its end. -/
def rowText : List Word → List Char
  | [] => []
  | [w] => w.chars
  | w :: ws => w.spaced ++ rowText ws

/-- A line of text as lines of at most so many columns. -/
def wrap (limit : Nat) (line : List Char) : List (List Char) :=
  (rows limit [] 0 (words limit line)).map rowText

/-- Texts of several lines, each wrapped; the very first line has a margin of its own. -/
def wrapAll (limit : Nat) (first others : String) (s : List Char) : List String :=
  let lines := (splitOn '\n' s).flatMap (wrap limit)
  match lines with
  | [] => []
  | line :: more =>
    (first ++ String.ofList line) :: more.map fun line => others ++ String.ofList line

end ResultLint.Text.Wrap
