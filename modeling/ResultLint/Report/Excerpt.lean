import ResultLint.Text.Bytes
import ResultLint.Unicode.Width

/-!
Excerpts from a source: the lines of a marked piece of text with one line before and one behind
them. A piece within a line is underlined; one over several lines is drawn beside them.
-/
namespace ResultLint.Report

open Text Unicode

/-- A piece of a source, as a range of bytes, and what is written to it. -/
structure Mark where
  start : Nat
  stop : Nat
  label : String
  deriving DecidableEq, Repr

namespace Excerpt

/-- The stretches of a text between line ends, which they keep. A line feed, a carriage return,
and both in this order are line ends. -/
def stretches : List Char → List (List Char)
  | [] => []
  | '\r' :: '\n' :: cs => ['\r', '\n'] :: stretches cs
  | c :: cs =>
    if c = '\n' ∨ c = '\r' then [c] :: stretches cs
    else
      match stretches cs with
      | [] => [[c]]
      | s :: ss => (c :: s) :: ss

/-- How many stretches end at or before a byte. -/
def endedBy (byte : Nat) : List (List Char) → Nat
  | [] => 0
  | s :: ss => if byteLength s ≤ byte then 1 + endedBy (byte - byteLength s) ss else 0

/-- The first byte of the stretch with an index. -/
def startOf (index : Nat) (ss : List (List Char)) : Nat :=
  byteLength (ss.take index).flatten

/-- A line as it is shown, with its first byte and its length with the line end. -/
structure Line where
  number : Nat
  offset : Nat
  length : Nat
  text : List Char
  deriving DecidableEq, Repr

/-- The lines of a text and the lengths of their ends. Only line feeds end these lines, with or
without a carriage return before them. -/
def ended : List Char → List (List Char × Nat)
  | [] => []
  | '\n' :: cs => ([], 1) :: ended cs
  | '\r' :: '\n' :: cs => ([], 2) :: ended cs
  | c :: cs =>
    match ended cs with
    | [] => [([c], 0)]
    | (text, stop) :: more => (c :: text, stop) :: more

/-- Numbers lines from the one after `number` on. A last line that has no end but a carriage
return is not counted. -/
def numbered (number offset : Nat) : List (List Char × Nat) → List Line
  | [] => []
  | (text, stop) :: more =>
    let length := byteLength text + stop
    let counted := if stop = 0 ∧ text.getLast? = some '\r' then number else number + 1
    ⟨counted, offset, length, text⟩ :: numbered (number + 1) (offset + length) more

/-- The lines of a mark, with one more on either side. -/
def window (source : List Char) (mark : Mark) : List Line :=
  let ss := stretches source
  let first := endedBy mark.start ss - 1
  let last := endedBy (mark.stop - 1) ss + 1
  numbered first (startOf first ss) (ended ((ss.take (last + 1)).drop first).flatten)

/-- The line and the column of a mark's first byte, both counted from one. -/
def place (source : List Char) (mark : Mark) : Nat × Nat :=
  let ss := stretches source
  let index := endedBy mark.start ss
  (index + 1, mark.start - startOf index ss + 1)

/-- Tabs reach to the next multiple of this many columns. -/
def tabWidth : Nat := 4

/-- Each character of a line with its columns. A terminal's escape takes none up to the letter
that ends it. -/
def cells (column : Nat) (escaped : Bool) : List Char → List (Char × Nat)
  | [] => []
  | c :: cs =>
    if escaped then (c, 0) :: cells column (c != 'm') cs
    else if c = '\x1b' then (c, 0) :: cells column true cs
    else
      let width := if c = '\t' then tabWidth - column % tabWidth else Width.columns c
      (c, width) :: cells (column + width) false cs

def spaces (n : Nat) : String := String.ofList (List.replicate n ' ')

/-- The text of a line with spaces in place of its tabs. -/
def shown (text : List Char) : String :=
  String.ofList ((cells 0 false text).flatMap fun (c, width) =>
    if c = '\t' then List.replicate width ' ' else [c])

namespace Line

/-- The column before a byte of the source; whatever is behind the text counts as one column. -/
def columnOf (line : Line) (byte : Nat) : Nat :=
  let within := (takeBytes? (byte - line.offset) line.text).getD line.text
  let columns := (cells 0 false within).foldl (fun sum cell => sum + cell.2) 0
  if byteLength line.text < byte - line.offset then columns + 1 else columns

def stop (line : Line) : Nat := line.offset + line.length

/-- Whether a mark is all on this line. -/
def holds (line : Line) (mark : Mark) : Bool :=
  line.offset ≤ mark.start && mark.stop ≤ line.stop

def hasStart (line : Line) (mark : Mark) : Bool :=
  line.offset ≤ mark.start && mark.start < line.stop

def hasStop (line : Line) (mark : Mark) : Bool :=
  line.offset < mark.stop && mark.stop ≤ line.stop

/-- Whether a mark begins before this line and goes on behind it. -/
def isPassed (line : Line) (mark : Mark) : Bool :=
  mark.start < line.offset && line.stop < mark.stop

/-- What stands beside a line that has a part of a mark over several lines. -/
def arrow (line : Line) (mark : Mark) : String :=
  if line.hasStart mark then ",-> "
  else if line.hasStop mark then "|-> "
  else if line.isPassed mark then "|   "
  else "    "

end Line

/-- What stands before a row that is no line of the source. -/
def margin (width : Nat) : String := " " ++ spaces width ++ " : "

/-- A line with its number before it. -/
def numberedRow (width : Nat) (line : Line) (beside : String) : String :=
  let number := toString line.number
  " " ++ spaces (width - number.length) ++ number ++ " | " ++ beside ++ shown line.text

/-- The label of a mark that hangs on a row. -/
def hanging (label : String) : String := "\x60-- " ++ label

/-- The rows under a line that underline a mark on it; the label hangs on its middle. -/
def underlined (width : Nat) (line : Line) (mark : Mark) : List String :=
  let start := line.columnOf mark.start
  let stop := max (line.columnOf mark.stop) (start + 1)
  let middle := (start + stop) / 2
  let strokes (n : Nat) : String := String.ofList (List.replicate n '^')
  [margin width ++ spaces start ++ strokes (middle - start) ++ "|" ++ strokes (stop - middle - 1),
    margin width ++ spaces middle ++ hanging mark.label]

/-- The row under the line where a mark over several lines ends. -/
def closing (width : Nat) (mark : Mark) : String :=
  margin width ++ "\x60---- " ++ mark.label

/-- The rows of a line. -/
def rowsOf (width : Nat) (within : Bool) (mark : Mark) (line : Line) : List String :=
  if within then
    numberedRow width line "" :: if line.holds mark then underlined width line mark else []
  else
    numberedRow width line (line.arrow mark) ::
      if line.hasStop mark then [closing width mark] else []

end Excerpt

/-- The excerpt for a mark, in rows; the name of the source stands over it. -/
def excerpt (name : String) (source : List Char) (mark : Mark) : List String :=
  let lines := Excerpt.window source mark
  let width := ((lines.getLast?.map fun line => toString line.number).getD "0").length
  let (line, column) := Excerpt.place source mark
  let within := lines.any fun line => line.holds mark
  [Excerpt.spaces (width + 2) ++ ",-[" ++ name ++ ":" ++ toString line ++ ":" ++
    toString column ++ "]"] ++ lines.flatMap (Excerpt.rowsOf width within mark) ++
    [Excerpt.spaces (width + 2) ++ "\x60----"]

end ResultLint.Report
