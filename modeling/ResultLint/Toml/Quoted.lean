import ResultLint.Text.Digit
import ResultLint.Text.Search
import ResultLint.Text.Utf8
import ResultLint.Toml.Space

/-!
The four written forms of a text: in double quotes with escapes or in single quotes without,
and each of them on one line or, between three quotes, on several.
-/
namespace ResultLint.Toml.Quoted

/-- The character of exactly `count` hexadecimal digits. -/
def codePoint? (count : Nat) (s : List Char) : Option Char := do
  let digits ← (s.take count).mapM (Text.digit? 16)
  if digits.length = count then Text.ofCodePoint? (Text.ofDigits 16 digits) else none

/-- The character that stands for a letter behind a backslash. -/
def shortEscapes : List (Char × Char) :=
  [('b', '\x08'), ('t', '\t'), ('n', '\n'), ('f', '\x0c'), ('r', '\r'), ('"', '"'), ('\\', '\\')]

/-- The character of an escape, given the text behind its backslash. -/
def escape : List Char → Option (Char × List Char)
  | 'u' :: rest => (codePoint? 4 rest).map fun c => (c, rest.drop 4)
  | 'U' :: rest => (codePoint? 8 rest).map fun c => (c, rest.drop 8)
  | c :: rest => (shortEscapes.lookup c).map (·, rest)
  | [] => none

/-- One piece of a text: its characters, and what follows. A line end is always written as one
line feed, and a backslash at the end of a line takes all blanks and line ends behind it away.
-/
def piece (escapes severalLines : Bool) (s : List Char) : Option (List Char × List Char) :=
  match s with
  | [] => none
  | c :: rest =>
    if escapes && c == '\\' then
      match (if severalLines then lineFeed? (skipSpace rest) else none) with
      | some behind => some ([], skipBlankLines behind)
      | none => (escape rest).map fun (d, behind) => ([d], behind)
    else if isPrintable c then some ([c], rest)
    else if severalLines then (lineFeed? s).map (['\n'], ·)
    else none

/-- The rest of a text on one line, up to its quote. -/
def oneLine (quote : Char) (escapes : Bool) : Nat → List Char → Option (List Char × List Char)
  | 0, _ => none
  | fuel + 1, s =>
    match s with
    | [] => none
    | c :: rest =>
      if c = quote then some ([], rest)
      else do
        let (cs, behind) ← piece escapes false s
        let (more, after) ← oneLine quote escapes fuel behind
        return (cs ++ more, after)

/-- The rest of a text on several lines. Fewer than three quotes in a row belong to the text; of
a longer row the last three of at most five end it. -/
def severalLines (quote : Char) (escapes : Bool) : Nat → List Char → Option (List Char × List Char)
  | 0, _ => none
  | fuel + 1, s => do
    let row := (s.takeWhile (· == quote)).length
    if 3 ≤ row then
      let inside := min (row - 3) 2
      return (List.replicate inside quote, s.drop (inside + 3))
    else if 0 < row then
      let (more, after) ← severalLines quote escapes fuel (s.drop row)
      return (List.replicate row quote ++ more, after)
    else
      let (cs, behind) ← piece escapes true s
      let (more, after) ← severalLines quote escapes fuel behind
      return (cs ++ more, after)

/-- Whether a character opens a text, and whether escapes count in it. -/
def opener? : Char → Option Bool
  | '"' => some true
  | '\'' => some false
  | _ => none

/-- A text on one line, from its opening quote on. -/
def single (s : List Char) : Option (List Char × List Char) := do
  let quote ← s.head?
  oneLine quote (← opener? quote) s.length s.tail

/-- A text in any of its forms. A line end directly behind three quotes is left out. -/
def read (s : List Char) : Option (List Char × List Char) := do
  let quote ← s.head?
  let escapes ← opener? quote
  match Text.stripStart? (List.replicate 3 quote) s with
  | some rest => severalLines quote escapes (s.length + 1) ((lineFeed? rest).getD rest)
  | none => single s

end ResultLint.Toml.Quoted
