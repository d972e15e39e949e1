import ResultLint.Ignore.Pattern
import ResultLint.Text.Blank
import ResultLint.Text.Search

/-!
Ignore files: one pattern a line, the last one that matches decides. A pattern with an
exclamation mark takes paths back in, one with a slash at its end is for directories only, and
one with a slash before its end is for paths from the file's own directory on. Lines that are
not well formed are left out.
-/
namespace ResultLint.Ignore

/-- What a rule says about a path. -/
inductive Verdict where
  | ignored
  | kept
  deriving DecidableEq, Repr

structure Rule where
  verdict : Verdict
  onlyDirectories : Bool
  regex : Regex
  deriving Repr

/-- A slash at the end, and a backslash before it, are no part of the pattern. -/
def splitSlash (line : List Char) : Bool × List Char :=
  match Text.stripEnd? ['/'] line with
  | some rest => (true, (Text.stripEnd? ['\\'] rest).getD rest)
  | none => (false, line)

/-- A pattern without a slash is looked for in all directories, and one that ends in `/**` is
not for the directory itself. -/
def completed (anchored : Bool) (pattern : List Char) : List Char :=
  let deep := ['*', '*', '/']
  let pattern :=
    if !anchored && !pattern.contains '/' && pattern != ['*', '*'] then deep ++ pattern
    else pattern
  if (Text.stripEnd? "/**".toList pattern).isSome then pattern ++ ['/', '*'] else pattern

/-- The rule of a line, if it has one. -/
def Rule.ofLine? (line : List Char) : Option Rule :=
  if line.head? = some '#' then none
  else
    let line := if (Text.stripEnd? ['\\', ' '] line).isSome then line else Text.trimEnd line
    if line.isEmpty then none
    else
      let (verdict, anchored, line) := match line with
        | '\\' :: '!' :: rest => (Verdict.ignored, false, '!' :: rest)
        | '\\' :: '#' :: rest => (.ignored, false, '#' :: rest)
        | '!' :: '/' :: rest => (.kept, true, rest)
        | '!' :: rest => (.kept, false, rest)
        | '/' :: rest => (.ignored, true, rest)
        | line => (.ignored, false, line)
      let (onlyDirectories, pattern) := splitSlash line
      (Pattern.parse (completed anchored pattern)).map fun tokens =>
        ⟨verdict, onlyDirectories, Pattern.regex tokens⟩

def Rule.applies (rule : Rule) (path : List Char) (isDirectory : Bool) : Bool :=
  (isDirectory || !rule.onlyDirectories) && rule.regex.isMatch (Pattern.bytes path)

/-- What the rules of a file say about a path from the file's directory on. -/
def verdict? (rules : List Rule) (path : List Char) (isDirectory : Bool) : Option Verdict :=
  (rules.reverse.find? fun rule => rule.applies path isDirectory).map Rule.verdict

/-- The lines of a file as bytes; a line end at the end makes no further line. -/
def byteLines : List UInt8 → List (List UInt8)
  | [] => []
  | b :: rest =>
    if b = 10 then [] :: byteLines rest
    else
      match byteLines rest with
      | [] => [[b]]
      | line :: more => (b :: line) :: more

/-- The lines up to the first that is no text. -/
def textLines : List (List UInt8) → List (List Char)
  | [] => []
  | line :: more =>
    match Text.decode? line with
    | some text => text :: textLines more
    | none => []

/-- A line without the carriage return of its end. -/
def withoutReturn (line : List Char) : List Char :=
  (Text.stripEnd? ['\r'] line).getD line

/-- Marks of the encoding before the first line are no part of it. -/
def withoutMark : List (List Char) → List (List Char)
  | [] => []
  | first :: more => first.dropWhile (· == '\uFEFF') :: more

def rulesOf (bytes : List UInt8) : List Rule :=
  (withoutMark (textLines (byteLines bytes))).filterMap fun line =>
    Rule.ofLine? (withoutReturn line)

end ResultLint.Ignore
