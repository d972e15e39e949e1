import ResultLint.Text.Blank
import ResultLint.Text.Bytes

/-!
What may stand between two tokens: white space and comments. A line comment ends before the
line break, a block comment at the first closing mark; one that is never closed is no comment.
-/
namespace ResultLint.Source

/-- Characters between tokens that carry no meaning: white space and four invisible ones. -/
def isSpacing (c : Char) : Bool :=
  let n := c.toNat
  Text.isBlank c || n == 0xFEFF || n == 0x2060 || n == 0x200B

/-- What ends a line comment. -/
def endsLineComment (c : Char) : Bool :=
  c == '\n' || c == '\r' || c.toNat == 0x2028 || c.toNat == 0x2029

/-- What was passed before a token. -/
structure Trivia where
  /-- The text from the token on, and its position. -/
  rest : List Char
  position : Nat
  /-- Ranges of the comments, the last one first. -/
  comments : List (Nat × Nat)
  /-- Whether a line ends outside the comments. -/
  newline : Bool
  /-- Where that line ends, comments on it included; without a line end, where the last comment
  ends. -/
  lineStop : Nat
  deriving Repr

namespace Trivia

/-- What is being passed: white space, which is `plain` as long as it is ASCII, or a comment
that began at a position. -/
inductive Mode where
  | spacing (plain : Bool)
  | line (start : Nat)
  | block (start : Nat)

/-- Whether a block comment is closed somewhere in a text. -/
def closes : List Char → Bool
  | [] => false
  | '*' :: '/' :: _ => true
  | _ :: cs => closes cs

/-- Extends what was passed by a comment. -/
def addComment (t : Trivia) (start stop : Nat) : Trivia :=
  { t with comments := (start, stop) :: t.comments
           lineStop := if t.newline then t.lineStop else stop }

/-- Passes white space and comments; `t` is what was passed so far, its rest not kept up. -/
def pass (mode : Mode) (t : Trivia) : List Char → Trivia
  | [] =>
    match mode with
    | .line start => { t.addComment start t.position with rest := [] }
    | _ => { t with rest := [] }
  | '*' :: '/' :: cs =>
    match mode with
    | .spacing _ => { t with rest := '*' :: '/' :: cs }
    | .line start => pass (.line start) { t with position := t.position + 2 } cs
    | .block start =>
      pass (.spacing true) ({ t with position := t.position + 2 }.addComment start (t.position + 2))
        cs
  | '/' :: '/' :: cs =>
    match mode with
    | .spacing _ => pass (.line t.position) { t with position := t.position + 2 } cs
    | mode => pass mode { t with position := t.position + 1 } ('/' :: cs)
  | '/' :: '*' :: cs =>
    match mode with
    | .spacing _ =>
      if closes cs then pass (.block t.position) { t with position := t.position + 2 } cs
      else { t with rest := '/' :: '*' :: cs }
    | mode => pass mode { t with position := t.position + 1 } ('*' :: cs)
  | c :: cs =>
    let onward := { t with position := t.position + c.utf8Size }
    match mode with
    | .spacing plain =>
      if isSpacing c then
        let plain := plain && c.toNat < 0x80
        pass (.spacing plain) { onward with newline := t.newline || (plain && c == '\n') } cs
      else { t with rest := c :: cs }
    | .line start =>
      if endsLineComment c then
        let t := t.addComment start t.position
        pass (.spacing (c.toNat < 0x80))
          { t with position := t.position + c.utf8Size, newline := t.newline || c == '\n' } cs
      else pass (.line start) onward cs
    | .block start => pass (.block start) onward cs

/-- Passes what stands before the next token of a text that begins at a position. -/
def skip (position : Nat) (cs : List Char) : Trivia :=
  pass (.spacing true) ⟨cs, position, [], false, position⟩ cs

end Trivia

end ResultLint.Source
