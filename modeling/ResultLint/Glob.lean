/-!
Patterns for whole paths. `?` stands for one character, `*` for any text, slashes included, `**`
for directories or, at the end, for everything, and brackets for one character among some.
-/
namespace ResultLint

namespace Glob

inductive Token where
  | char (c : Char)
  | anyChar
  | oneOf (ranges : List (Char × Char))
  | noneOf (ranges : List (Char × Char))
  | anyText
  | directories
  deriving DecidableEq, Repr

/-- What is wrong with a written pattern. -/
inductive Reason where
  | tooManyStars
  | partOfComponent
  | range
  deriving DecidableEq, Repr

def Reason.message : Reason → String
  | .tooManyStars => "wildcards are either regular \x60*\x60 or recursive \x60**\x60"
  | .partOfComponent => "recursive wildcards must form a single path component"
  | .range => "invalid range pattern"

/-- A reason, and the character before which it was found, counted from zero. -/
structure Error where
  position : Nat
  reason : Reason
  deriving DecidableEq, Repr

def Error.message (e : Error) : String :=
  "Pattern syntax error near position " ++ toString e.position ++ ": " ++ e.reason.message

/-- The ranges between brackets; a hyphen between two characters makes one of them. -/
def ranges : List Char → List (Char × Char)
  | a :: '-' :: b :: rest => (a, b) :: ranges rest
  | a :: rest => (a, a) :: ranges rest
  | [] => []

/-- Whether one of the ranges has a character; none has if its ends are out of order. -/
def covers (ranges : List (Char × Char)) (c : Char) : Bool :=
  ranges.any fun (first, last) => first ≤ c && c ≤ last

/-- The token of brackets and the number of characters from the opening one on. The first
character between brackets may be a closing one. -/
def bracket? (rest : List Char) : Option (Token × Nat) :=
  let (negated, body) := match rest with
    | '!' :: body => (true, body)
    | body => (false, body)
  match body with
  | [] => none
  | first :: more =>
    let inside := more.takeWhile (· != ']')
    if inside.length < more.length then
      let found := ranges (first :: inside)
      some (if negated then (.noneOf found, inside.length + 4)
        else (.oneOf found, inside.length + 3))
    else none

/-- The tokens of the pattern from a position on; `before` is the character there. -/
def scan : Nat → Nat → Option Char → List Char → Except Error (List Token)
  | 0, _, _, _ => .ok []
  | _, _, _, [] => .ok []
  | fuel + 1, position, before, c :: rest =>
    if c = '*' then
      let count := ((c :: rest).takeWhile (· == '*')).length
      let behind := (c :: rest).drop count
      if 2 < count then .error ⟨position + 2, .tooManyStars⟩
      else if count = 2 then
        if before.isSome && before != some '/' then .error ⟨position - 1, .partOfComponent⟩
        else
          match behind with
          | [] => .ok [.directories]
          | '/' :: more => do
            return .directories :: (← scan fuel (position + 3) (some '/') more)
          | _ => .error ⟨position + 2, .partOfComponent⟩
      else do
        return .anyText :: (← scan fuel (position + 1) (some c) behind)
    else if c = '[' then
      match bracket? rest with
      | some (token, length) => do
        return token :: (← scan fuel (position + length) (some ']') ((c :: rest).drop length))
      | none => .error ⟨position, .range⟩
    else do
      let token := if c = '?' then Token.anyChar else .char c
      return token :: (← scan fuel (position + 1) (some c) rest)

end Glob

structure Glob where
  tokens : List Glob.Token
  deriving DecidableEq, Repr

namespace Glob

def parse (pattern : List Char) : Except Error Glob := do
  return ⟨← scan pattern.length 0 none pattern⟩

/-- Whether a token stands for a character; the others stand for texts. -/
def Token.admits (token : Token) (c : Char) : Bool :=
  match token with
  | .char d => c == d
  | .anyChar => true
  | .oneOf ranges => covers ranges c
  | .noneOf ranges => !covers ranges c
  | .anyText | .directories => false

/-- The ends of a text, the whole of it first. -/
def tails : List Char → List (List Char)
  | [] => [[]]
  | c :: cs => (c :: cs) :: tails cs

/-- What stands behind each slash of a text. -/
def behindSlashes : List Char → List (List Char)
  | [] => []
  | c :: cs => if c = '/' then cs :: behindSlashes cs else behindSlashes cs

/-- Whether tokens stand for the whole of a text. -/
def matchTokens : List Token → List Char → Bool
  | [], s => s.isEmpty
  | .anyText :: rest, s => (tails s).any (matchTokens rest)
  | .directories :: rest, s =>
    rest.isEmpty || matchTokens rest s || (behindSlashes s).any (matchTokens rest)
  | token :: rest, s =>
    match s with
    | [] => false
    | c :: cs => token.admits c && matchTokens rest cs

def isMatch (glob : Glob) (text : List Char) : Bool :=
  matchTokens glob.tokens text

end Glob

end ResultLint
