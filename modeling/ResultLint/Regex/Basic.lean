import ResultLint.Unicode.CharSet
import ResultLint.Text.Blank

/-!
Regular expressions with assertions on a position, and whether one matches somewhere in a text.
Matching goes through partial derivatives: what is left to match after one character is a list
of expressions, and a text is read once from left to right.
-/
namespace ResultLint

/-- The characters on both sides of a position in a text. -/
structure Regex.Position where
  before : Option Char
  after : Option Char
  deriving DecidableEq, Repr

/-- What can be asked about a position. The word characters are part of the question. -/
inductive Regex.Assertion where
  | textStart
  | textEnd
  | lineStart
  | lineEnd
  | crlfLineStart
  | crlfLineEnd
  | boundary (word : Unicode.CharSet)
  | noBoundary (word : Unicode.CharSet)
  | wordStart (word : Unicode.CharSet)
  | wordEnd (word : Unicode.CharSet)
  | wordStartHalf (word : Unicode.CharSet)
  | wordEndHalf (word : Unicode.CharSet)
  deriving DecidableEq, Repr

inductive Regex where
  | empty
  | char (set : Unicode.CharSet)
  | assertion (a : Regex.Assertion)
  | seq (first second : Regex)
  | alt (left right : Regex)
  | repeated (r : Regex) (least : Nat) (most : Option Nat)
  deriving DecidableEq, Repr

namespace Regex

def Assertion.holds (p : Position) : Assertion → Bool
  | .textStart => p.before.isNone
  | .textEnd => p.after.isNone
  | .lineStart => p.before.isNone || p.before == some '\n'
  | .lineEnd => p.after.isNone || p.after == some '\n'
  | .crlfLineStart =>
    p.before.isNone || p.before == some '\n' || (p.before == some '\r' && p.after != some '\n')
  | .crlfLineEnd =>
    p.after.isNone || p.after == some '\r' || (p.after == some '\n' && p.before != some '\r')
  | .boundary w => p.before.any w.contains != p.after.any w.contains
  | .noBoundary w => p.before.any w.contains == p.after.any w.contains
  | .wordStart w => !p.before.any w.contains && p.after.any w.contains
  | .wordEnd w => p.before.any w.contains && !p.after.any w.contains
  | .wordStartHalf w => !p.before.any w.contains
  | .wordEndHalf w => !p.after.any w.contains

/-- Whether an expression matches the empty text at a position. -/
def nullable (p : Position) : Regex → Bool
  | .empty => true
  | .char _ => false
  | .assertion a => a.holds p
  | .seq a b => a.nullable p && b.nullable p
  | .alt a b => a.nullable p || b.nullable p
  | .repeated r least _ => least == 0 || r.nullable p

/-- One expression after another, the empty one left out. -/
def followedBy (a b : Regex) : Regex :=
  match a with
  | .empty => b
  | a => .seq a b

/-- What may be left to match after a character that stands behind `before`. -/
def step (before : Option Char) (c : Char) : Regex → List Regex
  | .empty => []
  | .char set => if set.contains c then [.empty] else []
  | .assertion _ => []
  | .seq a b =>
    (a.step before c).map (followedBy · b) ++
      if a.nullable ⟨before, some c⟩ then b.step before c else []
  | .alt a b => a.step before c ++ b.step before c
  | .repeated r least most =>
    if most = some 0 then []
    else
      let rest := most.map (· - 1)
      let again := if r.nullable ⟨before, some c⟩ then Regex.repeated r 0 rest
        else .repeated r (least - 1) rest
      (r.step before c).map (followedBy · again)

/-- Whether one of the states, or the expression begun at a later position, matches a piece of
the text that starts here. -/
def searchFrom (r : Regex) (before : Option Char) (states : List Regex) : List Char → Bool
  | [] => (r :: states).any (nullable ⟨before, none⟩)
  | c :: cs =>
    (r :: states).any (nullable ⟨before, some c⟩) ||
      searchFrom r (some c) (((r :: states).flatMap (step before c)).eraseDups) cs

/-- Whether an expression matches some piece of a text. -/
def isMatch (r : Regex) (text : List Char) : Bool :=
  searchFrom r none [] text

def seqAll : List Regex → Regex
  | [] => .empty
  | [r] => r
  | r :: rs => .seq r (seqAll rs)

/-- The expression that matches exactly a text. -/
def literal (text : List Char) : Regex :=
  seqAll (text.map fun c => .char (.single c))

end Regex

end ResultLint
