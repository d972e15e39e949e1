import ResultLint.Text.Digit
import ResultLint.Toml

/-!
Written numbers: whole numbers of 64 bits in four bases, and fractions. A single underscore may
stand between two digits.
-/
namespace ResultLint.Toml.Number

open Text (digit? ofDigits)

/-- Digits that follow a digit; an underscore must have a digit behind it. -/
def moreDigits (base : Nat) : List Char → Option (List Nat × List Char)
  | '_' :: c :: rest =>
    match digit? base c with
    | some d => (moreDigits base rest).map fun (ds, after) => (d :: ds, after)
    | none => none
  | ['_'] => none
  | c :: rest =>
    match digit? base c with
    | some d => (moreDigits base rest).map fun (ds, after) => (d :: ds, after)
    | none => some ([], c :: rest)
  | [] => some ([], [])

/-- One digit or more. -/
def digits (base : Nat) : List Char → Option (List Nat × List Char)
  | [] => none
  | c :: rest => do
    let d ← digit? base c
    let (ds, after) ← moreDigits base rest
    return (d :: ds, after)

/-- Decimal digits of a whole part: a zero stands alone. -/
def wholePart (s : List Char) : Option (List Nat × List Char) :=
  match s with
  | '0' :: rest => some ([0], rest)
  | _ => digits 10 s

/-- A sign, if there is one: whether it is a minus. -/
def sign : List Char → Bool × List Char
  | '-' :: rest => (true, rest)
  | '+' :: rest => (false, rest)
  | s => (false, s)

def signed (negative : Bool) (n : Nat) : Int :=
  if negative then -(n : Int) else n

/-- A whole number of 64 bits. -/
def integer? (n : Int) : Option Toml :=
  if -0x8000000000000000 ≤ n ∧ n < 0x8000000000000000 then some (.integer n) else none

/-- A fraction; one that is too large is refused, but a negative one is not. -/
def float? (x : Binary64) : Option Toml :=
  if x = .infinity false then none else some (.float x)

/-- The power of ten behind an `e`, if there is one. -/
def exponent : List Char → Option (Option Int × List Char)
  | c :: rest =>
    if c = 'e' ∨ c = 'E' then do
      let (negative, behind) := sign rest
      let (ds, after) ← digits 10 behind
      return (some (signed negative (ofDigits 10 ds)), after)
    else some (none, c :: rest)
  | [] => some (none, [])

/-- The digits behind a point, if there is one. -/
def fraction : List Char → Option (Option (List Nat) × List Char)
  | '.' :: rest => (digits 10 rest).map fun (ds, after) => (some ds, after)
  | s => some (none, s)

/-- The names of the values that are no decimals. -/
def special? (negative : Bool) : List Char → Option (Toml × List Char)
  | 'i' :: 'n' :: 'f' :: rest => some (.float (.infinity negative), rest)
  | 'n' :: 'a' :: 'n' :: rest => some (.float .nan, rest)
  | _ => none

def decimal (negative : Bool) (s : List Char) : Option (Toml × List Char) := do
  let (whole, s) ← wholePart s
  let (part, s) ← fraction s
  let (power, s) ← exponent s
  match part, power with
  | none, none => return (← integer? (signed negative (ofDigits 10 whole)), s)
  | part, power =>
    let places := part.getD []
    let x := Binary64.ofDecimal negative (ofDigits 10 (whole ++ places))
      (power.getD 0 - places.length)
    return (← float? x, s)

/-- A number from its sign on. The marks of other bases take no sign. -/
def read (s : List Char) : Option (Toml × List Char) :=
  let inBase (base : Nat) (rest : List Char) : Option (Toml × List Char) := do
    let (ds, after) ← digits base rest
    return (← integer? (ofDigits base ds), after)
  match s with
  | '0' :: 'x' :: rest => inBase 16 rest
  | '0' :: 'o' :: rest => inBase 8 rest
  | '0' :: 'b' :: rest => inBase 2 rest
  | _ =>
    let (negative, behind) := sign s
    match special? negative behind with
    | some found => some found
    | none => decimal negative behind

end ResultLint.Toml.Number
