/-!
Floating point numbers of 64 bits: the nearest one to a decimal, and the decimal with the fewest
digits that reads back as a given one. All is done in exact arithmetic on natural numbers.
-/
namespace ResultLint

/-- A number is a mantissa below `2 ^ 53` times a power of two, or one of the special values. -/
inductive Binary64 where
  | nan
  | infinity (negative : Bool)
  | finite (negative : Bool) (mantissa : Nat) (exponent : Int)
  deriving DecidableEq, Repr

namespace Binary64

/-- A power of two. -/
def twoTo (n : Nat) : Nat := Nat.pow 2 n

/-- A power of ten. -/
def tenTo (n : Nat) : Nat := Nat.pow 10 n

/-- A quotient rounded to the nearest whole number, a half to the even one. -/
def roundDiv (num den : Nat) : Nat :=
  let q := num / den
  let r := 2 * (num % den)
  if r < den then q else if den < r then q + 1 else if q % 2 = 0 then q else q + 1

/-- The least exponent of two. -/
def leastExponent : Int := -1074

/-- The exponent at which a quotient has a mantissa of 53 bits, or the least one. -/
def exponentFor (num den : Nat) : Int :=
  let guess : Int := (num.log2 : Int) - den.log2 - 52
  let fits (q : Int) : Bool :=
    if 0 ≤ q then num < twoTo 53 * (den * twoTo q.toNat)
    else num * twoTo (-q).toNat < twoTo 53 * den
  let q := if fits (guess - 1) then guess - 1 else if fits guess then guess else guess + 1
  max q leastExponent

/-- The number nearest to a quotient of natural numbers. -/
def ofRatio (negative : Bool) (num den : Nat) : Binary64 :=
  if num = 0 then .finite negative 0 leastExponent
  else
    let q := exponentFor num den
    let m := if 0 ≤ q then roundDiv num (den * twoTo q.toNat)
      else roundDiv (num * twoTo (-q).toNat) den
    let (m, q) := if m = twoTo 53 then (twoTo 52, q + 1) else (m, q)
    if q > 971 then .infinity negative else .finite negative m q

/-- The number nearest to digits times a power of ten. -/
def ofDecimal (negative : Bool) (digits : Nat) (exponent : Int) : Binary64 :=
  if 0 ≤ exponent then
    if exponent > 400 && digits ≠ 0 then .infinity negative
    else if digits = 0 then ofRatio negative 0 1
    else ofRatio negative (digits * tenTo exponent.toNat) 1
  else if (-exponent).toNat > 1200 + digits.log2 then ofRatio negative 0 1
  else ofRatio negative digits (tenTo (-exponent).toNat)

/-- The number of decimal digits. -/
def digitCount (n : Nat) : Nat :=
  (Nat.toDigits 10 n).length

/-- The point nearest to `value / unit` on the coarsest decimal grid that has one in an interval
around it: its digits and the power of ten of the last one. The bounds `low` and `high` are over
the same unit and belong to the interval if `closed`. Grids are tried from the step `10 ^ power`
down. -/
def firstGrid (value low high unit : Nat) (closed : Bool) : Nat → Int → Nat × Int
  | 0, _ => (0, 0)
  | fuel + 1, power =>
    let (v, l, h, step) := if 0 ≤ power then (value, low, high, unit * tenTo power.toNat)
      else
        let k := tenTo (-power).toNat
        (value * k, low * k, high * k, unit)
    let n := v / step
    let inside (d : Nat) : Bool :=
      if closed then l ≤ d * step && d * step ≤ h else l < d * step && d * step < h
    let below := inside n
    let above := inside (n + 1)
    if below && above then
      let (down, up) := (v - n * step, (n + 1) * step - v)
      if down < up then (n, power) else if up < down then (n + 1, power)
      else if n % 2 = 0 then (n, power) else (n + 1, power)
    else if below then (n, power)
    else if above then (n + 1, power)
    else firstGrid value low high unit closed fuel (power - 1)

/-- Digits without zeros at the end, and the power of ten of the last one. -/
def trimZeros : Nat → Nat → Int → Nat × Int
  | 0, d, e => (d, e)
  | fuel + 1, d, e => if d ≠ 0 ∧ d % 10 = 0 then trimZeros fuel (d / 10) (e + 1) else (d, e)

/-- The shortest decimal that reads back as a positive number: its digits and the power of ten
of the last one. -/
def shortest (mantissa : Nat) (exponent : Int) : Nat × Int :=
  -- quarters of a unit in the last place, so that the neighbours' midpoints are whole
  let low := if mantissa = twoTo 52 ∧ leastExponent < exponent then 4 * mantissa - 1
    else 4 * mantissa - 2
  let e := exponent - 2
  let (scale, unit) := if 0 ≤ e then (twoTo e.toNat, 1) else (1, twoTo (-e).toNat)
  let value := 4 * mantissa * scale
  let top : Int := if unit ≤ value then digitCount (value / unit)
    else 1 - (digitCount (unit / value) : Int)
  let (d, p) := firstGrid value (low * scale) ((4 * mantissa + 2) * scale) unit
    (mantissa % 2 = 0) 20 top
  trimZeros 20 d p

/-- How a number is written: which powers of ten above the value are written without an
exponent. -/
structure Style where
  leastPositional : Int
  mostPositional : Int

/-- Without an exponent from `0.0001` to below `10 ^ 16`. -/
def Style.plain : Style := ⟨-3, 16⟩

/-- Without an exponent from `0.00001` to below `10 ^ 16`. -/
def Style.compact : Style := ⟨-4, 16⟩

/-- Never with an exponent. -/
def Style.positional : Style := ⟨-400, 400⟩

/-- The text of digits with a power of ten above them, and with a point in any case. -/
def pointed (digits : List Char) (above : Int) : List Char :=
  if above ≤ 0 then "0.".toList ++ List.replicate (-above).toNat '0' ++ digits
  else if digits.length ≤ above.toNat then
    digits ++ List.replicate (above.toNat - digits.length) '0' ++ ".0".toList
  else digits.take above.toNat ++ '.' :: digits.drop above.toNat

/-- The text of digits with an exponent. -/
def withExponent (digits : List Char) (above : Int) : List Char :=
  let mantissa := match digits with
    | d :: [] => [d]
    | d :: ds => d :: '.' :: ds
    | [] => []
  mantissa ++ 'e' :: (toString (above - 1)).toList

/-- The shortest text that reads back. -/
def text (style : Style) (x : Binary64) : String :=
  match x with
  | .nan => "NaN"
  | .infinity negative => if negative then "-inf" else "inf"
  | .finite negative m e =>
    let body :=
      if m = 0 then "0.0".toList
      else
        let (d, p) := shortest m e
        let digits := Nat.toDigits 10 d
        let above := p + digits.length
        if style.leastPositional ≤ above && above ≤ style.mostPositional then pointed digits above
        else withExponent digits above
    String.ofList (if negative then '-' :: body else body)

end Binary64

end ResultLint
