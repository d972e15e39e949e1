/-!
Digits in a base up to sixteen, letters of either case among them, and the numbers they make.
-/
namespace ResultLint.Text

/-- The value of a digit, if the character is one in this base. -/
def digit? (base : Nat) (c : Char) : Option Nat :=
  let value? := if '0' ≤ c ∧ c ≤ '9' then some (c.toNat - '0'.toNat)
    else if 'a' ≤ c ∧ c ≤ 'f' then some (c.toNat - 'a'.toNat + 10)
    else if 'A' ≤ c ∧ c ≤ 'F' then some (c.toNat - 'A'.toNat + 10)
    else none
  value?.filter (· < base)

/-- The number with these digits, the first one counting most. -/
def ofDigits (base : Nat) (digits : List Nat) : Nat :=
  digits.foldl (fun n d => base * n + d) 0

/-- Decimal digits with zeros before them up to a width. -/
def padded (width n : Nat) : String :=
  let digits := Nat.toDigits 10 n
  String.ofList (List.replicate (width - digits.length) '0' ++ digits)

end ResultLint.Text
