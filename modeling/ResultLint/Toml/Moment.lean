import ResultLint.Text.Digit

/-!
Dates and times, and their normal form: `T` between date and time, `Z` or a signed offset in
hours and minutes, and no zeros at the end of a second's fraction.
-/
namespace ResultLint.Toml.Moment

open Text (digit? ofDigits padded)

/-- A number of exactly `count` digits within bounds. -/
def field (count low high : Nat) (s : List Char) : Option (Nat × List Char) := do
  let ds ← (s.take count).mapM (digit? 10)
  let n := ofDigits 10 ds
  if ds.length = count ∧ low ≤ n ∧ n ≤ high then some (n, s.drop count) else none

def expect (c : Char) : List Char → Option (List Char)
  | d :: rest => if d = c then some rest else none
  | [] => none

def isLeap (year : Nat) : Bool :=
  year % 4 == 0 && (year % 100 != 0 || year % 400 == 0)

def daysIn (year month : Nat) : Nat :=
  if month = 2 then (if isLeap year then 29 else 28)
  else if month = 4 ∨ month = 6 ∨ month = 9 ∨ month = 11 then 30
  else 31

def date (s : List Char) : Option (String × List Char) := do
  let (year, s) ← field 4 0 9999 s
  let s ← expect '-' s
  let (month, s) ← field 2 1 12 s
  let s ← expect '-' s
  let (day, s) ← field 2 1 31 s
  if day ≤ daysIn year month then
    return (padded 4 year ++ "-" ++ padded 2 month ++ "-" ++ padded 2 day, s)
  else none

/-- A fraction of a second, to nine digits and without zeros at its end. -/
def fraction (s : List Char) : String × List Char :=
  match s with
  | '.' :: rest =>
    let ds := rest.takeWhile fun c => (digit? 10 c).isSome
    if ds.isEmpty then ("", s)
    else
      let kept := ((ds.take 9).reverse.dropWhile (· == '0')).reverse
      (if kept.isEmpty then "" else "." ++ String.ofList kept, rest.drop ds.length)
  | _ => ("", s)

/-- A time of day; a leap second has the number 60. -/
def time (s : List Char) : Option (String × List Char) := do
  let (hour, s) ← field 2 0 23 s
  let s ← expect ':' s
  let (minute, s) ← field 2 0 59 s
  let s ← expect ':' s
  let (second, s) ← field 2 0 60 s
  let (part, s) := fraction s
  return (padded 2 hour ++ ":" ++ padded 2 minute ++ ":" ++ padded 2 second ++ part, s)

/-- The offset behind a date and time. One of no minutes is not negative. -/
def offset : List Char → Option (String × List Char)
  | c :: rest =>
    if c = 'Z' ∨ c = 'z' then some ("Z", rest)
    else if c = '+' ∨ c = '-' then do
      let (hour, rest) ← field 2 0 23 rest
      let rest ← expect ':' rest
      let (minute, rest) ← field 2 0 59 rest
      let mark := if c = '-' ∧ 0 < hour + minute then "-" else "+"
      return (mark ++ padded 2 hour ++ ":" ++ padded 2 minute, rest)
    else none
  | [] => none

/-- A time behind a date, with an offset if there is one. -/
def timeBehindDate : List Char → Option (String × List Char)
  | c :: rest =>
    if c = 'T' ∨ c = 't' ∨ c = ' ' then do
      let (t, rest) ← time rest
      match offset rest with
      | some (o, rest) => return ("T" ++ t ++ o, rest)
      | none => return ("T" ++ t, rest)
    else none
  | [] => none

/-- A date, a date and time, or a time. -/
def read (s : List Char) : Option (String × List Char) :=
  match date s with
  | some (d, rest) =>
    match timeBehindDate rest with
    | some (t, rest) => some (d ++ t, rest)
    | none => some (d, rest)
  | none => time s

end ResultLint.Toml.Moment
