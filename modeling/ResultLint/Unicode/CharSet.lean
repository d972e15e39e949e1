import ResultLint.Text.Digit

/-!
Sets of characters as ranges of code points. The operations keep the ranges in rising order
with gaps between them.
-/
namespace ResultLint.Unicode

/-- Ranges with both ends included. -/
structure CharSet where
  ranges : List (Nat × Nat)
  deriving DecidableEq, Repr

namespace CharSet

def greatest : Nat := 0x10FFFF

def empty : CharSet := ⟨[]⟩

def any : CharSet := ⟨[(0, greatest)]⟩

/-- White space: the property `White_Space`. -/
def blank : CharSet :=
  ⟨[(0x9, 0xD), (0x20, 0x20), (0x85, 0x85), (0xA0, 0xA0), (0x1680, 0x1680), (0x2000, 0x200A),
    (0x2028, 0x2029), (0x202F, 0x202F), (0x205F, 0x205F), (0x3000, 0x3000)]⟩

def range (first last : Nat) : CharSet := ⟨[(first, last)]⟩

def single (c : Char) : CharSet := range c.toNat c.toNat

def contains (s : CharSet) (c : Char) : Bool :=
  s.ranges.any fun r => r.1 ≤ c.toNat && c.toNat ≤ r.2

/-- Puts a range in its place, joined with all that it touches. -/
def insertRange (first last : Nat) : List (Nat × Nat) → List (Nat × Nat)
  | [] => [(first, last)]
  | (a, b) :: rest =>
    if last + 1 < a then (first, last) :: (a, b) :: rest
    else if b + 1 < first then (a, b) :: insertRange first last rest
    else insertRange (min first a) (max last b) rest

def union (s t : CharSet) : CharSet :=
  ⟨t.ranges.foldl (fun acc r => insertRange r.1 r.2 acc) s.ranges⟩

/-- The gaps of rising ranges, from `next` on. -/
def gaps (next : Nat) : List (Nat × Nat) → List (Nat × Nat)
  | [] => if next ≤ greatest then [(next, greatest)] else []
  | (a, b) :: rest => if next < a then (next, a - 1) :: gaps (b + 1) rest else gaps (b + 1) rest

def complement (s : CharSet) : CharSet := ⟨gaps 0 s.ranges⟩

def inter (s t : CharSet) : CharSet := (s.complement.union t.complement).complement

def difference (s t : CharSet) : CharSet := s.inter t.complement

def symmetricDifference (s t : CharSet) : CharSet := (s.difference t).union (t.difference s)

/-- Ranges given as code points, whatever their order. -/
def ofRanges (rs : List (Nat × Nat)) : CharSet := empty.union ⟨rs⟩

/-- The number that hexadecimal digits write; other characters count for nothing. -/
def ofHex (digits : List Char) : Nat :=
  digits.foldl (fun n c => match Text.digit? 16 c with
    | some d => 16 * n + d
    | none => n) 0

end CharSet

end ResultLint.Unicode
