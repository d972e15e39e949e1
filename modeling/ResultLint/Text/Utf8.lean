/-!
Texts as bytes in UTF-8 and back. Bytes that no text has are not decoded: overlong forms,
surrogates, and numbers beyond the last code point.
-/
namespace ResultLint.Text

/-- The character with a code point; none for a surrogate and beyond the last one. -/
def ofCodePoint? (n : Nat) : Option Char :=
  if n.isValidChar then some (Char.ofNat n) else none

/-- The six bits of a byte that continues a character. -/
def continuation? (b : UInt8) : Option Nat :=
  if b.toNat / 64 = 2 then some (b.toNat % 64) else none

/-- The character that bytes make, if it does not fit into fewer of them: it is `least` or more.
-/
def assemble? (least : Nat) (lead : Nat) (bytes : List UInt8) : Option Char := do
  let parts ← bytes.mapM continuation?
  let n := parts.foldl (fun n part => 64 * n + part) lead
  if least ≤ n then ofCodePoint? n else none

def decode? : List UInt8 → Option (List Char)
  | [] => some []
  | a :: rest =>
    if a.toNat < 0x80 then (decode? rest).map (Char.ofNat a.toNat :: ·)
    else if a.toNat / 32 = 6 then
      match rest with
      | b :: rest => do
        let c ← assemble? 0x80 (a.toNat % 32) [b]
        return c :: (← decode? rest)
      | _ => none
    else if a.toNat / 16 = 14 then
      match rest with
      | b :: c :: rest => do
        let c ← assemble? 0x800 (a.toNat % 16) [b, c]
        return c :: (← decode? rest)
      | _ => none
    else if a.toNat / 8 = 30 then
      match rest with
      | b :: c :: d :: rest => do
        let c ← assemble? 0x10000 (a.toNat % 8) [b, c, d]
        return c :: (← decode? rest)
      | _ => none
    else none

def encode (s : List Char) : List UInt8 :=
  s.flatMap String.utf8EncodeChar

end ResultLint.Text
