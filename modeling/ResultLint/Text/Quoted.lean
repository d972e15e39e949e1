import ResultLint.Unicode.Property

/-!
Text in double quotes, readable on one line: what cannot be seen is written as an escape.
-/
namespace ResultLint.Text.Quoted

open Unicode

/-- Categories whose characters leave no mark of their own. -/
def unseenCategories : List String := ["cc", "cf", "cs", "co", "zl", "zp", "zs"]

/-- Characters that are not shown as themselves: those that leave no mark, those that attach to
the one before, and those that are not assigned. -/
def unseen : CharSet :=
  (Property.union (unseenCategories.filterMap (Property.lookup? categories) ++
    (Property.lookup? binaries "graphemeextend").toList)).union (Property.outside categories)

/-- The lower-case hexadecimal digits of a number. -/
def hex (n : Nat) : List Char := Nat.toDigits 16 n

/-- One character between the quotes. -/
def escape (c : Char) : List Char :=
  match c with
  | '"' => ['\\', '"']
  | '\\' => ['\\', '\\']
  | '\n' => ['\\', 'n']
  | '\r' => ['\\', 'r']
  | '\t' => ['\\', 't']
  | '\x00' => ['\\', '0']
  | c =>
    if 0x20 ≤ c.toNat && c.toNat < 0x7F then [c]
    else if unseen.contains c then "\\u\x7b".toList ++ hex c.toNat ++ ['\x7d']
    else [c]

def quote (s : List Char) : List Char :=
  '"' :: s.flatMap escape ++ ['"']

end ResultLint.Text.Quoted
