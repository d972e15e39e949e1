import ResultLint.Json

/-!
JSON as text on several lines: two spaces for each level, a space behind each colon, and empty
arrays and objects on one line.
-/
namespace ResultLint.Json

/-- One character of a text in quotes. -/
def escapeChar (c : Char) : List Char :=
  match c with
  | '"' => ['\\', '"']
  | '\\' => ['\\', '\\']
  | '\n' => ['\\', 'n']
  | '\r' => ['\\', 'r']
  | '\t' => ['\\', 't']
  | '\x08' => ['\\', 'b']
  | '\x0c' => ['\\', 'f']
  | c =>
    if c.toNat < 0x20 then
      let digits := Nat.toDigits 16 c.toNat
      "\\u".toList ++ List.replicate (4 - digits.length) '0' ++ digits
    else [c]

def quoted (s : String) : String :=
  String.ofList ('"' :: s.toList.flatMap escapeChar ++ ['"'])

/-- The beginning of a line at a level. -/
def newLine (level : Nat) : String :=
  String.ofList ('\n' :: List.replicate (2 * level) ' ')

/-- A number's text; JSON has no other ones, so they are null. -/
def floatText : Binary64 → String
  | x@(.finite _ _ _) => x.text .compact
  | _ => "null"

mutual

/-- The text of a value that stands at a level. -/
def pretty (level : Nat) : Json → String
  | .null => "null"
  | .bool b => if b then "true" else "false"
  | .integer n => toString n
  | .float x => floatText x
  | .string s => quoted s
  | .array [] => "[]"
  | .array (v :: vs) =>
    "[" ++ newLine (level + 1) ++ pretty (level + 1) v ++ prettyItems (level + 1) vs ++
      newLine level ++ "]"
  | .object [] => "\x7b\x7d"
  | .object ((key, v) :: rest) =>
    "\x7b" ++ newLine (level + 1) ++ quoted key ++ ": " ++ pretty (level + 1) v ++
      prettyFields (level + 1) rest ++ newLine level ++ "\x7d"

/-- Items behind the first one, each after a comma. -/
def prettyItems (level : Nat) : List Json → String
  | [] => ""
  | v :: vs => "," ++ newLine level ++ pretty level v ++ prettyItems level vs

/-- Fields behind the first one, each after a comma. -/
def prettyFields (level : Nat) : List (String × Json) → String
  | [] => ""
  | (key, v) :: rest =>
    "," ++ newLine level ++ quoted key ++ ": " ++ pretty level v ++ prettyFields level rest

end

end ResultLint.Json
