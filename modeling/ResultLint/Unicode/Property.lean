import ResultLint.Unicode.CharSet
import ResultLint.Unicode.Binary
import ResultLint.Unicode.CaseGroup
import ResultLint.Unicode.Category
import ResultLint.Unicode.Script
import ResultLint.Text.Search

/-!
Character properties by name. Names are compared without case, blanks, underscores and
hyphens, and an `is` before them is ignored.
-/
namespace ResultLint.Unicode.Property

open Text

/-- The ranges that the lines of a table write in hexadecimal. -/
def rangesOf (lines : List String) : CharSet :=
  ⟨(lines.flatMap fun line => splitOn ' ' line.toList).map fun word =>
    match cut? ['-'] word with
    | some (first, last) => (CharSet.ofHex first, CharSet.ofHex last)
    | none => (CharSet.ofHex word, CharSet.ofHex word)⟩

def lookup? (table : List (List String × List String)) (name : String) : Option CharSet :=
  (table.find? fun row => row.1.contains name).map fun row => rangesOf row.2

/-- What no row of a table holds. -/
def outside (table : List (List String × List String)) : CharSet :=
  (table.foldl (fun acc row => acc.union (rangesOf row.2)) CharSet.empty).complement

/-- The spelling under which a name is looked up. -/
def fold (name : List Char) : String :=
  let plain := (name.filter fun c => c != ' ' && c != '_' && c != '-').map Char.toLower
  match plain with
  | 'i' :: 's' :: rest =>
    if rest = ['c'] ∨ rest = [] then String.ofList plain else String.ofList rest
  | _ => String.ofList plain

/-- Categories that stand for several others. -/
def groups : List (List String × List String) := [
  (["l", "letter"], ["lu", "ll", "lt", "lm", "lo"]),
  (["lc", "casedletter"], ["lu", "ll", "lt"]),
  (["m", "mark", "combiningmark"], ["mn", "mc", "me"]),
  (["n", "number"], ["nd", "nl", "no"]),
  (["p", "punctuation", "punct"], ["pc", "pd", "ps", "pe", "pi", "pf", "po"]),
  (["s", "symbol"], ["sm", "sc", "sk", "so"]),
  (["z", "separator"], ["zs", "zl", "zp"])]

def union (sets : List CharSet) : CharSet :=
  sets.foldl CharSet.union CharSet.empty

/-- A general category, a group of them, or one of the three sets named beside them. -/
def category? (name : String) : Option CharSet :=
  match name with
  | "any" => some .any
  | "ascii" => some (.range 0 0x7F)
  | "assigned" => some (outside categories).complement
  | "cn" | "unassigned" => some (outside categories)
  | "c" | "other" =>
    some ((union (["cc", "cf", "cs", "co"].filterMap (lookup? categories))).union
      (outside categories))
  | _ =>
    match groups.find? fun g => g.1.contains name with
    | some g => some (union (g.2.filterMap (lookup? categories)))
    | none => lookup? categories name

def script? (name : String) : Option CharSet :=
  match name with
  | "zzzz" | "unknown" => some (outside scripts)
  | _ => lookup? scripts name

/-- A name alone: a yes-or-no property, a category or a script. Three short names mean
categories although properties share them. -/
def named? (name : List Char) : Option CharSet :=
  let key := fold name
  let property := if key = "cf" ∨ key = "sc" ∨ key = "lc" then none else lookup? binaries key
  (property <|> category? key) <|> script? key

/-- A property and its value. -/
def valued? (name value : List Char) : Option CharSet :=
  match fold name with
  | "gc" | "generalcategory" => category? (fold value)
  | "sc" | "script" | "scx" | "scriptextensions" => script? (fold value)
  | _ => none

/-- The decimal digits. -/
def digits : CharSet :=
  ((lookup? categories "nd")).getD .empty

/-- Letters, marks, digits, connectors and the two join controls. -/
def wordChars : CharSet :=
  union ((lookup? binaries "alphabetic").toList ++
    ["mn", "mc", "me", "nd", "pc"].filterMap (lookup? categories) ++
    (lookup? binaries "joincontrol").toList)

/-- The groups of characters that differ in case only. -/
def caseFamilies : List (List Nat) :=
  (caseGroups.flatMap fun line => splitOn ' ' line.toList).map fun group =>
    (splitOn ',' group).map CharSet.ofHex

/-- A set with every character that differs from one of its own in case only. -/
def closeUnderCase (s : CharSet) : CharSet :=
  caseFamilies.foldl
    (fun acc family =>
      if family.any fun n => s.contains (Char.ofNat n) then
        acc.union ⟨family.map fun n => (n, n)⟩
      else acc)
    s

end ResultLint.Unicode.Property
