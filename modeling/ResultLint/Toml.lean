import ResultLint.Json

/-!
TOML values. A table keeps its entries in the order in which their keys first appear.
-/
namespace ResultLint

inductive Toml where
  | string (s : String)
  | integer (n : Int)
  | float (x : Binary64)
  | boolean (b : Bool)
  /-- A date, a time or both, in normal form. -/
  | moment (text : String)
  | array (items : List Toml)
  | table (entries : List (String × Toml))
  deriving Repr, Inhabited

namespace Toml

/-- The value of a key in a table's entries. -/
def entry? (entries : List (String × Toml)) (key : String) : Option Toml :=
  entries.lookup key

mutual

/-- The same data as JSON. A date or time is a text there. -/
def toJson : Toml → Json
  | .string s => .string s
  | .integer n => .integer n
  | .float x => .float x
  | .boolean b => .bool b
  | .moment text => .string text
  | .array items => .array (itemsToJson items)
  | .table entries => .object (entriesToJson entries)

def itemsToJson : List Toml → List Json
  | [] => []
  | v :: vs => v.toJson :: itemsToJson vs

def entriesToJson : List (String × Toml) → List (String × Json)
  | [] => []
  | (key, v) :: rest => (key, v.toJson) :: entriesToJson rest

end

end Toml

end ResultLint
