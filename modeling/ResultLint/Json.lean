import ResultLint.Number.Binary64

/-!
JSON values. An object keeps its fields in the order in which they are written.
-/
namespace ResultLint

inductive Json where
  | null
  | bool (b : Bool)
  | integer (n : Int)
  | float (x : Binary64)
  | string (s : String)
  | array (items : List Json)
  | object (fields : List (String × Json))
  deriving Repr, Inhabited

end ResultLint
