import ResultLint.Path

/-!
The two forms of the language, told apart by a file's extension.
-/
namespace ResultLint

inductive Dialect where
  | typescript
  | tsx
  deriving DecidableEq, Repr

namespace Dialect

def name : Dialect → String
  | .typescript => "typescript"
  | .tsx => "tsx"

def extensions : List (String × Dialect) :=
  [("ts", .typescript), ("tsx", .tsx), ("mts", .typescript), ("cts", .typescript)]

def ofPath? (path : Path) : Option Dialect :=
  path.extension?.bind fun ext => extensions.lookup (String.ofList ext)

end Dialect

end ResultLint
