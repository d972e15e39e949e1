/-!
What a user can say about return types: types that pass, functions that are exempt, and patterns
for their names. A list that is given replaces the whole list beneath it.
-/
namespace ResultLint.ReturnType

/-- A list that is absent leaves the choice to what lies beneath. -/
structure Options where
  allowedReturnTypes : Option (List String)
  exemptFunctions : Option (List String)
  exemptPatterns : Option (List String)
  deriving DecidableEq, Repr

namespace Options

/-- Nothing is said. -/
def none : Options := ⟨.none, .none, .none⟩

def defaultAllowedReturnTypes : List String := ["void", "Promise<void>", "never"]

def defaultExemptFunctions : List String := ["main", "setup", "teardown"]

/-- Functions that are exempt whatever the options say. -/
def alwaysExempt : List String := ["isOk", "isErr", "constructor", "ok", "err"]

/-- The lists that hold where nothing is said. -/
def defaults : Options :=
  ⟨some defaultAllowedReturnTypes, some defaultExemptFunctions, some []⟩

/-- Lays other options over these, list by list. -/
def overriddenBy (base layer : Options) : Options :=
  ⟨layer.allowedReturnTypes <|> base.allowedReturnTypes,
    layer.exemptFunctions <|> base.exemptFunctions,
    layer.exemptPatterns <|> base.exemptPatterns⟩

/-- The names under which the lists are written, in the order of declaration. -/
def keys : List String := ["allowedReturnTypes", "exemptFunctions", "exemptPatterns"]

/-- The lists with their names, in the order of declaration. -/
def entries (o : Options) : List (String × Option (List String)) :=
  [("allowedReturnTypes", o.allowedReturnTypes), ("exemptFunctions", o.exemptFunctions),
    ("exemptPatterns", o.exemptPatterns)]

end Options

end ResultLint.ReturnType
