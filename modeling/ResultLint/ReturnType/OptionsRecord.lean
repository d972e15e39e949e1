import ResultLint.Json.Decode
import ResultLint.ReturnType.Options

/-!
Options as a record: reading them from a value, and the value they are written as.
-/
namespace ResultLint.ReturnType.Options

open Json

/-- A list of texts, or nothing. -/
def entry : Json → Decoded (Option (List String)) :=
  nullable (list text)

/-- Sets one list of the options by its name. -/
def readField (options : Options) (field : String × Json) : Decoded Options := do
  match field.1 with
  | "allowedReturnTypes" => return { options with allowedReturnTypes := ← entry field.2 }
  | "exemptFunctions" => return { options with exemptFunctions := ← entry field.2 }
  | "exemptPatterns" => return { options with exemptPatterns := ← entry field.2 }
  | name => .error (.unknownField name keys)

/-- Reads options; a name that is none of theirs is refused. -/
def ofJson : Json → Decoded Options
  | .object fields => fields.foldlM readField Options.none
  | .array items => do
    let options ← (keys.zip items).foldlM readField Options.none
    checkLength "ResultReturnTypeOptions" keys keys items
    return options
  | got => .error (.wrongType got "struct ResultReturnTypeOptions")

/-- The lists that are present. -/
def toJson (options : Options) : Json :=
  .object (options.entries.filterMap fun (name, value) =>
    value.map fun items => (name, .array (items.map .string)))

end ResultLint.ReturnType.Options
