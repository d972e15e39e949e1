import ResultLint.Preset
import ResultLint.ReturnType.OptionsRecord
import ResultLint.ReturnType.Rule

/-!
The list of rules and presets as it is shown to users and to tools.
-/
namespace ResultLint

/-- What there is to know about a rule without running it. -/
structure RuleInfo where
  code : String
  name : String
  description : String
  /-- The names of the rule's messages, with their templates. -/
  messages : List (String × String)
  /-- The JSON schema of the rule's options. -/
  optionsSchema : Json

namespace Catalog

/-- The namespace under which rules are published. -/
def nameSpace : String := "railway"

def listOfTexts : Json :=
  .object [("items", .object [("type", .string "string")]), ("type", .string "array")]

/-- The schema of the options on return types. -/
def returnTypeSchema : Json :=
  .object [
    ("additionalProperties", .bool false),
    ("properties", .object (ReturnType.Options.keys.map fun key => (key, listOfTexts))),
    ("type", .string "object")]

def returnTypeRule : RuleInfo where
  code := ReturnType.ruleCode
  name := ReturnType.ruleName
  description := ReturnType.ruleDescription
  messages := ReturnType.Fault.all.map fun f => (f.id, f.template)
  optionsSchema := returnTypeSchema

/-- Every rule there is. -/
def rules : List RuleInfo := [returnTypeRule]

end Catalog

/-- The name of a rule together with the namespace. -/
def RuleInfo.qualifiedName (rule : RuleInfo) : String :=
  Catalog.nameSpace ++ "/" ++ rule.name

namespace Catalog

def texts (items : List String) : Json := .array (items.map .string)

/-- The fields are in the order of their names. -/
def ruleJson (rule : RuleInfo) : Json :=
  .object [
    ("code", .string rule.code),
    ("description", .string rule.description),
    ("messages", .object ((rule.messages.mergeSort fun a b => decide (a.1 ≤ b.1)).map
      fun (id, template) => (id, .string template))),
    ("name", .string rule.name),
    ("optionsSchema", rule.optionsSchema),
    ("qualifiedId", .string rule.qualifiedName)]

def presetJson (preset : Preset) : Json :=
  .object [
    ("files", texts Preset.files), ("ignores", texts Preset.ignores),
    ("options", preset.options.toJson)]

/-- The whole list as one value. -/
def toJson : Json :=
  .object [
    ("namespace", .string nameSpace),
    ("presets", .object (Preset.all.map fun p => (p.name, presetJson p))),
    ("rules", .array (rules.map ruleJson))]

/-- A text with spaces behind it up to a width. -/
def padded (width : Nat) (s : String) : String :=
  s ++ String.ofList (List.replicate (width - s.length) ' ')

def row (code name description : String) : String :=
  padded 10 code ++ " " ++ padded 45 name ++ " " ++ description ++ "\n"

/-- What each preset does, in a line. -/
def presetLine : Preset → String
  | .recommended =>
    "  recommended  - void/Promise<void>/never allowed; " ++
      "test hooks, logging and mock/stub helpers exempt\n"
  | .strict => "  strict       - only void/never allowed; built-in exemptions only\n"

/-- The whole list as a table. -/
def toText : String :=
  "Available rules:\n\n" ++ row "Code" "Name" "Description" ++
    String.ofList (List.replicate 100 '-') ++ "\n" ++
    String.join (rules.map fun r => row r.code r.qualifiedName r.description) ++
    "\nPresets:\n" ++ String.join (Preset.all.map presetLine) ++
    "\nSelect a preset in railway-lint.toml or on the command line, e.g.:\n" ++
    "  railway-lint check --preset strict\n"

end Catalog

end ResultLint
