import ResultLint.Json.Decode
import ResultLint.LintResult

/-!
Results as records: the value a result is written as, and reading one back. A severity that is
pinned is not written. Fields of other names are ignored.
-/
namespace ResultLint

open Json

namespace Severity

def toJson (s : Severity) : Json := .string s.name

def ofVariant (name : String) : Decoded Severity :=
  match ofName? name with
  | some s => .ok s
  | none => .error (.unknownVariant name (all.map Severity.name))

/-- A name, or an object with the name as its one key and nothing as its value. -/
def ofJson : Json → Decoded Severity
  | .string name => ofVariant name
  | .object [(name, value)] => do
    let s ← ofVariant name
    match value with
    | .null => return s
    | got => .error (.wrongType got "unit")
  | .object fields => .error (.wrongValue (.object fields) "map with a single key")
  | got => .error (.wrongType got "string or map")

end Severity

/-- A path that is written as a text. -/
def Path.ofJson : Json → Decoded Path
  | .string s => .ok (.ofString s)
  | got => .error (.wrongType got "path string")

namespace Location

def toJson (l : Location) : Json :=
  .object [
    ("file", .string l.file.toString), ("line", .integer l.line), ("column", .integer l.column),
    ("offset", .integer l.offset), ("length", .integer l.length)]

def ofJson : Json → Decoded Location :=
  record "Location" []
    [("file", checked Path.ofJson), ("line", checked natural), ("column", checked natural),
      ("offset", checked natural), ("length", checked natural)]
    fun fields => do
      return ⟨← demand fields "file" Path.ofJson, ← demand fields "line" natural,
        ← demand fields "column" natural, ← demand fields "offset" natural,
        ← demand fields "length" natural⟩

end Location

namespace Violation

def suggestionJson (message : String) : Json :=
  .object [("message", .string message)]

def suggestionOfJson : Json → Decoded String :=
  record "Suggestion" [] [("message", checked text)] fun fields => demand fields "message" text

def toJson (v : Violation) : Json :=
  .object ([
    ("code", .string v.code), ("rule", .string v.rule), ("severity", v.severity.toJson),
    ("location", v.location.toJson), ("message", .string v.message)] ++
    (v.messageId.map fun id => ("message_id", .string id)).toList ++
    [("suggestion", match v.suggestion with
      | some message => suggestionJson message
      | none => .null)])

def ofJson : Json → Decoded Violation :=
  record "Violation" ["message_id"]
    [("code", checked text), ("rule", checked text), ("severity", checked Severity.ofJson),
      ("location", checked Location.ofJson), ("message", checked text),
      ("message_id", checked (nullable text)), ("suggestion", checked (nullable suggestionOfJson))]
    fun fields => do
      return {
        code := ← demand fields "code" text
        rule := ← demand fields "rule" text
        severity := ← demand fields "severity" Severity.ofJson
        location := ← demand fields "location" Location.ofJson
        message := ← demand fields "message" text
        messageId := ← nullable text ((field? fields "message_id").getD .null)
        suggestion := ← nullable suggestionOfJson ((field? fields "suggestion").getD .null)
        pinned := false }

end Violation

namespace LintResult

def toJson (r : LintResult) : Json :=
  .object [
    ("violations", .array (r.violations.map Violation.toJson)),
    ("files_checked", .integer r.filesChecked)]

def ofJson : Json → Decoded LintResult :=
  record "LintResult" []
    [("violations", checked (list Violation.ofJson)), ("files_checked", checked natural)]
    fun fields => do
      return ⟨← demand fields "violations" (list Violation.ofJson),
        ← demand fields "files_checked" natural⟩

end LintResult

end ResultLint
