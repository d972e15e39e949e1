import ResultLint.Json
import ResultLint.Text.Quoted

/-!
Reading records from JSON values. A record is an object whose fields are read in the order in
which they are written, or an array of its fields in the order of declaration; the first fault
is reported.
-/
namespace ResultLint.Json

/-- Why a value is not of the form that is wanted. -/
inductive Fault where
  | unknownField (name : String) (known : List String)
  | missingField (name : String)
  | unknownVariant (name : String) (known : List String)
  | wrongType (got : Json) (wanted : String)
  | wrongValue (got : Json) (wanted : String)
  | wrongLength (count : Nat) (wanted : String)

abbrev Decoded := Except Fault

/-- What a value is, in a message; `style` is how a fraction is written. -/
def describe (style : Binary64.Style) : Json → String
  | .null => "null"
  | .bool b => "boolean \x60" ++ (if b then "true" else "false") ++ "\x60"
  | .integer n => "integer \x60" ++ toString n ++ "\x60"
  | .float x => "floating point \x60" ++ x.text style ++ "\x60"
  | .string s => "string " ++ String.ofList (Text.Quoted.quote s.toList)
  | .array _ => "sequence"
  | .object _ => "map"

def ticked (name : String) : String := "\x60" ++ name ++ "\x60"

/-- The names that may stand in a place. -/
def choices : List String → String
  | [] => "there are no fields"
  | [a] => "expected " ++ ticked a
  | [a, b] => "expected " ++ ticked a ++ " or " ++ ticked b
  | names => "expected one of " ++ ", ".intercalate (names.map ticked)

def Fault.message (style : Binary64.Style) : Fault → String
  | .unknownField name known => "unknown field " ++ ticked name ++ ", " ++ choices known
  | .missingField name => "missing field " ++ ticked name
  | .unknownVariant name known => "unknown variant " ++ ticked name ++ ", " ++ choices known
  | .wrongType got wanted => "invalid type: " ++ describe style got ++ ", expected " ++ wanted
  | .wrongValue got wanted => "invalid value: " ++ describe style got ++ ", expected " ++ wanted
  | .wrongLength count wanted =>
    "invalid length " ++ toString count ++ ", expected " ++ wanted

def text : Json → Decoded String
  | .string s => .ok s
  | got => .error (.wrongType got "a string")

/-- A natural number. Its size is not bounded here: a parser that keeps integers in words of 64 bits
gives a greater number as a fraction. -/
def natural : Json → Decoded Nat
  | .integer n => if 0 ≤ n then .ok n.toNat else .error (.wrongValue (.integer n) "usize")
  | got => .error (.wrongType got "usize")

def list {α : Type} (item : Json → Decoded α) : Json → Decoded (List α)
  | .array items => items.mapM item
  | got => .error (.wrongType got "a sequence")

/-- A value that may be null. -/
def nullable {α : Type} (item : Json → Decoded α) : Json → Decoded (Option α)
  | .null => .ok none
  | value => (item value).map some

/-- How often fields occur does not matter to a decoder; the last one of a name counts. -/
def field? (fields : List (String × Json)) (name : String) : Option Json :=
  (fields.reverse.find? fun f => f.1 == name).map Prod.snd

/-- The one value of a field, which must be there. -/
def demand {α : Type} (fields : List (String × Json)) (name : String) (item : Json → Decoded α) :
    Decoded α :=
  match field? fields name with
  | some value => item value
  | none => .error (.missingField name)

/-- A reader that only checks. -/
def checked {α : Type} (item : Json → Decoded α) (value : Json) : Decoded Unit :=
  (item value).map fun _ => ()

/-- Tries every field that has a reader, in the order in which they are written. -/
def checkFields (readers : List (String × (Json → Decoded Unit)))
    (fields : List (String × Json)) : Decoded Unit :=
  fields.forM fun (name, value) =>
    match readers.lookup name with
    | some reader => reader value
    | none => .ok ()

/-- An array must reach up to the last name that is not `optional`, and may not go beyond the
names. -/
def checkLength (type : String) (names optional : List String) (items : List Json) :
    Decoded Unit :=
  match (names.zipIdx.drop items.length).find? fun (name, _) => !optional.contains name with
  | some (_, index) =>
    .error (.wrongLength index ("struct " ++ type ++ " with " ++ toString names.length ++
      (if names.length = 1 then " element" else " elements")))
  | none =>
    if items.length ≤ names.length then .ok ()
    else .error (.wrongLength items.length "fewer elements in array")

/-- A record: its fields are checked by `readers`, and `build` puts it together. An array gives
the fields in the order of the readers. -/
def record {α : Type} (type : String) (optional : List String)
    (readers : List (String × (Json → Decoded Unit)))
    (build : List (String × Json) → Decoded α) : Json → Decoded α
  | .object fields => do
    checkFields readers fields
    build fields
  | .array items => do
    let names := readers.map Prod.fst
    let fields := names.zip items
    checkFields readers fields
    checkLength type names optional items
    build fields
  | got => .error (.wrongType got ("struct " ++ type))

end ResultLint.Json
