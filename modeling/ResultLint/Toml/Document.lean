import ResultLint.Toml.Moment
import ResultLint.Toml.Number
import ResultLint.Toml.Quoted
import ResultLint.Toml.Table

/-!
Reading a document: values, pairs of a key and a value, headers, and the table that the sections
of a document make together.
-/
namespace ResultLint.Toml

/-- Nesting is limited, and so is the number of parts of a dotted key. -/
def depthLimit : Nat := 79

def isBareKeyChar (c : Char) : Bool :=
  c.isAlphanum || c == '_' || c == '-'

/-- One part of a key, bare or in quotes. -/
def keyPart (s : List Char) : Option (String × List Char) :=
  if (s.head?.bind Quoted.opener?).isSome then
    (Quoted.single s).map fun (cs, rest) => (String.ofList cs, rest)
  else
    let bare := s.takeWhile isBareKeyChar
    if bare.isEmpty then none else some (String.ofList bare, s.drop bare.length)

/-- The parts of a key with dots between them, each perhaps with blanks around it. -/
def keyParts : Nat → List Char → Option (List String × List Char)
  | 0, _ => none
  | fuel + 1, s => do
    let (part, rest) ← keyPart (skipSpace s)
    match skipSpace rest with
    | '.' :: more =>
      let (parts, after) ← keyParts fuel more
      return (part :: parts, after)
    | after => return ([part], after)

def key (s : List Char) : Option (KeyPath × List Char) := do
  let (parts, rest) ← keyParts depthLimit s
  return (⟨parts.dropLast, ← parts.getLast?⟩, rest)

/-- A key, an equals sign, and a value; the blanks behind the value are left. -/
def pair (value : List Char → Option (Toml × List Char)) (s : List Char) :
    Option ((KeyPath × Toml) × List Char) := do
  let (path, rest) ← key s
  let behind ← Moment.expect '=' rest
  let (v, after) ← value (skipSpace behind)
  return ((path, v), after)

/-- The rest of an array whose items are read by `value`; a comma may stand before the end. -/
def items (value : List Char → Option (Toml × List Char)) :
    Nat → List Char → Option (List Toml × List Char)
  | 0, _ => none
  | fuel + 1, s =>
    match skipAll s with
    | ']' :: rest => some ([], rest)
    | start => do
      let (v, behind) ← value start
      match skipAll behind with
      | ',' :: rest =>
        let (vs, after) ← items value fuel rest
        return (v :: vs, after)
      | ']' :: rest => return ([v], rest)
      | _ => none

/-- The rest of a table in braces that has a pair: no comma before the end, and all on one line.
-/
def pairs (value : List Char → Option (Toml × List Char)) :
    Nat → List Char → Option (List (KeyPath × Toml) × List Char)
  | 0, _ => none
  | fuel + 1, s => do
    let (p, behind) ← pair value s
    match skipSpace behind with
    | ',' :: rest =>
      let (ps, after) ← pairs value fuel rest
      return (p :: ps, after)
    | '\x7d' :: rest => return ([p], rest)
    | _ => none

/-- The rest of a table in braces. -/
def inlineTable (value : List Char → Option (Toml × List Char)) (s : List Char) :
    Option (Toml × List Char) :=
  match skipSpace s with
  | '\x7d' :: rest => some (.table [], rest)
  | _ => do
    let (ps, rest) ← pairs value s.length s
    let entries ← Entries.putAll? [] ps
    return (.table (entriesToValue entries), rest)

/-- A value that is neither an array nor a table. -/
def scalar (s : List Char) : Option (Toml × List Char) :=
  match s with
  | 't' :: 'r' :: 'u' :: 'e' :: rest => some (.boolean true, rest)
  | 'f' :: 'a' :: 'l' :: 's' :: 'e' :: rest => some (.boolean false, rest)
  | _ =>
    if (s.head?.bind Quoted.opener?).isSome then
      (Quoted.read s).map fun (cs, rest) => (.string (String.ofList cs), rest)
    else
      match Moment.read s with
      | some (text, rest) => some (.moment text, rest)
      | none => Number.read s

/-- A value with at most so many arrays and tables around its innermost parts. -/
def value : Nat → List Char → Option (Toml × List Char)
  | 0, s => scalar s
  | depth + 1, s =>
    match s with
    | '[' :: rest => (items (value depth) rest.length rest).map fun (vs, after) =>
      (.array vs, after)
    | '\x7b' :: rest => inlineTable (value depth) rest
    | _ => scalar s

/-- A header in one pair of brackets or in two, with nothing else on its line. -/
def header (s : List Char) : Option (Head × List Char) :=
  match s with
  | '[' :: '[' :: rest => do
    let (path, behind) ← key rest
    let closed ← Text.stripStart? [']', ']'] behind
    return (.item path, ← lineEnd? closed)
  | '[' :: rest => do
    let (path, behind) ← key rest
    let closed ← Text.stripStart? [']'] behind
    return (.table path, ← lineEnd? closed)
  | _ => none

/-- The sections of a text in reverse order, in front of those before it; or the text from the
first statement on that cannot be read. -/
def sections : Nat → List Section → List Char → Except (List Char) (List Section)
  | 0, _, s => .error s
  | fuel + 1, done, s =>
    let start := skipAll s
    if (skipComment start).isEmpty then .ok done
    else if start.head? = some '[' then
      match header start with
      | some (head, rest) => sections fuel (⟨head, []⟩ :: done) rest
      | none => .error start
    else
      let statement := do
        let (p, behind) ← pair (value depthLimit) start
        return (p, ← lineEnd? behind)
      match statement, done with
      | some (p, rest), current :: before =>
        sections fuel ({ current with pairs := current.pairs ++ [p] } :: before) rest
      | _, _ => .error start

/-- Why a text is no document. -/
inductive Fault where
  /-- A statement, on the line with this number, does not follow the grammar. -/
  | malformed (line : Nat)
  /-- A key or a table is given twice. -/
  | redefined
  deriving DecidableEq, Repr

/-- What a fault is told as. The first words are a parser's own; what follows them stands in for its
report, which shows the line and the place of the fault. -/
def Fault.message : Fault → String
  | .malformed line => "TOML parse error at line " ++ toString line
  | .redefined => "TOML parse error at a key that is given twice"

/-- A mark of the encoding before the first character is no part of the document. -/
def withoutMark : List Char → List Char
  | '\uFEFF' :: rest => rest
  | s => s

/-- The entries of the table that a document is. -/
def read (text : List Char) : Except Fault (List (String × Toml)) :=
  let s := withoutMark text
  match sections (s.length + 1) [⟨.top, []⟩] s with
  | .error rest => .error (.malformed ((s.take (s.length - rest.length)).count '\n' + 1))
  | .ok done =>
    match done.reverse.foldlM Entries.addSection? [] with
    | some entries => .ok (entriesToValue entries)
    | none => .error .redefined

end ResultLint.Toml
