import ResultLint.Toml

/-!
Tables while a document is read. A table can be given once; those that a header or a dotted key
only passes through come into being on the way and can still be completed.
-/
namespace ResultLint.Toml

/-- How a table came into being. -/
inductive Origin where
  /-- By its own header. -/
  | given
  /-- By the header of a table inside it. -/
  | passed
  /-- By a dotted key. -/
  | dotted
  deriving DecidableEq, Repr

inductive Node where
  | value (v : Toml)
  | table (origin : Origin) (entries : List (String × Node))
  /-- The tables of an array that is written table by table. -/
  | tables (items : List (List (String × Node)))
  deriving Repr, Inhabited

/-- The entries of a table that is being read. -/
abbrev Entries := List (String × Node)

namespace Entries

/-- Sets the node of a key, at the place of the old one if there is one. -/
def set (entries : Entries) (key : String) (node : Node) : Entries :=
  if (entries.lookup key).isSome then
    entries.map fun (k, n) => if k == key then (k, node) else (k, n)
  else entries ++ [(key, node)]

/-- Changes the last of some tables. -/
def modifyLast? (change : Entries → Option Entries) : List Entries → Option (List Entries)
  | [] => none
  | [last] => (change last).map ([·])
  | first :: rest => (modifyLast? change rest).map (first :: ·)

/-- Changes the table that a header's path leads to. An array of tables is entered at its last
one, and tables that are not there yet come into being. -/
def modify? (change : Entries → Option Entries) : List String → Entries → Option Entries
  | [], entries => change entries
  | key :: path, entries =>
    match entries.lookup key with
    | none => do
      let inner ← modify? change path []
      return entries.set key (.table .passed inner)
    | some (.table origin inner) => do
      let inner ← modify? change path inner
      return entries.set key (.table origin inner)
    | some (.tables items) => do
      let items ← modifyLast? (modify? change path) items
      return entries.set key (.tables items)
    | some (.value _) => none

/-- Puts a value at a dotted key. The tables on the way must not have a header of their own, and
the last of them must stem from a dotted key. -/
def put? (value : Toml) : List String → String → Entries → Option Entries
  | [], key, entries =>
    if (entries.lookup key).isSome then none else some (entries ++ [(key, .value value)])
  | part :: path, key, entries =>
    match entries.lookup part with
    | none => do
      let inner ← put? value path key []
      return entries.set part (.table .dotted inner)
    | some (.table origin inner) => do
      if origin = .given ∨ (path = [] ∧ origin ≠ .dotted) then none
      else
        let inner ← put? value path key inner
        return entries.set part (.table origin inner)
    | some (.tables items) => do
      if path = [] then none
      else
        let items ← modifyLast? (put? value path key) items
        return entries.set part (.tables items)
    | some (.value _) => none

end Entries

mutual

/-- What a node comes to when the document is read. -/
def Node.toValue : Node → Toml
  | .value v => v
  | .table _ entries => .table (entriesToValue entries)
  | .tables items => .array (tablesToValue items)

def entriesToValue : List (String × Node) → List (String × Toml)
  | [] => []
  | (key, node) :: rest => (key, node.toValue) :: entriesToValue rest

def tablesToValue : List (List (String × Node)) → List Toml
  | [] => []
  | entries :: rest => .table (entriesToValue entries) :: tablesToValue rest

end

/-- A key and the keys before its dots. -/
structure KeyPath where
  parents : List String
  key : String
  deriving DecidableEq, Repr

/-- Puts pairs one after the other. -/
def Entries.putAll? (entries : Entries) (pairs : List (KeyPath × Toml)) : Option Entries :=
  pairs.foldlM (fun entries (path, value) => entries.put? value path.parents path.key) entries

/-- Under which head pairs stand. -/
inductive Head where
  /-- The beginning of a document. -/
  | top
  | table (path : KeyPath)
  | item (path : KeyPath)
  deriving DecidableEq, Repr

/-- A head and the pairs below it, up to the next head. -/
structure Section where
  head : Head
  pairs : List (KeyPath × Toml)

/-- Adds a section. A table with a header must be new, or passed by headers only; an item needs
an array that is written table by table, or none. -/
def Entries.addSection? (entries : Entries) (s : Section) : Option Entries :=
  match s.head with
  | .top => entries.putAll? s.pairs
  | .table path =>
    entries.modify? (fun parent => do
      let inner ← match parent.lookup path.key with
        | none => some []
        | some (.table .passed inner) => some inner
        | some _ => none
      let inner ← Entries.putAll? inner s.pairs
      return parent.set path.key (.table .given inner)) path.parents
  | .item path =>
    entries.modify? (fun parent => do
      let items ← match parent.lookup path.key with
        | none => some []
        | some (.tables items) => some items
        | some _ => none
      let item ← Entries.putAll? [] s.pairs
      return parent.set path.key (.tables (items ++ [item]))) path.parents

end ResultLint.Toml
