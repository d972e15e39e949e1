import ResultLint.Text.Blank
import ResultLint.Text.Search

/-!
Message templates. A slot is a name between two opening and two closing braces, with blanks
around the name ignored. Rendering is one pass from the left: values are put in as they are and
never searched for slots again.
-/
namespace ResultLint.Text.Template

/-- Values by slot name; of two values for one name the first counts. -/
abbrev Values := List (List Char × List Char)

def openMark : List Char := ['\x7b', '\x7b']

def closeMark : List Char := ['\x7d', '\x7d']

/-- The text that stands for a slot with this inside: its value, or the slot as written. -/
def fill (values : Values) (inside : List Char) : List Char :=
  match values.lookup (trim inside) with
  | some value => value
  | none => openMark ++ inside ++ closeMark

/-- Replaces at most `fuel` slots. -/
def renderSlots (values : Values) : Nat → List Char → List Char
  | 0, s => s
  | fuel + 1, s =>
    match cut? openMark s with
    | none => s
    | some (before, after) =>
      match cut? closeMark after with
      | none => s
      | some (inside, rest) => before ++ fill values inside ++ renderSlots values fuel rest

/-- A text has fewer slots than characters, so its length is fuel enough. -/
def render (values : Values) (template : List Char) : List Char :=
  renderSlots values template.length template

end ResultLint.Text.Template
