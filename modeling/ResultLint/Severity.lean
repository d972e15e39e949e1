/-!
The three grades of a finding, from the mildest to the gravest, and their written names.
-/
namespace ResultLint

inductive Severity where
  | info | warning | error
  deriving DecidableEq, Repr

namespace Severity

def all : List Severity := [.info, .warning, .error]

def name : Severity → String
  | .info => "info"
  | .warning => "warning"
  | .error => "error"

/-- The severity with exactly this lower-case name. -/
def ofName? (text : String) : Option Severity :=
  all.find? fun s => s.name == text

/-- Position in the order of gravity. -/
def rank : Severity → Nat
  | .info => 0
  | .warning => 1
  | .error => 2

instance : LE Severity := ⟨fun a b => a.rank ≤ b.rank⟩

instance (a b : Severity) : Decidable (a ≤ b) := inferInstanceAs (Decidable (a.rank ≤ b.rank))

theorem ofName?_name (s : Severity) : ofName? s.name = some s := by
  cases s <;> rfl

end Severity

end ResultLint
