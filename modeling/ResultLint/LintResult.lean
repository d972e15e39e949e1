import ResultLint.Violation

/-!
The outcome of a run: the findings and the number of files. Findings can be counted by severity,
compared with a threshold, sorted by place, and reported.
-/
namespace ResultLint

structure LintResult where
  violations : List Violation
  /-- A count without bound. A word of 64 bits holds the same as long as the count fits, as every
  number of files does; only sums of counts that are read from records can go beyond. -/
  filesChecked : Nat
  deriving DecidableEq, Repr

/-- How many findings there are of each severity. -/
structure Counts where
  errors : Nat
  warnings : Nat
  infos : Nat
  deriving DecidableEq, Repr

namespace LintResult

def empty : LintResult := ⟨[], 0⟩

def push (r : LintResult) (v : Violation) : LintResult :=
  { r with violations := r.violations ++ [v] }

/-- Findings of another run behind these, and its files counted too. -/
def extend (r other : LintResult) : LintResult :=
  ⟨r.violations ++ other.violations, r.filesChecked + other.filesChecked⟩

def ofSeverity (r : LintResult) (s : Severity) : Nat :=
  r.violations.countP fun v => v.severity == s

def counts (r : LintResult) : Counts :=
  ⟨r.ofSeverity .error, r.ofSeverity .warning, r.ofSeverity .info⟩

/-- The findings of a severity or a graver one. -/
def atLeast (r : LintResult) (threshold : Severity) : List Violation :=
  r.violations.filter fun v => threshold ≤ v.severity

/-- Whether some finding reaches a threshold. -/
def reaches (r : LintResult) (threshold : Severity) : Bool :=
  r.violations.any fun v => threshold ≤ v.severity

def hasErrors (r : LintResult) : Bool :=
  r.reaches .error

/-- The order of findings: file, line, column. -/
def placeOrder (a b : Violation) : Ordering :=
  ((a.location.file.compare b.location.file).then
    (compare a.location.line b.location.line)).then
    (compare a.location.column b.location.column)

/-- Sorted by place; findings at one place keep their order. -/
def sorted (r : LintResult) : LintResult :=
  { r with violations := r.violations.mergeSort fun a b => (placeOrder a b).isLE }

/-- The numbers of a result in words. -/
def totals (r : LintResult) : String :=
  let c := r.counts
  toString c.errors ++ " error(s), " ++ toString c.warnings ++ " warning(s), " ++
    toString c.infos ++ " info(s) in " ++ toString r.filesChecked ++ " file(s)"

/-- A report of the findings that reach a threshold. -/
def testReport (r : LintResult) (threshold : Severity) : String :=
  let failing := r.atLeast threshold
  "\n=== railway-lint: " ++ toString failing.length ++ " violation(s) ===\n\n" ++
    String.join (failing.map fun v => v.block ++ "\n") ++ "Total: " ++ r.totals ++ "\n"

end LintResult

end ResultLint
