import ResultLint.ReturnType.Options

/-!
Presets: named choices of options and of the files that are looked at.
-/
namespace ResultLint

inductive Preset where
  /-- Test hooks, logging calls and test helpers are exempt. -/
  | recommended
  /-- Only types without a value pass, and only the functions that are always exempt. -/
  | strict
  deriving DecidableEq, Repr

namespace Preset

open ReturnType

def all : List Preset := [.recommended, .strict]

def name : Preset → String
  | .recommended => "recommended"
  | .strict => "strict"

def ofName? (text : String) : Option Preset :=
  all.find? fun p => p.name == text

def options : Preset → Options
  | .recommended => {
      allowedReturnTypes := some ["void", "Promise<void>", "never"]
      exemptFunctions := some [
        "main", "setup", "teardown", "describe", "it", "expect", "beforeEach", "afterEach",
        "beforeAll", "afterAll", "console.log", "console.error", "console.warn", "console.info",
        "isOk", "isErr", "constructor", "anonymous", "ok", "err"]
      exemptPatterns := some ["^test.*", "^spec.*", ".*Test$", ".*Spec$", "^mock.*", "^stub.*"] }
  | .strict => {
      allowedReturnTypes := some ["void", "never"]
      exemptFunctions := some ["isOk", "isErr", "constructor", "ok", "err"]
      exemptPatterns := some ["^test.*", "^spec.*"] }

/-- Patterns of the files that every preset looks at, relative to the project root. -/
def files : List String := ["src/**/*.ts", "src/**/*.tsx"]

/-- Patterns of the files that every preset leaves out. -/
def ignores : List String := ["src/**/*.spec.ts", "src/**/*.test.ts"]

end Preset

end ResultLint
