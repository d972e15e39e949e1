import ResultLint.Preset
import ResultLint.Proofs.ReturnType.Policy

/-!
Options only suppress. A policy enters the examination of a function through two questions, what
is exempt and what is allowed, and each of them asks for some entry of a list; so more entries
never bring a diagnostic about, and never change one.
-/
namespace ResultLint.ReturnType

open Source

/-- The lists of these options, as they hold over the defaults, have no entry that those of the
other options lack. -/
structure Options.Within (few many : Options) : Prop where
  allowed : ∀ entry ∈ few.allowedList, entry ∈ many.allowedList
  exempt : ∀ name ∈ few.exemptList, name ∈ many.exemptList
  patterns : ∀ pattern ∈ few.patternList, pattern ∈ many.patternList

section Entries

variable {few many : Options} (within : few.Within many)

include within

theorem Excused.of_within {name : String} {path : Path} (excused : Excused few name path) :
    Excused many name path := by
  cases excused with
  | listed h => exact .listed (within.exempt name h)
  | always h => exact .always h
  | matched pattern expression h valid hit =>
    exact .matched pattern expression (within.patterns pattern h) valid hit
  | testFile h => exact .testFile h

theorem Allows.of_within {type : List Char} (allows : Allows few type) : Allows many type := by
  obtain ⟨entry, listed, inside⟩ := allows
  exact ⟨entry, within.allowed entry listed, inside⟩

end Entries

/-- The diagnostic at a function that there is a complaint about; no option has a part in it. -/
def diagnosis (node : FunctionNode) (ctx : FileContext) : Diagnostic :=
  match node.returnType with
  | none => ⟨.missingReturnType, node.span, node.name, none⟩
  | some declared =>
    ⟨.requireResultType, declared.span, node.name,
      some (String.ofList (ctx.text declared.typeSpan))⟩

namespace Policy

theorem examine_some_iff (policy : Policy) (node : FunctionNode) (ctx : FileContext)
    (d : Diagnostic) :
    policy.examine node ctx = some d ↔
      isEligible node = true ∧ policy.isExempt node.name ctx.path = false ∧
        (∀ declared, node.returnType = some declared →
          isResult (normalize (ctx.text declared.typeSpan)) = false ∧
            policy.isAllowed (normalize (ctx.text declared.typeSpan)) = false) ∧
        d = diagnosis node ctx := by
  unfold examine diagnosis
  cases isEligible node with
  | false => simp
  | true =>
    cases policy.isExempt node.name ctx.path with
    | true => simp
    | false =>
      cases node.returnType with
      | none =>
        simp only [Bool.not_true, Bool.false_eq_true, if_false, true_and, reduceCtorEq,
          false_implies, implies_true, Option.some.injEq]
        exact eq_comm
      | some declared =>
        simp only [Bool.not_true, Bool.false_eq_true, if_false, Bool.or_eq_true, true_and,
          Option.some.injEq, forall_eq']
        split
        · next passes =>
          rcases passes with result | allowed
          · simp [result]
          · simp [allowed]
        · next refused =>
          rw [not_or, Bool.not_eq_true, Bool.not_eq_true] at refused
          rw [Option.some.injEq]
          exact ⟨fun same => ⟨refused, same.symm⟩, fun found => found.2.symm⟩

/-- A policy that exempts and allows no more than another one has all of its diagnostics. -/
theorem examine_some_mono (strict lax : Policy)
    (exempts : ∀ name path, strict.isExempt name path = true → lax.isExempt name path = true)
    (allows : ∀ type, strict.isAllowed type = true → lax.isAllowed type = true)
    (node : FunctionNode) (ctx : FileContext) (d : Diagnostic)
    (found : lax.examine node ctx = some d) : strict.examine node ctx = some d := by
  obtain ⟨eligible, unexempt, refused, same⟩ := (examine_some_iff lax node ctx d).mp found
  refine (examine_some_iff strict node ctx d).mpr ⟨eligible, ?_, ?_, same⟩
  · rw [Bool.eq_false_iff] at unexempt ⊢
    exact fun exempt => unexempt (exempts _ _ exempt)
  · intro declared annotated
    obtain ⟨noResult, unallowed⟩ := refused declared annotated
    rw [Bool.eq_false_iff] at unallowed
    exact ⟨noResult, Bool.eq_false_iff.mpr fun allowed => unallowed (allows _ allowed)⟩

theorem examine_of_within (few many : Options) (strict lax : Policy)
    (left : compile few = .ok strict) (right : compile many = .ok lax) (within : few.Within many)
    (node : FunctionNode) (ctx : FileContext) (d : Diagnostic)
    (found : lax.examine node ctx = some d) : strict.examine node ctx = some d := by
  refine examine_some_mono strict lax ?_ ?_ node ctx d found
  · intro name path exempt
    rw [isExempt_iff few strict left] at exempt
    exact (isExempt_iff many lax right name path).mpr (exempt.of_within within)
  · intro type allowed
    rw [isAllowed_iff few strict left] at allowed
    exact (isAllowed_iff many lax right type).mpr (allowed.of_within within)

/-- Options compile if their patterns are among those of options that do. -/
theorem compile_of_patterns (few many : Options) (lax : Policy) (compiled : compile many = .ok lax)
    (patterns : ∀ pattern ∈ few.patternList, pattern ∈ many.patternList) :
    ∃ policy, compile few = .ok policy := by
  obtain ⟨expressions, parsed, -⟩ := (compile_ok_iff many lax).mp compiled
  have valid := exists_forall₂_iff.mp ⟨expressions, parsed⟩
  obtain ⟨fewer, found⟩ := exists_forall₂_iff.mpr
    fun pattern member => valid pattern (patterns pattern member)
  exact ⟨_, (compile_ok_iff few _).mpr ⟨fewer, found, rfl⟩⟩

/-- Options whose lists have the same entries, in whatever order and however often, decide every
function alike. -/
theorem examine_eq_of_same_entries (left right : Options) (policy : Policy)
    (compiled : compile left = .ok policy) (forth : left.Within right) (back : right.Within left) :
    ∃ other, compile right = .ok other ∧
      ∀ node ctx, other.examine node ctx = policy.examine node ctx := by
  obtain ⟨other, same⟩ := compile_of_patterns right left policy compiled back.patterns
  refine ⟨other, same, fun node ctx => Option.ext fun d => ⟨?_, ?_⟩⟩
  · exact examine_of_within left right policy other compiled same forth node ctx d
  · exact examine_of_within right left other policy same compiled back node ctx d

end Policy

/-- The lists of the strict preset are parts of those of the recommended one. -/
theorem strict_within_recommended :
    Options.Within Preset.strict.options Preset.recommended.options := by
  constructor <;> decide

/-- So are the default lists. -/
theorem defaults_within_recommended :
    Options.Within Options.defaults Preset.recommended.options := by
  constructor <;> decide

/-- Entries of options can only suppress: of two policies the one whose lists are parts of the
other's has every diagnostic of the other. So the order and number of entries do not count, and
what the recommended preset reports is reported under the strict preset and by default, too. -/
theorem options_only_suppress :
    (∀ (few many : Options) (strict lax : Policy), Policy.compile few = .ok strict →
      Policy.compile many = .ok lax → few.Within many →
        ∀ node ctx d, lax.examine node ctx = some d → strict.examine node ctx = some d) ∧
    (∀ (left right : Options) (policy : Policy), Policy.compile left = .ok policy →
      left.Within right → right.Within left →
        ∃ other, Policy.compile right = .ok other ∧
          ∀ node ctx, other.examine node ctx = policy.examine node ctx) ∧
    ∃ recommended strict : Policy,
      Policy.compile Preset.recommended.options = .ok recommended ∧
      Policy.compile Preset.strict.options = .ok strict ∧
      Policy.compile Options.defaults = .ok .default ∧
      ∀ node ctx d, recommended.examine node ctx = some d →
        strict.examine node ctx = some d ∧ Policy.default.examine node ctx = some d := by
  have defaults : Policy.compile Options.defaults = .ok .default := rfl
  obtain ⟨lax, recommended⟩ : ∃ policy, Policy.compile Preset.recommended.options = .ok policy :=
    exists_ok_of_isOk (by decide +kernel)
  obtain ⟨strict, compiled⟩ := Policy.compile_of_patterns Preset.strict.options _ lax recommended
    strict_within_recommended.patterns
  refine ⟨Policy.examine_of_within, Policy.examine_eq_of_same_entries, lax, strict, recommended,
    compiled, defaults, ?_⟩
  intro node ctx d found
  constructor
  · exact Policy.examine_of_within _ _ strict lax compiled recommended strict_within_recommended
      node ctx d found
  · exact Policy.examine_of_within _ _ _ lax defaults recommended defaults_within_recommended
      node ctx d found

/-- The statement at a function that returns a string, under options that let only functions
without a value pass and under others that add entries to each list. -/
theorem options_only_suppress_longer_lists :
    let few : Options := ⟨some ["void"], none, none⟩
    let many : Options :=
      ⟨some ["void", "number"], some ["main", "run", "setup", "teardown"], some ["^test"]⟩
    let strict : Policy := .ofParts ["void"] ["main", "setup", "teardown"] []
    let lax : Policy := .ofParts ["void", "number"] ["main", "run", "setup", "teardown"]
      [.seq (.assertion .textStart) (.literal "test".toList)]
    let node : FunctionNode :=
      ⟨.declaration (some "load"), .other, some ⟨⟨15, 23, 1, 16⟩, ⟨17, 23, 1, 18⟩⟩, true,
        ⟨0, 26, 1, 1⟩⟩
    let ctx : FileContext :=
      .ofFile (.ofString "/p/src/a.ts") "function load(): string {}".toList (.ofString "/p")
    Policy.compile few = .ok strict ∧ Policy.compile many = .ok lax ∧ few.Within many ∧
      lax.examine node ctx = some (diagnosis node ctx) ∧
      strict.examine node ctx = some (diagnosis node ctx) := by
  intro few many strict lax node ctx
  have left : Policy.compile few = .ok strict := rfl
  have right : Policy.compile many = .ok lax := rfl
  have within : few.Within many := by constructor <;> decide
  have found : lax.examine node ctx = some (diagnosis node ctx) := by decide +kernel
  exact ⟨left, right, within, found,
    options_only_suppress.1 few many strict lax left right within node ctx _ found⟩

end ResultLint.ReturnType
