import ResultLint.Proofs.Regex.Literal
import ResultLint.Proofs.Text.Occurrence
import ResultLint.Proofs.Fallible
import ResultLint.ReturnType.Policy

/-!
What a compiled policy exempts and allows, said in terms of the options it was compiled from.
Each of the three lists is searched on its own, so a policy is read as three existence
statements over entries.
-/
namespace ResultLint.ReturnType

namespace Options

/-- The lists that hold when nothing lies over the defaults but these options. -/
def allowedList (options : Options) : List String :=
  options.allowedReturnTypes.getD defaultAllowedReturnTypes

def exemptList (options : Options) : List String :=
  options.exemptFunctions.getD defaultExemptFunctions

def patternList (options : Options) : List String :=
  options.exemptPatterns.getD []

end Options

/-- A function name or a file that is left alone under options. -/
inductive Excused (options : Options) (name : String) (path : Path) : Prop
  | listed (h : name ∈ options.exemptList)
  | always (h : name ∈ Options.alwaysExempt)
  | matched (pattern : String) (expression : Regex) (h : pattern ∈ options.patternList)
      (valid : Regex.Pattern.parse pattern.toList = .ok expression)
      (hit : expression.isMatch name.toList = true)
  | testFile (h : ".spec.".toList <:+: path.chars ∨ ".test.".toList <:+: path.chars)

/-- A type in normal form that some entry of the options lets pass. -/
def Allows (options : Options) (type : List Char) : Prop :=
  ∃ entry ∈ options.allowedList, normalize entry.toList <:+: type

namespace AllowedType

/-- The expression of an allowed type, if it has one, matches the type itself and nothing else. -/
theorem expression_isMatch_iff (entry : String) (expression : Regex)
    (compiled : (ofEntry entry).expression = some expression) (type : List Char) :
    expression.isMatch type = true ↔ type = normalize entry.toList := by
  rw [ofEntry] at compiled
  dsimp only at compiled
  rw [Regex.Pattern.parse_exactly] at compiled
  split at compiled
  · cases compiled
  · cases compiled
    exact Regex.exactly_isMatch_iff _ type

/-- Of the three tests the one for an occurrence decides: what is the allowed type also contains
it. -/
theorem admits_iff (entry : String) (type : List Char) :
    (ofEntry entry).admits type = true ↔ normalize entry.toList <:+: type := by
  unfold admits
  rw [Bool.or_eq_true, Bool.or_eq_true, beq_iff_eq, Text.contains_iff_infix, Option.any_eq_true]
  constructor
  · rintro ((same | inside) | ⟨expression, compiled, hit⟩)
    · rw [same]
      exact List.infix_rfl
    · exact inside
    · rw [(expression_isMatch_iff entry expression compiled type).mp hit]
  · exact fun inside => .inl (.inr inside)

end AllowedType

namespace Policy

theorem compilePattern_ok_iff (pattern : String) (expression : Regex) :
    compilePattern pattern = .ok expression ↔
      Regex.Pattern.parse pattern.toList = .ok expression := by
  unfold compilePattern
  cases Regex.Pattern.parse pattern.toList <;> simp

/-- Compiling parses the patterns that hold over the defaults and takes the other lists as they
are. -/
theorem compile_eq (options : Options) :
    compile options = (options.patternList.mapM compilePattern).map
      (ofParts options.allowedList options.exemptList) := by
  have allowed : (Options.defaults.overriddenBy options).allowedReturnTypes.getD [] =
      options.allowedList := by
    cases h : options.allowedReturnTypes <;>
      simp [Options.overriddenBy, Options.defaults, Options.allowedList, h]
  have exempt : (Options.defaults.overriddenBy options).exemptFunctions.getD [] =
      options.exemptList := by
    cases h : options.exemptFunctions <;>
      simp [Options.overriddenBy, Options.defaults, Options.exemptList, h]
  have patterns : (Options.defaults.overriddenBy options).exemptPatterns.getD [] =
      options.patternList := by
    cases h : options.exemptPatterns <;>
      simp [Options.overriddenBy, Options.defaults, Options.patternList, h]
  unfold compile
  dsimp only
  rw [allowed, exempt, patterns]
  cases options.patternList.mapM compilePattern <;> rfl

/-- Compiling succeeds exactly with every pattern of the effective list, in its order. -/
theorem compile_ok_iff (options : Options) (policy : Policy) :
    compile options = .ok policy ↔ ∃ expressions,
      List.Forall₂ (fun pattern expression => Regex.Pattern.parse pattern.toList = .ok expression)
        options.patternList expressions ∧
      policy = ofParts options.allowedList options.exemptList expressions := by
  rw [compile_eq]
  simp only [← compilePattern_ok_iff, ← mapM_ok_iff]
  cases options.patternList.mapM compilePattern with
  | error e => simp [Except.map]
  | ok expressions => simp [Except.map, eq_comm]

theorem isTestFile_iff (path : Path) :
    isTestFile path = true ↔
      ".spec.".toList <:+: path.chars ∨ ".test.".toList <:+: path.chars := by
  simp only [isTestFile, testMarks, List.any_cons, List.any_nil, Bool.or_false, Bool.or_eq_true,
    Text.contains_iff_infix]

theorem isExempt_iff (options : Options) (policy : Policy)
    (compiled : compile options = .ok policy) (name : String) (path : Path) :
    policy.isExempt name path = true ↔ Excused options name path := by
  obtain ⟨expressions, parsed, rfl⟩ := (compile_ok_iff options policy).mp compiled
  have pattern : (∃ p ∈ options.patternList, ∃ r, Regex.Pattern.parse p.toList = .ok r ∧
      r.isMatch name.toList = true) ↔ ∃ r ∈ expressions, r.isMatch name.toList = true := by
    apply exists_mem_iff_of_forall₂ parsed
    intro p r valid
    simp [valid]
  simp only [isExempt, ofParts, Bool.or_eq_true, List.any_eq_true, List.contains_iff_mem,
    List.mem_append, isTestFile_iff, ← pattern]
  constructor
  · rintro (((listed | always) | ⟨p, listed, r, valid, hit⟩) | marked)
    · exact .listed listed
    · exact .always always
    · exact .matched p r listed valid hit
    · exact .testFile marked
  · intro excused
    cases excused with
    | listed h => exact .inl (.inl (.inl h))
    | always h => exact .inl (.inl (.inr h))
    | matched p r h valid hit => exact .inl (.inr ⟨p, h, r, valid, hit⟩)
    | testFile h => exact .inr h

theorem ofParts_isAllowed_iff (allowed exempt : List String) (patterns : List Regex)
    (type : List Char) :
    (ofParts allowed exempt patterns).isAllowed type = true ↔
      ∃ entry ∈ allowed, normalize entry.toList <:+: type := by
  simp [isAllowed, ofParts, AllowedType.admits_iff]

theorem isAllowed_iff (options : Options) (policy : Policy)
    (compiled : compile options = .ok policy) (type : List Char) :
    policy.isAllowed type = true ↔ Allows options type := by
  obtain ⟨expressions, parsed, rfl⟩ := (compile_ok_iff options policy).mp compiled
  exact ofParts_isAllowed_iff _ _ _ type

end Policy

end ResultLint.ReturnType
