import ResultLint.Proofs.Analyzer.Selection

/-!
A setup given call by call. A setting that holds one value keeps the last one it was given, and a
list keeps all that was added, in order; so calls on different settings can be made in any order.
What is selected in the end is said by the calls themselves.
-/
namespace ResultLint

/-- A finding at a place that a rule reports when it is handed a file with this path. -/
def Rule.Tells (rule : Rule) (relative : Path) (v : Violation) : Prop :=
  ∃ ctx file, ctx.relativePath = relative ∧ ∃ w ∈ rule.check ctx file, v.location = w.location

/-- One call on a setup. -/
inductive SetupCall where
  | root (path : Path)
  | running (rule : Rule)
  | excluding (pattern : String)
  | excludingAll (patterns : List String)
  | including (pattern : String)
  | presetFiles (files ignores : List String)
  | configured (config : Config)
  | failing (onSyntaxErrors : Bool)

namespace SetupCall

/-- What a call is about. -/
inductive Setting where
  | root
  | rules
  | excludes
  | includes
  | preset
  | config
  | strictness
  deriving DecidableEq, Repr

def setting : SetupCall → Setting
  | .root _ => .root
  | .running _ => .rules
  | .excluding _ | .excludingAll _ => .excludes
  | .including _ => .includes
  | .presetFiles _ _ => .preset
  | .configured _ => .config
  | .failing _ => .strictness

def apply (setup : AnalyzerSetup) : SetupCall → AnalyzerSetup
  | .root path => setup.withRoot path
  | .running rule => setup.withRule rule
  | .excluding pattern => setup.withExcludes [pattern]
  | .excludingAll patterns => setup.withExcludes patterns
  | .including pattern => setup.withInclude pattern
  | .presetFiles files ignores => setup.withPresetFiles files ignores
  | .configured config => setup.withConfig config
  | .failing fail => setup.failingOnSyntaxErrors fail

def root? : SetupCall → Option Path
  | .root path => some path
  | _ => none

def rule? : SetupCall → Option Rule
  | .running rule => some rule
  | _ => none

def excluded? : SetupCall → Option (List String)
  | .excluding pattern => some [pattern]
  | .excludingAll patterns => some patterns
  | _ => none

def included? : SetupCall → Option String
  | .including pattern => some pattern
  | _ => none

def preset? : SetupCall → Option (List String × List String)
  | .presetFiles files ignores => some (files, ignores)
  | _ => none

def config? : SetupCall → Option Config
  | .configured config => some config
  | _ => none

def strictness? : SetupCall → Option Bool
  | .failing fail => some fail
  | _ => none

/-- The last value that calls give to a setting. -/
def last? {α : Type} (value? : SetupCall → Option α) (calls : List SetupCall) : Option α :=
  (calls.filterMap value?).getLast?

theorem last?_concat {α : Type} (value? : SetupCall → Option α) (calls : List SetupCall)
    (c : SetupCall) : last? value? (calls ++ [c]) = (value? c).or (last? value? calls) := by
  rw [last?, last?, List.filterMap_append, List.getLast?_append]
  cases given : value? c <;> simp [given]

/-- Only calls on a setting give it values. -/
theorem filterMap_setting {α : Type} (value? : SetupCall → Option α) (setting : Setting)
    (own : ∀ c a, value? c = some a → c.setting = setting) (calls : List SetupCall) :
    (calls.filter (·.setting = setting)).filterMap value? = calls.filterMap value? := by
  rw [List.filterMap_filter]
  apply List.filterMap_congr
  intro c _
  cases given : value? c with
  | none => simp
  | some a => simp [own c a given]

/-- Where calls of one kind alone give to a setting, it holds what these calls name. -/
theorem mem_filterMap_iff {α : Type} (value? : SetupCall → Option α) (call : α → SetupCall)
    (own : ∀ c a, value? c = some a ↔ c = call a) (calls : List SetupCall) (a : α) :
    a ∈ calls.filterMap value? ↔ call a ∈ calls := by
  rw [List.mem_filterMap]
  simp only [own, exists_eq_right]

end SetupCall

namespace AnalyzerSetup

open SetupCall

def ofCalls (calls : List SetupCall) : AnalyzerSetup :=
  calls.foldl SetupCall.apply .empty

/-- What calls leave behind, setting by setting. -/
theorem ofCalls_eq (calls : List SetupCall) :
    ofCalls calls =
      { root := last? root? calls
        rules := calls.filterMap rule?
        includes := calls.filterMap included?
        excludes := (calls.filterMap excluded?).flatten
        presetFiles := ((last? preset? calls).getD ([], [])).1
        presetIgnores := ((last? preset? calls).getD ([], [])).2
        config := last? config? calls
        failOnSyntaxErrors := (last? strictness? calls).getD false } := by
  induction calls using List.reverseRecOn with
  | nil => rfl
  | append_singleton calls c ih =>
    rw [ofCalls, List.foldl_concat, ← ofCalls, ih]
    simp only [last?_concat, List.filterMap_append, List.flatten_append]
    cases c <;> simp [apply, withRoot, withRule, withExcludes, withInclude, withPresetFiles,
      withConfig, failingOnSyntaxErrors, root?, rule?, excluded?, included?, preset?, config?,
      strictness?]

/-- Calls on one setting keep their order; the order between settings does not count. -/
theorem ofCalls_congr (calls other : List SetupCall)
    (same : ∀ setting, other.filter (·.setting = setting) = calls.filter (·.setting = setting)) :
    ofCalls other = ofCalls calls := by
  have agree {α : Type} (value? : SetupCall → Option α) (setting : Setting)
      (own : ∀ c a, value? c = some a → c.setting = setting) :
      other.filterMap value? = calls.filterMap value? := by
    rw [← filterMap_setting value? setting own other, same setting,
      filterMap_setting value? setting own calls]
  have roots := agree root? .root fun | .root _, _, _ => rfl
  have rules := agree rule? .rules fun | .running _, _, _ => rfl
  have excludes := agree excluded? .excludes fun
    | .excluding _, _, _ => rfl
    | .excludingAll _, _, _ => rfl
  have includes := agree included? .includes fun | .including _, _, _ => rfl
  have presets := agree preset? .preset fun | .presetFiles _ _, _, _ => rfl
  have configs := agree config? .config fun | .configured _, _, _ => rfl
  have strictness := agree strictness? .strictness fun | .failing _, _, _ => rfl
  simp only [ofCalls_eq, last?, roots, rules, excludes, includes, presets, configs, strictness]

/-- The configuration that calls leave behind. -/
def configOf (calls : List SetupCall) : Config :=
  (last? config? calls).getD .default

/-- The files and the ignores of the last preset. -/
def presetOf (calls : List SetupCall) : List String × List String :=
  (last? preset? calls).getD ([], [])

/-- A pattern of files to leave out that is named by a call. -/
inductive NamesExclude (calls : List SetupCall) (pattern : String) : Prop
  | one (call : .excluding pattern ∈ calls)
  | among (patterns : List String) (call : .excludingAll patterns ∈ calls)
      (member : pattern ∈ patterns)

/-- The patterns that select files: those of calls and of the configuration, or where there is none
of either, those of the last preset. -/
inductive Includes (calls : List SetupCall) (pattern : String) : Prop
  | called (call : .including pattern ∈ calls)
  | configured (member : pattern ∈ (configOf calls).files.includes)
  | preset (uncalled : ∀ p, .including p ∉ calls)
      (unconfigured : (configOf calls).files.includes = [])
      (member : pattern ∈ (presetOf calls).1)

/-- The patterns that leave files out: those of calls and of the configuration, or where there is
none of either, the default ones; and with the files of the last preset also its ignores. -/
inductive Excludes (calls : List SetupCall) (pattern : String) : Prop
  | called (named : NamesExclude calls pattern)
  | configured (member : pattern ∈ (configOf calls).files.excludes)
  | standard (uncalled : ∀ p, ¬ NamesExclude calls p)
      (unconfigured : (configOf calls).files.excludes = [])
      (member : pattern ∈ Config.defaultExcludes)
  | preset (uncalled : ∀ p, .including p ∉ calls)
      (unconfigured : (configOf calls).files.includes = [])
      (member : pattern ∈ (presetOf calls).2)

section Patterns

variable (calls : List SetupCall)

theorem settled_ofCalls : (ofCalls calls).settled = configOf calls := by
  rw [ofCalls_eq, settled, configOf]

theorem mem_rules_iff (rule : Rule) :
    rule ∈ (ofCalls calls).rules ↔ .running rule ∈ calls := by
  rw [ofCalls_eq]
  exact mem_filterMap_iff rule? .running (fun c a => by cases c <;> simp [rule?]) calls rule

theorem mem_includes_iff (pattern : String) :
    pattern ∈ (ofCalls calls).includes ↔ .including pattern ∈ calls := by
  rw [ofCalls_eq]
  exact mem_filterMap_iff included? .including (fun c a => by cases c <;> simp [included?]) calls
    pattern

theorem mem_excludes_iff (pattern : String) :
    pattern ∈ (ofCalls calls).excludes ↔ NamesExclude calls pattern := by
  rw [ofCalls_eq, List.mem_flatten]
  simp only [List.mem_filterMap]
  constructor
  · rintro ⟨patterns, ⟨c, call, given⟩, member⟩
    cases c <;> cases given
    · exact .one (List.mem_singleton.mp member ▸ call)
    · exact .among patterns call member
  · rintro (call | ⟨patterns, call, member⟩)
    · exact ⟨_, ⟨_, call, rfl⟩, List.mem_singleton_self pattern⟩
    · exact ⟨patterns, ⟨_, call, rfl⟩, member⟩

theorem askedIncludes_eq_nil_iff :
    (ofCalls calls).askedIncludes = [] ↔
      (∀ p, .including p ∉ calls) ∧ (configOf calls).files.includes = [] := by
  rw [askedIncludes, settled_ofCalls, List.append_eq_nil_iff, List.eq_nil_iff_forall_not_mem]
  simp only [mem_includes_iff]

theorem askedExcludes_eq_nil_iff :
    (ofCalls calls).askedExcludes = [] ↔
      (∀ p, ¬ NamesExclude calls p) ∧ (configOf calls).files.excludes = [] := by
  rw [askedExcludes, settled_ofCalls, List.append_eq_nil_iff, List.eq_nil_iff_forall_not_mem]
  simp only [mem_excludes_iff]

theorem mem_effectiveIncludes_iff (pattern : String) :
    pattern ∈ (ofCalls calls).effectiveIncludes ↔ Includes calls pattern := by
  have preset : (ofCalls calls).presetFiles = (presetOf calls).1 := by rw [ofCalls_eq, presetOf]
  have asked : pattern ∈ (ofCalls calls).askedIncludes ↔
      .including pattern ∈ calls ∨ pattern ∈ (configOf calls).files.includes := by
    rw [askedIncludes, settled_ofCalls, List.mem_append, mem_includes_iff]
  rw [effectiveIncludes, preset]
  split
  · next silent =>
    obtain ⟨uncalled, unconfigured⟩ :=
      (askedIncludes_eq_nil_iff calls).mp (List.isEmpty_iff.mp silent)
    constructor
    · exact .preset uncalled unconfigured
    · rintro (call | member | ⟨-, -, member⟩)
      · exact absurd call (uncalled pattern)
      · simp [unconfigured] at member
      · exact member
  · next some =>
    rw [asked]
    constructor
    · rintro (call | member)
      · exact .called call
      · exact .configured member
    · rintro (call | member | ⟨uncalled, unconfigured, -⟩)
      · exact .inl call
      · exact .inr member
      · exact absurd (List.isEmpty_iff.mpr ((askedIncludes_eq_nil_iff calls).mpr
          ⟨uncalled, unconfigured⟩)) some

theorem mem_effectiveExcludes_ofCalls_iff (pattern : String) :
    pattern ∈ (ofCalls calls).effectiveExcludes ↔ Excludes calls pattern := by
  have preset : (ofCalls calls).presetIgnores = (presetOf calls).2 := by rw [ofCalls_eq, presetOf]
  have asked : pattern ∈ (ofCalls calls).askedExcludes ↔
      NamesExclude calls pattern ∨ pattern ∈ (configOf calls).files.excludes := by
    rw [askedExcludes, settled_ofCalls, List.mem_append, mem_excludes_iff]
  rw [mem_effectiveExcludes_iff, asked, askedExcludes_eq_nil_iff, askedIncludes_eq_nil_iff, preset]
  constructor
  · rintro ((named | member) | ⟨⟨uncalled, unconfigured⟩, member⟩ |
      ⟨⟨uncalled, unconfigured⟩, member⟩)
    · exact .called named
    · exact .configured member
    · exact .standard uncalled unconfigured member
    · exact .preset uncalled unconfigured member
  · rintro (named | member | ⟨uncalled, unconfigured, member⟩ | ⟨uncalled, unconfigured, member⟩)
    · exact .inl (.inl named)
    · exact .inl (.inr member)
    · exact .inr (.inl ⟨⟨uncalled, unconfigured⟩, member⟩)
    · exact .inr (.inr ⟨⟨uncalled, unconfigured⟩, member⟩)

end Patterns

/-- An analyzer that calls lead to selects a path below its root as the patterns in force say of
what is left of the path behind the root. That is also the path with which the file is handed to
every rule, and with which findings in it are reported; and calls on different settings can be made
in any order. -/
theorem selected_as_called [Recovery] (calls : List SetupCall) (current : Path) (a : Analyzer)
    (built : (ofCalls calls).build current = .ok a) :
    (∀ path relative, path.stripBase? a.root = some relative →
      (a.selects path = true ↔
        (∀ p, Excludes calls p → ¬ Glob.Matches p relative.chars) ∧
          ((∀ p, ¬ Includes calls p) ∨
            ∃ p, Includes calls p ∧ Glob.Matches p relative.chars)) ∧
      ∀ content found, a.checkSource path content = .ok found → ∀ v ∈ found,
        ∃ rule, .running rule ∈ calls ∧ rule.Tells relative v ∧
          ((∃ policy severity, rule = ReturnType.rule policy severity) →
            v.location.file = relative)) ∧
    ∀ other : List SetupCall,
      (∀ setting, other.filter (·.setting = setting) = calls.filter (·.setting = setting)) →
      (ofCalls other).build current = .ok a := by
  refine ⟨fun path relative below => ?_, fun other same => ?_⟩
  · have seen : a.seen path = relative := by rw [Analyzer.seen, below, Option.getD_some]
    refine ⟨?_, fun content found checked v member => ?_⟩
    · rw [selects_iff built, seen, List.eq_nil_iff_forall_not_mem]
      simp only [mem_effectiveIncludes_iff, mem_effectiveExcludes_ofCalls_iff]
    · obtain ⟨rule, registered, w, reported, place⟩ :=
        Analyzer.exists_rule_of_checkSource a path content found checked v member
      have rules : a.rules = (ofCalls calls).rules := by
        obtain ⟨_, _, -, -, rfl⟩ := (build_ok_iff _ current a).mp built
        rfl
      rw [rules, mem_rules_iff] at registered
      refine ⟨rule, registered, ⟨_, _, seen, w, reported, place⟩, ?_⟩
      rintro ⟨policy, severity, rfl⟩
      rw [place, ← seen]
      exact ReturnType.file_of_check policy severity _ _ w reported
  · rw [ofCalls_congr calls other same, built]

/-- The ignores of a preset at a file below the last of two roots, and the same calls in another
order. -/
theorem selected_as_called_reordered :
    let rule := ReturnType.rule .default .error
    let calls : List SetupCall := [.excluding "**/gen/**", .root (.ofString "/q"), .running rule,
      .presetFiles ["src/**/*.ts"] ["src/**/*.spec.ts"], .root (.ofString "/p")]
    let other : List SetupCall := [.presetFiles ["src/**/*.ts"] ["src/**/*.spec.ts"],
      .root (.ofString "/q"), .root (.ofString "/p"), .excluding "**/gen/**", .running rule]
    let path := Path.ofString "/p/src/a.spec.ts"
    let relative := Path.ofString "src/a.spec.ts"
    ∃ a, (ofCalls calls).build (.ofString "/") = .ok a ∧
      (ofCalls other).build (.ofString "/") = .ok a ∧
      path.stripBase? a.root = some relative ∧ a.selects path = false ∧
      ∃ found, a.checkSource path "function f() {}".toList = .ok found ∧
        ∀ v ∈ found, v.location.file = relative := by
  intro rule calls other path relative
  obtain ⟨a, built⟩ : ∃ a, (ofCalls calls).build (.ofString "/") = .ok a :=
    exists_ok_of_isOk (by decide +kernel)
  obtain ⟨root, lenient⟩ : a.root = .ofString "/p" ∧ a.failOnSyntaxErrors = false := by
    obtain ⟨_, _, -, -, rfl⟩ := (build_ok_iff _ _ a).mp built
    exact ⟨rfl, rfl⟩
  have below : path.stripBase? a.root = some relative := by
    rw [root]
    decide +kernel
  obtain ⟨selected, reordered⟩ := selected_as_called calls (.ofString "/") a built
  obtain ⟨iff, told⟩ := selected path relative below
  have ignored : Excludes calls "src/**/*.spec.ts" :=
    .preset (by simp [calls]) rfl (List.mem_singleton_self _)
  have unselected : a.selects path = false := by
    rw [Bool.eq_false_iff, Ne, iff]
    rintro ⟨unmatched, -⟩
    exact unmatched _ ignored (by decide +kernel)
  have checked := Analyzer.checkSource_ok a path "function f() {}".toList (.inr lenient)
  refine ⟨a, built, reordered other (by rintro ⟨⟩ <;> rfl), below, unselected, _, checked,
    fun v member => ?_⟩
  obtain ⟨other, call, -, located⟩ := told _ _ checked v member
  have own : other = rule := by simpa [calls] using call
  exact located ⟨_, _, own⟩

end AnalyzerSetup

end ResultLint
