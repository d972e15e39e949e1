import ResultLint.Proofs.Analyzer.Result
import ResultLint.Proofs.Plan

/-!
Which files an analyzer selects, said by the patterns of its setup. One more pattern of files to
leave out takes away what it matches and nothing else, unless it is the first one that is asked for:
then the default ones do not hold any longer, and files that they kept out come in.
-/
namespace ResultLint

/-- A written pattern that is well formed and stands for the whole of a text. -/
def Glob.Matches (pattern : String) (text : List Char) : Prop :=
  ∃ glob, Glob.parse pattern.toList = .ok glob ∧ glob.isMatch text = true

theorem Glob.matches_iff (pattern : String) (text : List Char) :
    ((Glob.parse pattern.toList).toOption.any fun glob => glob.isMatch text) = true ↔
      Glob.Matches pattern text := by
  unfold Glob.Matches
  cases Glob.parse pattern.toList <;> simp [Except.toOption]

instance (pattern : String) (text : List Char) : Decidable (Glob.Matches pattern text) :=
  decidable_of_iff _ (Glob.matches_iff pattern text)

/-- A configuration with one more pattern of files to leave out. -/
def Config.excluding (config : Config) (pattern : String) : Config :=
  { config with files := { config.files with excludes := config.files.excludes ++ [pattern] } }

namespace AnalyzerSetup

/-- Patterns of files to leave out, asked for by the setup and behind them by its configuration. -/
def askedExcludes (setup : AnalyzerSetup) : List String :=
  setup.excludes ++ setup.settled.files.excludes

theorem compile_ok_iff (patterns : List String) (globs : List Glob) :
    compile patterns = .ok globs ↔
      List.Forall₂ (fun pattern glob => Glob.parse pattern.toList = .ok glob) patterns globs := by
  simp only [compile, mapM_ok_iff, mapError_ok_iff]

theorem any_isMatch_iff {patterns : List String} {globs : List Glob}
    (compiled : compile patterns = .ok globs) (text : List Char) :
    (globs.any fun glob => glob.isMatch text) = true ↔ ∃ p ∈ patterns, Glob.Matches p text := by
  rw [List.any_eq_true]
  refine (exists_mem_iff_of_forall₂ ((compile_ok_iff patterns globs).mp compiled) ?_).symm
  intro pattern glob parsed
  simp [Glob.Matches, parsed]

theorem compile_eq_nil_iff {patterns : List String} {globs : List Glob}
    (compiled : compile patterns = .ok globs) : globs = [] ↔ patterns = [] := by
  have size := ((compile_ok_iff patterns globs).mp compiled).length_eq
  rw [← List.length_eq_zero_iff, ← size, List.length_eq_zero_iff]

theorem build_ok_iff (setup : AnalyzerSetup) (current : Path) (a : Analyzer) :
    setup.build current = .ok a ↔ ∃ includes excludes,
      compile setup.effectiveIncludes = .ok includes ∧
      compile setup.effectiveExcludes = .ok excludes ∧
      a = ⟨current.join (setup.root.getD setup.settled.files.root), setup.rules, includes, excludes,
        setup.settled, setup.failOnSyntaxErrors⟩ := by
  unfold build
  simp only [bind_ok_iff, pure_ok_iff]
  constructor
  · rintro ⟨includes, these, excludes, those, rfl⟩
    exact ⟨includes, excludes, these, those, rfl⟩
  · rintro ⟨includes, excludes, these, those, rfl⟩
    exact ⟨includes, these, excludes, those, rfl⟩

theorem mem_effectiveExcludes_iff (setup : AnalyzerSetup) (pattern : String) :
    pattern ∈ setup.effectiveExcludes ↔ pattern ∈ setup.askedExcludes ∨
      (setup.askedExcludes = [] ∧ pattern ∈ Config.defaultExcludes) ∨
      (setup.askedIncludes = [] ∧ pattern ∈ setup.presetIgnores) := by
  unfold effectiveExcludes
  rw [← askedExcludes, List.mem_append]
  by_cases silent : setup.askedExcludes = [] <;> by_cases all : setup.askedIncludes = [] <;>
    simp [silent, all]

/-- A path is selected as the patterns in force say, seen from the root. -/
theorem selects_iff {setup : AnalyzerSetup} {current : Path} {a : Analyzer}
    (built : setup.build current = .ok a) (path : Path) :
    a.selects path = true ↔
      (∀ p ∈ setup.effectiveExcludes, ¬ Glob.Matches p (a.seen path).chars) ∧
      (setup.effectiveIncludes = [] ∨
        ∃ p ∈ setup.effectiveIncludes, Glob.Matches p (a.seen path).chars) := by
  obtain ⟨includes, excludes, these, those, rfl⟩ := (build_ok_iff setup current a).mp built
  have out := any_isMatch_iff those
  have within := any_isMatch_iff these
  unfold Analyzer.selects Analyzer.seen
  rw [Bool.and_eq_true, Bool.not_eq_true', ← Bool.not_eq_true, out, Bool.or_eq_true, within,
    List.isEmpty_iff, compile_eq_nil_iff these]
  simp only [not_exists, not_and]

/-- A setup with one more pattern of files to leave out, in its own list or in that of its
configuration. -/
inductive OneMoreExclude (setup : AnalyzerSetup) (pattern : String) : AnalyzerSetup → Prop
  | asked : OneMoreExclude setup pattern (setup.withExcludes [pattern])
  | configured :
    OneMoreExclude setup pattern (setup.withConfig (setup.settled.excluding pattern))

namespace OneMoreExclude

variable {setup more : AnalyzerSetup} {pattern : String}

theorem frame (added : OneMoreExclude setup pattern more) :
    more.root.getD more.settled.files.root = setup.root.getD setup.settled.files.root ∧
      more.askedIncludes = setup.askedIncludes ∧
      more.effectiveIncludes = setup.effectiveIncludes ∧
      more.presetIgnores = setup.presetIgnores := by
  cases added <;> exact ⟨rfl, rfl, rfl, rfl⟩

theorem mem_askedExcludes_iff (added : OneMoreExclude setup pattern more) (p : String) :
    p ∈ more.askedExcludes ↔ p ∈ setup.askedExcludes ∨ p = pattern := by
  cases added with
  | asked =>
    simp only [askedExcludes, withExcludes, settled, List.mem_append, List.mem_singleton]
    exact or_right_comm
  | configured =>
    simp only [askedExcludes, withConfig, settled, Config.excluding, Option.getD_some,
      List.mem_append, List.mem_singleton]
    exact or_assoc.symm

theorem mem_effectiveExcludes_iff (added : OneMoreExclude setup pattern more) (p : String) :
    p ∈ more.effectiveExcludes ↔ p ∈ setup.askedExcludes ∨ p = pattern ∨
      (setup.askedIncludes = [] ∧ p ∈ setup.presetIgnores) := by
  have some : more.askedExcludes ≠ [] :=
    List.ne_nil_of_mem ((added.mem_askedExcludes_iff pattern).mpr (.inr rfl))
  obtain ⟨-, includes, -, ignores⟩ := added.frame
  rw [AnalyzerSetup.mem_effectiveExcludes_iff, added.mem_askedExcludes_iff, includes, ignores]
  simp [some, or_assoc]

/-- The other patterns are well formed in either setup, the default ones being so. -/
theorem build_ok (added : OneMoreExclude setup pattern more) {current : Path} {a : Analyzer}
    {glob : Glob} (built : setup.build current = .ok a)
    (valid : Glob.parse pattern.toList = .ok glob) :
    ∃ b, more.build current = .ok b ∧ b.root = a.root := by
  obtain ⟨includes, excludes, these, those, rfl⟩ := (build_ok_iff setup current a).mp built
  obtain ⟨root, -, same, -⟩ := added.frame
  have parsed : ∀ p ∈ setup.effectiveExcludes, ∃ g, Glob.parse p.toList = .ok g :=
    exists_forall₂_iff.mp ⟨excludes, (compile_ok_iff _ _).mp those⟩
  have parsedMore : ∀ p ∈ more.effectiveExcludes, ∃ g, Glob.parse p.toList = .ok g := by
    intro p member
    rcases (added.mem_effectiveExcludes_iff p).mp member with asked | rfl | ignored
    · exact parsed p ((AnalyzerSetup.mem_effectiveExcludes_iff setup p).mpr (.inl asked))
    · exact ⟨glob, valid⟩
    · exact parsed p ((AnalyzerSetup.mem_effectiveExcludes_iff setup p).mpr (.inr (.inr ignored)))
  obtain ⟨globs, compiled⟩ := exists_forall₂_iff.mpr parsedMore
  refine ⟨_, (build_ok_iff more current _).mpr
    ⟨includes, globs, by rw [same, these], (compile_ok_iff _ _).mpr compiled, rfl⟩, ?_⟩
  exact congrArg current.join root

theorem selects_iff (added : OneMoreExclude setup pattern more) {current : Path} {a b : Analyzer}
    (built : setup.build current = .ok a) (builtMore : more.build current = .ok b)
    (root : b.root = a.root) (path : Path) :
    (b.selects path = true ∧
        (setup.askedExcludes = [] → ∀ p ∈ Config.defaultExcludes,
          ¬ Glob.Matches p (a.seen path).chars)) ↔
      a.selects path = true ∧ ¬ Glob.Matches pattern (a.seen path).chars := by
  have seen : b.seen path = a.seen path := by rw [Analyzer.seen, root, ← Analyzer.seen]
  obtain ⟨-, -, includes, -⟩ := added.frame
  rw [AnalyzerSetup.selects_iff built, AnalyzerSetup.selects_iff builtMore, seen, includes]
  simp only [added.mem_effectiveExcludes_iff, AnalyzerSetup.mem_effectiveExcludes_iff,
    or_imp, forall_and, and_imp, forall_eq]
  constructor
  · rintro ⟨⟨⟨asked, unmatched, ignored⟩, within⟩, standard⟩
    exact ⟨⟨⟨asked, fun p none => standard none p, ignored⟩, within⟩, unmatched⟩
  · rintro ⟨⟨⟨asked, standard, ignored⟩, within⟩, unmatched⟩
    exact ⟨⟨⟨asked, unmatched, ignored⟩, within⟩, fun none p => standard p none⟩

end OneMoreExclude

/-- Where some pattern of files to leave out is asked for, one more takes away just what it matches.
Where it is the first one, the default ones give way to it, and what it leaves is selected without
it exactly if no default one matches. -/
theorem one_more_exclude (setup more : AnalyzerSetup) (current : Path) (pattern : String)
    (glob : Glob) (a : Analyzer) (built : setup.build current = .ok a)
    (valid : Glob.parse pattern.toList = .ok glob) (added : OneMoreExclude setup pattern more) :
    ∃ b, more.build current = .ok b ∧
      (setup.askedExcludes ≠ [] → ∀ path, b.selects path = true ↔
        a.selects path = true ∧ ¬ Glob.Matches pattern (a.seen path).chars) ∧
      (setup.askedExcludes = [] → ∀ path, b.selects path = true →
        (a.selects path = true ↔
          ∀ p ∈ Config.defaultExcludes, ¬ Glob.Matches p (a.seen path).chars)) := by
  obtain ⟨b, builtMore, root⟩ := added.build_ok built valid
  have selected := added.selects_iff built builtMore root
  refine ⟨b, builtMore, fun some path => ?_, fun none path left => ?_⟩
  · rw [← selected path]
    simp [some]
  · constructor
    · intro here p standard
      refine ((selects_iff built path).mp here).1 p ?_
      exact (mem_effectiveExcludes_iff setup p).mpr (.inr (.inl ⟨none, standard⟩))
    · intro unmatched
      exact ((selected path).mp ⟨left, fun _ => unmatched⟩).1

/-- The statement where another pattern is asked for, and where none is. -/
theorem one_more_exclude_markdown :
    let config : Config := { Config.default with
      files := { Config.defaultFiles with excludes := [] } }
    let setup (excludes : List String) :=
      ((empty.withRoot (.ofString "/p")).withConfig config).withExcludes excludes
    (∃ a b, (setup ["**/gen/**"]).build (.ofString "/") = .ok a ∧
      ((setup ["**/gen/**"]).withExcludes ["*.md"]).build (.ofString "/") = .ok b ∧
      ∀ path, b.selects path = true ↔
        a.selects path = true ∧ ¬ Glob.Matches "*.md" (a.seen path).chars) ∧
    ∃ a b, (setup []).build (.ofString "/") = .ok a ∧
      ((setup []).withExcludes ["*.md"]).build (.ofString "/") = .ok b ∧
      ∀ path, b.selects path = true → (a.selects path = true ↔
        ∀ p ∈ Config.defaultExcludes, ¬ Glob.Matches p (a.seen path).chars) := by
  intro config setup
  obtain ⟨glob, valid⟩ : ∃ glob, Glob.parse "*.md".toList = .ok glob :=
    exists_ok_of_isOk (by decide +kernel)
  constructor
  · obtain ⟨a, built⟩ : ∃ a, (setup ["**/gen/**"]).build (.ofString "/") = .ok a :=
      exists_ok_of_isOk (by decide +kernel)
    obtain ⟨b, builtMore, narrower, -⟩ := one_more_exclude _ _ _ "*.md" glob a built valid .asked
    exact ⟨a, b, built, builtMore, narrower (by decide)⟩
  · obtain ⟨a, built⟩ : ∃ a, (setup []).build (.ofString "/") = .ok a :=
      exists_ok_of_isOk (by decide +kernel)
    obtain ⟨b, builtMore, -, standard⟩ := one_more_exclude _ _ _ "*.md" glob a built valid .asked
    exact ⟨a, b, built, builtMore, standard rfl⟩

/-- The first pattern of files to leave out, in either list, brings in a file that the default ones
kept out. -/
theorem first_exclude_brings_in :
    let selects (change : AnalyzerSetup → AnalyzerSetup) : Option Bool := do
      let config ← (Config.parse "[analyzer]\nexclude = []".toList).toOption
      let setup := change ((empty.withRoot (.ofString "/p")).withConfig config)
      let a ← (setup.build (.ofString "/")).toOption
      return a.selects (.ofString "/p/node_modules/a.ts")
    (Glob.parse "*.md".toList).isOk = true ∧
      selects id = some false ∧
      selects (fun setup => setup.withExcludes ["*.md"]) = some true ∧
      selects (fun setup => setup.withConfig (setup.settled.excluding "*.md")) = some true := by
  decide +kernel

end AnalyzerSetup

end ResultLint
