import ResultLint.Proofs.Analyzer.Relocation
import ResultLint.Proofs.Walk

/-!
The spelling of the root. Files are found by their ways from the root, told apart by components and
seen from the root, so two spellings of the root lead to one result.
-/
namespace ResultLint

open ResultLint.Path

namespace FileSystem

variable {fs : FileSystem} {p q : Path}

/-- The walks from two spellings of a directory find the same paths below it. -/
theorem SameDirectory.filesBelow_eq (same : fs.SameDirectory p q) (respect : Bool) :
    ∃ ways : List Path, fs.filesBelow respect p = .ok (ways.map p.join) ∧
      fs.filesBelow respect q = .ok (ways.map q.join) := by
  obtain ⟨entries, leads⟩ := same.leads
  -- what is found, as ways from the root; none of them is empty, as the root is a directory
  let found : List (List (List Char)) := Walk.filesOf respect
    (if respect then
      Walk.levelsOnWay (names p) [] fs.top ++ [.ofUser fs.user.rules (names fs.current) (names p)]
    else [])
    (.directory entries)
  have proper : ∀ way ∈ found, way ≠ [] := by
    intro way member
    simp only [found, Walk.filesOf] at member
    exact Walk.filesAmong_ne_nil _ _ _ way member
  have along (r : Path) (way : List (List Char)) (member : way ∈ found) :
      way.foldl (fun path name => path.join ⟨name⟩) r =
        r.join (way.tail.foldl (fun path name => path.join ⟨name⟩) ⟨way.headD []⟩) := by
    cases way with
    | nil => exact absurd rfl (proper [] member)
    | cons name rest => exact Walk.foldl_join rest r ⟨name⟩
  have below (r : Path) (absolute : r.isAbsolute = true) (named : names r = names p)
      (located : fs.locate r = .ok (.directory entries)) :
      fs.filesBelow respect r = .ok ((found.map fun way =>
        way.tail.foldl (fun path name => path.join ⟨name⟩) ⟨way.headD []⟩).map r.join) := by
    have whole : (found.map fun way =>
        way.tail.foldl (fun path name => path.join ⟨name⟩) ⟨way.headD []⟩).map r.join =
          found.map fun way => way.foldl (fun path name => path.join ⟨name⟩) r := by
      rw [List.map_map]
      exact (List.map_congr_left (along r)).symm
    unfold filesBelow
    rw [whole, located, join_of_absolute _ r absolute, named]
    rfl
  exact ⟨_, below p same.left rfl leads,
    below q same.right same.names_eq.symm (same.locate_eq.trans leads)⟩

end FileSystem

namespace Analyzer

open FileSystem ReturnType

variable {fs : FileSystem} {p q : Path}

theorem ofPath_congr (same : p.components = q.components) :
    Dialect.ofPath? p = Dialect.ofPath? q := by
  unfold Dialect.ofPath? Path.extension? Path.fileName?
  rw [same]

theorem isTestFile_congr (atLeft : p.isAbsolute = true) (atRight : q.isAbsolute = true)
    (same : p.components = q.components) : Policy.isTestFile p = Policy.isTestFile q := by
  have proper := filter_isProper_congr atLeft atRight same
  have marked (mark : List Char) (clean : '/' ∉ mark) (long : 1 < mark.length) :
      mark <:+: p.chars ↔ mark <:+: q.chars := by
    rw [infix_iff_proper mark p.chars clean long, infix_iff_proper mark q.chars clean long, proper]
  rw [Bool.eq_iff_iff, Policy.isTestFile_iff, Policy.isTestFile_iff,
    marked _ (by decide) (by decide), marked _ (by decide) (by decide)]

section Respelled

variable (a : Analyzer) (same : fs.SameDirectory p q)

include same

theorem accepts_congr (w : Path) :
    { a with root := p }.accepts (p.join w) = { a with root := q }.accepts (q.join w) := by
  have components := components_join_congr same.left same.right same.components w
  have seen := seen_join_congr same.left same.right same.components w
  unfold accepts selects
  rw [ofPath_congr components]
  dsimp only
  rw [seen]

theorem queue_congr (ways : List Path) : ∃ queued : List Path,
    { a with root := p }.queue (ways.map p.join) = queued.map p.join ∧
      { a with root := q }.queue (ways.map q.join) = queued.map q.join := by
  refine ⟨(ways.filter ({ a with root := p }.accepts ∘ p.join)).mergeSort
    fun v w => ((p.join v).compare (p.join w)).isLE, ?_, ?_⟩
  · unfold queue
    rw [List.filter_map, List.map_mergeSort]
    exact fun _ _ _ _ => rfl
  · unfold queue
    have accepted : { a with root := q }.accepts ∘ q.join = { a with root := p }.accepts ∘ p.join :=
      funext fun w => (a.accepts_congr same w).symm
    rw [List.filter_map, accepted, List.map_mergeSort]
    intro v _ w _
    unfold Path.compare
    rw [components_join_congr same.left same.right same.components v,
      components_join_congr same.left same.right same.components w]

theorem checkFile_congr [Recovery] (configured : a.Configured)
    (lenient : a.failOnSyntaxErrors = false)
    (w : Path) : { a with root := p }.checkFile fs.readText (p.join w) =
      { a with root := q }.checkFile fs.readText (q.join w) := by
  have components := components_join_congr same.left same.right same.components w
  have seen := seen_join_congr same.left same.right same.components w
  have marks : Policy.isTestFile (p.join w) = Policy.isTestFile (q.join w) :=
    isTestFile_congr (by simp [isAbsolute_join, same.left]) (by simp [isAbsolute_join, same.right])
      components
  unfold checkFile
  rw [same.readText_join w]
  cases fs.readText (q.join w) with
  | error fault => simp only [Except.mapError, bind, Except.bind]
  | ok content =>
    simp only [Except.mapError, bind, Except.bind]
    unfold checkSource
    simp only [lenient, Bool.and_false, Bool.false_eq_true, if_false, Except.ok.injEq]
    rw [ofPath_congr components]
    unfold FileContext.ofFile
    rw [seen]
    exact a.flatMap_eq_of_marks configured _ _ _ content marks _

omit same in
theorem analyzeFiles_of_queue [Recovery] (a : Analyzer) (read : Path → Except FileFault (List Char))
    (found queued : List Path) (at_ : Path → Path) (ordered : a.queue found = queued.map at_) :
    a.analyzeFiles read found = (queued.mapM (a.checkFile read ∘ at_)).map fun findings =>
      (LintResult.mk findings.flatten queued.length).sorted := by
  unfold analyzeFiles
  dsimp only
  rw [ordered, List.mapM_map, List.length_map]
  rfl

/-- The result of a run does not depend on the spelling of its root. -/
theorem analyze_congr [Recovery] (configured : a.Configured)
    (lenient : a.failOnSyntaxErrors = false) :
    { a with root := p }.analyze fs = { a with root := q }.analyze fs := by
  -- both runs go over one list of ways, joined to the one spelling and to the other
  obtain ⟨ways, left, right⟩ := same.filesBelow_eq a.config.files.respectIgnoreFiles
  obtain ⟨queued, atLeft, atRight⟩ := a.queue_congr same ways
  have checked : { a with root := p }.checkFile fs.readText ∘ p.join =
      { a with root := q }.checkFile fs.readText ∘ q.join :=
    funext (a.checkFile_congr same configured lenient)
  have result : { a with root := p }.analyzeFiles fs.readText (ways.map p.join) =
      { a with root := q }.analyzeFiles fs.readText (ways.map q.join) := by
    rw [analyzeFiles_of_queue _ _ _ _ _ atLeft, analyzeFiles_of_queue _ _ _ _ _ atRight, checked]
  unfold analyze
  rw [left, right]
  exact result

end Respelled

end Analyzer

end ResultLint
