import ResultLint.Proofs.Analyzer.Result
import ResultLint.Proofs.Walk

/-!
How a run over many files fails. Of all files that cannot be read, or have syntax errors where
these are to fail the run, the first one in the order of paths ends it, in whatever order the files
are found; nothing is then said of the others.
-/
namespace ResultLint

namespace Analyzer

section Failures

variable [Recovery] (a : Analyzer) (read : Path → Except FileFault (List Char))
  (found : List Path)

/-- What can be wrong with a file that is looked at. -/
inductive Fails : Path → AnalysisError → Prop
  | unreadable (p : Path) (fault : FileFault) (unread : read p = .error fault) :
      Fails p (.unreadable fault)
  | syntaxErrors (p : Path) (content : List Char) (text : read p = .ok content)
      (strict : a.failOnSyntaxErrors = true) (broken : (parsed p content).hasErrors = true) :
      Fails p (.syntaxErrors p)

/-- A file that fails, with no accepted file in front of it that does. -/
structure FailsFirst (p : Path) (e : AnalysisError) : Prop where
  member : p ∈ found
  accepted : a.accepts p = true
  fails : a.Fails read p e
  before : ∀ q ∈ found, a.accepts q = true → q.compare p = .lt → ¬ ∃ e, a.Fails read q e

variable {a read found}

theorem checkFile_error_iff (p : Path) (e : AnalysisError) :
    a.checkFile read p = .error e ↔ a.Fails read p e := by
  unfold checkFile
  rw [bind_error_iff, mapError_error_iff]
  simp only [mapError_ok_iff]
  constructor
  · rintro (⟨fault, unread, rfl⟩ | ⟨content, text, stopped⟩)
    · exact .unreadable p fault unread
    · unfold checkSource at stopped
      dsimp only at stopped
      split at stopped
      · next errors =>
        rw [Bool.and_eq_true] at errors
        cases stopped
        exact .syntaxErrors p content text errors.2 errors.1
      · cases stopped
  · intro fails
    cases fails with
    | unreadable fault unread => exact .inl ⟨fault, unread, rfl⟩
    | syntaxErrors content text strict broken =>
      refine .inr ⟨content, text, ?_⟩
      unfold checkSource
      exact if_pos (by rw [strict, Bool.and_true]; exact broken)

theorem fails_iff (p : Path) :
    (∃ e, a.Fails read p e) ↔ (∃ fault, read p = .error fault) ∨
      a.failOnSyntaxErrors = true ∧
        ∃ content, read p = .ok content ∧ (parsed p content).hasErrors = true := by
  constructor
  · rintro ⟨_, ⟨fault, unread⟩ | ⟨content, text, strict, broken⟩⟩
    · exact .inl ⟨fault, unread⟩
    · exact .inr ⟨strict, content, text, broken⟩
  · rintro (⟨fault, unread⟩ | ⟨strict, content, text, broken⟩)
    · exact ⟨_, .unreadable p fault unread⟩
    · exact ⟨_, .syntaxErrors p content text strict broken⟩

/-- A file that does not fail is checked. -/
theorem checkFile_ok_iff (p : Path) :
    (∃ own, a.checkFile read p = .ok own) ↔ ¬ ∃ e, a.Fails read p e := by
  simp only [← checkFile_error_iff]
  cases a.checkFile read p <;> simp

theorem analyzeFiles_error_iff (e : AnalysisError) :
    a.analyzeFiles read found = .error e ↔ FirstFault (a.checkFile read) (a.queue found) e := by
  unfold analyzeFiles
  rw [bind_error_iff, mapM_error_iff]
  simp [pure_error_iff]

/-- A run ends at the accepted file that fails first in the order of paths. -/
theorem analyzeFiles_error_iff_failsFirst (apart : a.Apart found) (e : AnalysisError) :
    a.analyzeFiles read found = .error e ↔ ∃ p, a.FailsFirst read found p e := by
  rw [analyzeFiles_error_iff, firstFault_iff_of_sorted _ _ (queue_sorted a found)]
  · simp only [mem_queue_iff, checkFile_error_iff, checkFile_ok_iff]
    constructor
    · rintro ⟨p, ⟨member, accepted⟩, fails, before⟩
      exact ⟨p, member, accepted, fails, fun q other taken => before q ⟨other, taken⟩⟩
    · rintro ⟨p, first⟩
      exact ⟨p, ⟨first.member, first.accepted⟩, first.fails,
        fun q queued => first.before q queued.1 queued.2⟩
  · intro p first q second tie
    rw [mem_queue_iff] at first second
    exact apart p first.1 q second.1 first.2 second.2 ((Path.compare_eq_iff p q).mp tie)

/-- A run fails as soon as some accepted file does, wherever that file stands. -/
theorem analyzeFiles_fails_iff :
    (∃ e, a.analyzeFiles read found = .error e) ↔
      ∃ p ∈ found, a.accepts p = true ∧ ∃ e, a.Fails read p e := by
  have each : (∃ result, a.analyzeFiles read found = .ok result) ↔
      ∀ p ∈ a.queue found, ∃ own, a.checkFile read p = .ok own := by
    rw [← exists_forall₂_iff]
    simp only [← mapM_ok_iff]
    unfold analyzeFiles
    simp only [bind_ok_iff, pure_ok_iff]
    exact ⟨fun ⟨_, each, whole, _⟩ => ⟨each, whole⟩, fun ⟨each, whole⟩ => ⟨_, each, whole, rfl⟩⟩
  have decided : (∃ e, a.analyzeFiles read found = .error e) ↔
      ¬ ∃ result, a.analyzeFiles read found = .ok result := by
    cases a.analyzeFiles read found <;> simp
  rw [decided, each]
  simp only [checkFile_ok_iff, mem_queue_iff, and_imp]
  push Not
  rfl

/-- Whether syntax errors fail a run makes no difference where there are none. -/
theorem analyzeFiles_of_clean (clean : ∀ p ∈ found, a.accepts p = true → ∀ content,
    read p = .ok content → (parsed p content).hasErrors = false) (strict : Bool) :
    { a with failOnSyntaxErrors := strict }.analyzeFiles read found =
      a.analyzeFiles read found := by
  have each : (a.queue found).mapM ({ a with failOnSyntaxErrors := strict }.checkFile read) =
      (a.queue found).mapM (a.checkFile read) := by
    apply mapM_congr
    intro p queued
    obtain ⟨member, accepted⟩ := (mem_queue_iff p).mp queued
    unfold checkFile
    cases text : read p with
    | error fault => rfl
    | ok content =>
      have intact := clean p member accepted content text
      have left := checkSource_ok a p content (.inl intact)
      exact (checkSource_ok { a with failOnSyntaxErrors := strict } p content (.inl intact)).trans
        left.symm
  unfold analyzeFiles
  dsimp only
  rw [← each]
  rfl

end Failures

/-- A run over files that were found fails exactly if an accepted one cannot be read, or has syntax
errors and these are to fail the run. In whatever order the files are found, it ends with what is
wrong with the first such file in the order of paths. Syntax errors never fail a run that goes on in
spite of them, and where there are none it makes no difference whether they would. A file can be
read if its bytes are those of a text, and a walk finds each file under one path only. -/
theorem analyzeFiles_ends_at_first_failure [Recovery] (a : Analyzer)
    (read : Path → Except FileFault (List Char)) (found : List Path) :
    ((∃ e, a.analyzeFiles read found = .error e) ↔
      ∃ p ∈ found, a.accepts p = true ∧
        ((∃ fault, read p = .error fault) ∨
          a.failOnSyntaxErrors = true ∧
            ∃ content, read p = .ok content ∧ (parsed p content).hasErrors = true)) ∧
    (a.Apart found → ∀ walk : List Path, walk.Perm found →
      a.analyzeFiles read walk = a.analyzeFiles read found ∧
      ∀ e, a.analyzeFiles read walk = .error e ↔ ∃ p, a.FailsFirst read found p e) ∧
    (a.failOnSyntaxErrors = false → ∀ p, a.analyzeFiles read found ≠ .error (.syntaxErrors p)) ∧
    ((∀ p ∈ found, a.accepts p = true → ∀ content, read p = .ok content →
        (parsed p content).hasErrors = false) →
      ∀ strict, { a with failOnSyntaxErrors := strict }.analyzeFiles read found =
        a.analyzeFiles read found) ∧
    ∀ fs : FileSystem, fs.readText = read →
      fs.filesBelow a.config.files.respectIgnoreFiles a.root = .ok found →
        a.analyze fs = a.analyzeFiles read found ∧
        (∀ p, (∃ fault, read p = .error fault) ↔
          ¬ ∃ content, fs.readBytes p = .ok (Text.encode content)) ∧
        (fs.top.WellNamed → a.Apart found) := by
  refine ⟨?_, ?_, ?_, analyzeFiles_of_clean, ?_⟩
  · rw [analyzeFiles_fails_iff]
    simp only [fails_iff]
  · intro apart walk perm
    have same : a.analyzeFiles read walk = a.analyzeFiles read found := by
      unfold analyzeFiles
      rw [apart.queue_eq walk perm]
    refine ⟨same, fun e => ?_⟩
    rw [same, analyzeFiles_error_iff_failsFirst apart]
  · intro lenient p ended
    obtain ⟨_, q, _, _, _, broken⟩ := (analyzeFiles_error_iff _).mp ended
    cases (checkFile_error_iff q _).mp broken with
    | syntaxErrors content text strict _ =>
      rw [lenient] at strict
      cases strict
  · rintro fs rfl walk
    refine ⟨?_, fun p => ?_, fun named p first q second _ _ =>
      fs.filesBelow_apart _ a.root named found walk p first q second⟩
    · unfold analyze
      rw [walk]
      rfl
    · simp only [← fs.readText_ok_iff]
      cases fs.readText p <;> simp

/-- Of three files the last one in the order of paths is no text and the one in the middle has
syntax errors. -/
theorem analyzeFiles_ends_at_first_failure_three_files :
    let a (strict : Bool) : Analyzer :=
      ⟨.ofString "/p", [ReturnType.rule .default .error], [], [], .default, strict⟩
    let read (p : Path) : Except FileFault (List Char) :=
      if p = .ofString "/p/c.ts" then .error .notText
      else if p = .ofString "/p/b.ts" then .ok "function \x7b".toList
      else .ok "function f() {}".toList
    let found : List Path := [.ofString "/p/c.ts", .ofString "/p/b.ts", .ofString "/p/a.ts"]
    (∀ strict, (a strict).Apart found) ∧
      (a true).analyzeFiles read found.reverse = .error (.syntaxErrors (.ofString "/p/b.ts")) ∧
      (a false).analyzeFiles read found.reverse = .error (.unreadable .notText) := by
  intro a read found
  have apart (strict : Bool) : (a strict).Apart found := by
    have names : ∀ p ∈ found, ∀ q ∈ found, p.components = q.components → p = q := by
      decide +kernel
    exact fun p first q second _ _ => names p first q second
  have sound : (parsed (.ofString "/p/a.ts") "function f() {}".toList).hasErrors = false := by
    decide +kernel
  have broken : (parsed (.ofString "/p/b.ts") "function \x7b".toList).hasErrors = true := by
    decide +kernel
  have first (strict : Bool) : ¬ ∃ e, (a strict).Fails read (.ofString "/p/a.ts") e := by
    rw [fails_iff]
    rintro (⟨fault, unread⟩ | ⟨_, content, text, errors⟩)
    · cases unread
    · cases text
      rw [sound] at errors
      cases errors
  have second : ¬ ∃ e, (a false).Fails read (.ofString "/p/b.ts") e := by
    rw [fails_iff]
    rintro (⟨fault, unread⟩ | ⟨strict, _⟩)
    · cases unread
    · cases strict
  have ends (strict : Bool) := ((analyzeFiles_ends_at_first_failure (a strict) read found).2.1
    (apart strict) found.reverse found.reverse_perm).2
  refine ⟨apart, (ends true _).mpr ⟨.ofString "/p/b.ts", by simp [found], by decide +kernel,
    .syntaxErrors _ _ rfl rfl broken, ?_⟩, (ends false _).mpr ⟨.ofString "/p/c.ts", by simp [found],
    by decide +kernel, .unreadable _ _ rfl, ?_⟩⟩
  · intro q member _ below
    simp only [found, List.mem_cons, List.not_mem_nil, or_false] at member
    rcases member with rfl | rfl | rfl
    · exact absurd below (by decide)
    · exact absurd below (by decide)
    · exact first true
  · intro q member _ below
    simp only [found, List.mem_cons, List.not_mem_nil, or_false] at member
    rcases member with rfl | rfl | rfl
    · exact absurd below (by decide)
    · exact second
    · exact first false

end Analyzer

end ResultLint
