import ResultLint.Proofs.ReturnType.Finding
import ResultLint.Proofs.ReturnType.Suppression
import ResultLint.Proofs.Source.Extent

/-!
Where findings are. The bytes, the line and the column of a finding tell the same place of the
source, and the line by which a function's directive is looked up is the one that the function
begins on.
-/
namespace ResultLint.ReturnType

open Source Text

/-- What is reported at a function lies at the function or at its annotation. -/
theorem inspect_location (policy : Policy) (severity : Severity) (ctx : FileContext)
    (node : FunctionNode) (v : Violation) (found : inspect policy severity ctx node = some v) :
    ∃ span, v.location = .ofSpan ctx.relativePath span ∧
      (span = node.span ∨ ∃ declared, node.returnType = some declared ∧ span = declared.span) := by
  unfold inspect at found
  split at found
  · cases found
  · next d examined =>
    have anchored : d.anchor = node.span ∨
        ∃ declared, node.returnType = some declared ∧ d.anchor = declared.span := by
      obtain ⟨_, _, _, rfl⟩ := (policy.examine_some_iff node ctx d).mp examined
      unfold diagnosis
      cases node.returnType with
      | none => exact .inl rfl
      | some declared => exact .inr ⟨declared, rfl, rfl⟩
    split at found
    · cases found
      exact ⟨d.anchor, rfl, anchored⟩
    · split at found
      · cases found
        exact ⟨node.span, rfl, .inl rfl⟩
      · cases found

/-- In a source without syntax errors every finding ends inside the source, at the line and column
that its first byte is on; and the line of every function, by which its directive is looked up, is
the one that holds the function's first byte. -/
theorem places_agree [Recovery] (policy : Policy) (severity : Severity) (path root : Path)
    (source : List Char) (dialect : Dialect)
    (intact : (SourceFile.parse source dialect).hasErrors = false) :
    let file := SourceFile.parse source dialect
    (∀ v ∈ (rule policy severity).check (.ofFile path source root) file,
      v.location.offset + v.location.length ≤ byteLength source ∧
        IsPlace source v.location.offset v.location.line v.location.column) ∧
    ∀ f ∈ file.functions, ∃ line, line? source f.span.line = some line ∧
      HoldsLine source f.span.start line := by
  intro file
  obtain ⟨t, read, same⟩ := SourceFile.exists_tree source dialect intact
  have pieces (f : FunctionNode) (lowered : f ∈ file.functions) :=
    functions_ofPiece source dialect t read f (same ▸ lowered)
  constructor
  · intro v reported
    rw [rule_check_eq_filterMap] at reported
    obtain ⟨f, lowered, found⟩ := List.mem_filterMap.mp reported
    obtain ⟨span, located, at_⟩ := inspect_location policy severity _ f v found
    obtain ⟨ofFunction, ofAnnotation⟩ := pieces f lowered
    have covers : Span.OfPiece source span := by
      rcases at_ with rfl | ⟨declared, annotated, rfl⟩
      · exact ofFunction
      · exact ofAnnotation declared annotated
    rw [located]
    exact ⟨covers.length_le, covers.isPlace⟩
  · intro f lowered
    exact (pieces f lowered).1.line

/-- The statement behind a byte order mark, a letter of two bytes and a carriage return. -/
theorem places_agree_crlf :
    let source := "\uFEFF// \u00FC\r\nfunction f(): number {}\r\n".toList
    let ctx : FileContext := .ofFile (.ofString "/p/a.ts") source (.ofString "/p")
    let file := SourceFile.parse source .typescript
    file.hasErrors = false ∧
    (∃ v ∈ (rule .default .error).check ctx file,
      v.location = ⟨.ofString "a.ts", 2, 13, 22, 8⟩ ∧
        v.location.offset + v.location.length ≤ byteLength source ∧
        IsPlace source v.location.offset v.location.line v.location.column) ∧
    ∃ f ∈ file.functions, (f.span.start, f.span.line) = (10, 2) ∧
      line? source f.span.line = some "function f(): number {}".toList ∧
      HoldsLine source f.span.start "function f(): number {}".toList := by
  intro source ctx file
  have intact : file.hasErrors = false := by
    decide +kernel
  obtain ⟨placed, onLine⟩ := places_agree .default .error (.ofString "/p/a.ts") (.ofString "/p")
    source .typescript intact
  refine ⟨intact, ?_, ?_⟩
  · obtain ⟨v, reported, located⟩ : ∃ v ∈ (rule .default .error).check ctx file,
        v.location = ⟨.ofString "a.ts", 2, 13, 22, 8⟩ := by
      decide +kernel
    exact ⟨v, reported, located, placed v reported⟩
  · obtain ⟨f, lowered, start, found⟩ : ∃ f ∈ file.functions,
        (f.span.start, f.span.line) = (10, 2) ∧
          line? source f.span.line = some "function f(): number {}".toList := by
      decide +kernel
    obtain ⟨line, same, holds⟩ := onLine f lowered
    rw [found, Option.some.injEq] at same
    subst same
    exact ⟨f, lowered, start, found, holds⟩

end ResultLint.ReturnType
