import ResultLint.Proofs.ReturnType.Shape
import ResultLint.Proofs.ReturnType.Suppression
import ResultLint.Proofs.Text.Words

/-!
The normal form of types. It keeps the visible characters and has one space for each run of blanks
between them, so it is the same for two types just if they have the same words, and whether a type
is a result or passes a policy does not depend on how its blanks are written.
-/
namespace ResultLint.ReturnType

open Source Text

section Shapes

/-- A text between an opening and a closing that is not empty and has no closing angle bracket. -/
def Enclosed (opening closing : String) (type : List Char) : Prop :=
  ∃ inside, inside ≠ [] ∧ '>' ∉ inside ∧ type = opening.toList ++ inside ++ closing.toList

theorem isResult_iff_enclosed (type : List Char) :
    isResult type = true ↔
      Enclosed "Result<" ">" type ∨ Enclosed "Promise<Result<" ">>" type := by
  simp only [isResult, Shape.all, List.any_cons, List.any_nil, Bool.or_false, Bool.or_eq_true,
    Enclosed, ← Shape.whole_argument_iff]
  constructor
  · rintro (pair | one | pair | one)
    · exact .inl (Shape.whole_argument_of_arguments _ _ _ pair)
    · exact .inl one
    · exact .inr (Shape.whole_argument_of_arguments _ _ _ pair)
    · exact .inr one
  · rintro (one | one)
    · exact .inr (.inl one)
    · exact .inr (.inr (.inr one))

section Brackets

variable (opening closing : String) (type : List Char)
  (left : opening.toList ≠ [] ∧ ∀ c ∈ opening.toList, isBlank c = false)
  (right : closing.toList ≠ [] ∧ ∀ c ∈ closing.toList, isBlank c = false)

include left right

/-- Runs of blanks can be squeezed inside of brackets, and nowhere else in an enclosed text. -/
theorem enclosed_squeeze_iff :
    Enclosed opening closing (squeeze type) ↔ Enclosed opening closing type := by
  constructor
  · rintro ⟨inside, nonempty, unclosed, whole⟩
    rw [List.append_assoc, ← List.nil_append (opening.toList ++ _),
      squeeze_eq_mark_iff type [] _ _ left.2 left.1] at whole
    obtain ⟨front, rest, rfl, none, whole⟩ := whole
    rw [← List.append_nil closing.toList,
      squeeze_eq_mark_iff rest inside _ [] right.2 right.1] at whole
    obtain ⟨inner, behind, rfl, rfl, none'⟩ := whole
    rw [squeeze_eq_nil_iff] at none none'
    subst none none'
    refine ⟨inner, ?_, ?_, by simp⟩
    · rwa [Ne, squeeze_eq_nil_iff] at nonempty
    · rwa [mem_squeeze_iff _ _ (by decide)] at unclosed
  · rintro ⟨inside, nonempty, unclosed, rfl⟩
    refine ⟨squeeze inside, ?_, ?_, ?_⟩
    · rwa [Ne, squeeze_eq_nil_iff]
    · rwa [mem_squeeze_iff _ _ (by decide)]
    · have back := (squeeze_eq_mark_iff _ _ _ _ right.2 right.1).mpr
        ⟨inside, [], rfl, rfl, rfl⟩
      have front := (squeeze_eq_mark_iff _ _ _ _ left.2 left.1).mpr
        ⟨[], inside ++ (closing.toList ++ []), rfl, rfl, rfl⟩
      rw [back] at front
      simpa [squeeze] using front

theorem trim_enclosed (enclosed : Enclosed opening closing type) : trim type = type := by
  obtain ⟨inside, -, -, rfl⟩ := enclosed
  refine trim_of_visible _ (fun c first => left.2 c ?_) (fun c last => right.2 c ?_)
  · rw [List.append_assoc, List.head?_append_of_ne_nil _ left.1] at first
    exact List.mem_of_mem_head? first
  · rw [List.getLast?_append_of_ne_nil _ right.1] at last
    exact List.mem_of_mem_getLast? last

end Brackets

/-- The brackets of a result have no blanks. -/
theorem brackets_visible (signs : String)
    (listed : signs ∈ ["Result<", ">", "Promise<Result<", ">>"]) :
    signs.toList ≠ [] ∧ ∀ c ∈ signs.toList, isBlank c = false := by
  have checked : ∀ signs ∈ ["Result<", ">", "Promise<Result<", ">>"],
      signs.toList ≠ [] ∧ signs.toList.any isBlank = false := by decide +kernel
  obtain ⟨nonempty, visible⟩ := checked signs listed
  exact ⟨nonempty, visible_of_any _ visible⟩

theorem isResult_squeeze (type : List Char) : isResult (squeeze type) = isResult type := by
  rw [Bool.eq_iff_iff, isResult_iff_enclosed, isResult_iff_enclosed,
    enclosed_squeeze_iff "Result<" ">" type (brackets_visible _ (by simp))
      (brackets_visible _ (by simp)),
    enclosed_squeeze_iff "Promise<Result<" ">>" type (brackets_visible _ (by simp))
      (brackets_visible _ (by simp))]

theorem trim_of_isResult (type : List Char) (result : isResult type = true) : trim type = type := by
  rcases (isResult_iff_enclosed type).mp result with plain | promised
  · exact trim_enclosed "Result<" ">" type (brackets_visible _ (by simp))
      (brackets_visible _ (by simp)) plain
  · exact trim_enclosed "Promise<Result<" ">>" type (brackets_visible _ (by simp))
      (brackets_visible _ (by simp)) promised

theorem isResult_normalize_eq (type : List Char) :
    isResult (normalize type) = isResult (trim type) := by
  rw [normalize, collapse_eq_squeeze_trim, isResult_squeeze]

/-- A type in normal form is a result just if the trimmed type is one: to write the runs of blanks
in it as single spaces, or in any other way, neither makes a result of it nor keeps it from being
one. So a type that is a result as it is written is one in normal form. -/
theorem isResult_normalize :
    (∀ type, isResult (normalize type) = isResult (trim type)) ∧
    (∀ type, isResult (squeeze type) = isResult type) ∧
    (∀ type type', words type = words type' → isResult (trim type) = isResult (trim type')) ∧
    ∀ type, isResult type = true → isResult (normalize type) = true := by
  refine ⟨isResult_normalize_eq, isResult_squeeze, ?_, ?_⟩
  · intro type type' same
    rw [← isResult_normalize_eq, ← isResult_normalize_eq, normalize, normalize,
      (collapse_eq_iff type type').mpr same]
  · intro type result
    rw [isResult_normalize_eq, trim_of_isResult type result, result]

/-- The statement at types with blanks of many kinds next to the brackets, and at ones with a blank
in the opening or in the closing. -/
theorem isResult_normalize_many_blanks :
    let type := "Promise<Result<\n\tUser ,\u2003\u3000Error\r\n>>".toList
    let type' := "  Promise<Result< User , Error >>\n".toList
    isResult type = true ∧ isResult (normalize type) = true ∧ words type = words type' ∧
      isResult (trim type') = isResult (trim type) ∧
      isResult (normalize "Result <T>".toList) = false ∧
      isResult (normalize "Promise<Result<T>\n>".toList) = false := by
  intro type type'
  obtain ⟨trimmed, -, alike, kept⟩ := isResult_normalize
  have result : isResult type = true := by decide +kernel
  have same : words type = words type' := by decide +kernel
  refine ⟨result, kept type result, same, (alike type type' same).symm, ?_, ?_⟩
  · rw [trimmed]
    decide +kernel
  · rw [trimmed]
    decide +kernel

end Shapes

section Canonical

/-- The normal form of a type, said of its characters: those that are visible stand in it in their
order, with one space for each run of blanks between two of them and with no other blank. -/
structure NormalOf (type normal : List Char) : Prop where
  visible : (normal.filter fun c => !isBlank c) = type.filter fun c => !isBlank c
  first : ∀ c, normal.head? = some c → isBlank c = false
  last : ∀ c, normal.getLast? = some c → isBlank c = false
  spaces : ∀ c ∈ normal, isBlank c = true → c = ' '
  single : normal.IsChain fun a b => isBlank a = false ∨ isBlank b = false
  runs : normal = (runs (trim type)).flatMap tighten

theorem normalOf_normalize (type : List Char) : NormalOf type (normalize type) where
  visible := filter_collapse type
  first := visible_of_head_collapse type
  last := visible_of_getLast_collapse type
  spaces := by
    intro c member blank
    rw [normalize, collapse_eq_squeeze_trim] at member
    exact eq_space_of_mem_squeeze (trim type) c member blank
  single := by
    rw [normalize, collapse_eq_squeeze_trim]
    exact isChain_squeeze (trim type)
  runs := by rw [normalize, collapse_eq_squeeze_trim, squeeze_eq_runs]

theorem normalOf_iff (type normal : List Char) :
    NormalOf type normal ↔ normal = normalize type := by
  constructor
  · intro form
    rw [form.runs, ← (normalOf_normalize type).runs]
  · rintro rfl
    exact normalOf_normalize type

end Canonical

section Verdicts

/-- A policy says the same of a function whose annotation has other blanks. -/
theorem Policy.examine_respaced (policy : Policy) (node : FunctionNode) (span : Span)
    (declared declared' : DeclaredType) (ctx ctx' : FileContext) (path : ctx'.path = ctx.path)
    (same : words (ctx'.text declared'.typeSpan) = words (ctx.text declared.typeSpan)) :
    Option.Rel
      (fun d d' => d' = { d with
        anchor := declared'.span
        currentType := some (String.ofList (ctx'.text declared'.typeSpan)) })
      (policy.examine { node with returnType := some declared } ctx)
      (policy.examine { node with returnType := some declared', span := span } ctx') := by
  have form : normalize (ctx'.text declared'.typeSpan) = normalize (ctx.text declared.typeSpan) :=
    (collapse_eq_iff _ _).mpr same
  have eligible : isEligible { node with returnType := some declared', span := span } =
      isEligible { node with returnType := some declared } := rfl
  have name : FunctionNode.name { node with returnType := some declared', span := span } =
      FunctionNode.name { node with returnType := some declared } := rfl
  unfold examine
  rw [eligible, name, path]
  dsimp only
  rw [form]
  split
  · exact .none
  · split
    · exact .none
    · split
      · exact .none
      · exact .some rfl

/-- Entries with the same words are compiled to the same allowed type. -/
theorem AllowedType.ofEntry_respaced (entry entry' : String)
    (same : words entry.toList = words entry'.toList) : ofEntry entry = ofEntry entry' := by
  have form : normalize entry.toList = normalize entry'.toList := (collapse_eq_iff _ _).mpr same
  rw [ofEntry, ofEntry, form]

theorem Policy.compile_respaced (options : Options) (entries entries' : List String)
    (same : List.Forall₂ (fun e e' : String => words e.toList = words e'.toList)
      entries entries') :
    compile { options with allowedReturnTypes := some entries } =
      compile { options with allowedReturnTypes := some entries' } := by
  have alike : entries.map AllowedType.ofEntry = entries'.map AllowedType.ofEntry := by
    induction same with
    | nil => rfl
    | cons first _ ih =>
      rw [List.map_cons, List.map_cons, ih, AllowedType.ofEntry_respaced _ _ first]
  have parts (patterns : List Regex) : ofParts entries options.exemptList patterns =
      ofParts entries' options.exemptList patterns := by
    rw [ofParts, ofParts, alike]
  rw [compile_eq, compile_eq]
  exact congrArg (fun f => Except.map f _) (funext parts)

end Verdicts

/-- The normal form of a type is known by its characters, is its own normal form, and is the same
for two types just if they have the same words, which are the pieces between their blanks. So
annotations that differ only in how their runs of blanks are written get the same verdict from every
policy, shown with the text of each; and entries that differ in nothing else make the same policy. -/
theorem normalize_canonical :
    (∀ type normal, NormalOf type normal ↔ normal = normalize type) ∧
    (∀ type, normalize (normalize type) = normalize type) ∧
    (∀ type type', normalize type = normalize type' ↔ words type = words type') ∧
    (∀ type, words type = (type.splitOnP isBlank).filter fun piece => !piece.isEmpty) ∧
    (∀ (policy : Policy) (node : FunctionNode) (span : Span) (declared declared' : DeclaredType)
      (ctx ctx' : FileContext), ctx'.path = ctx.path →
      words (ctx'.text declared'.typeSpan) = words (ctx.text declared.typeSpan) →
      Option.Rel
        (fun d d' => d' = { d with
          anchor := declared'.span
          currentType := some (String.ofList (ctx'.text declared'.typeSpan)) })
        (policy.examine { node with returnType := some declared } ctx)
        (policy.examine { node with returnType := some declared', span := span } ctx')) ∧
    ∀ (options : Options) (entries entries' : List String),
      List.Forall₂ (fun e e' : String => words e.toList = words e'.toList) entries entries' →
      Policy.compile { options with allowedReturnTypes := some entries } =
        Policy.compile { options with allowedReturnTypes := some entries' } :=
  ⟨normalOf_iff, collapse_collapse, collapse_eq_iff, words_eq_splitOnP, Policy.examine_respaced,
    Policy.compile_respaced⟩

/-- The statement at an annotation on two lines, of which one policy complains in both spellings,
and at an entry that is written in two ways. -/
theorem normalize_canonical_two_lines :
    let source := "function f(): Map<string, number> {}".toList
    let source' := "function f():\n\tMap<string,\u00A0\n number> {}".toList
    let declared : DeclaredType := ⟨⟨12, 33, 1, 13⟩, ⟨14, 33, 1, 15⟩⟩
    let declared' : DeclaredType := ⟨⟨12, 37, 1, 13⟩, ⟨15, 37, 2, 2⟩⟩
    let ctx : FileContext := .ofFile (.ofString "/p/a.ts") source (.ofString "/p")
    let ctx' : FileContext := .ofFile (.ofString "/p/a.ts") source' (.ofString "/p")
    let node : FunctionNode := ⟨.declaration (some "f"), .other, none, true, ⟨0, 36, 1, 1⟩⟩
    Policy.default.examine { node with returnType := some declared } ctx =
      some ⟨.requireResultType, declared.span, "f", some "Map<string, number>"⟩ ∧
    Policy.default.examine { node with returnType := some declared', span := ⟨0, 40, 1, 1⟩ } ctx' =
      some ⟨.requireResultType, declared'.span, "f", some "Map<string,\u00A0\n number>"⟩ ∧
    normalize (ctx'.text declared'.typeSpan) = "Map<string, number>".toList ∧
    Policy.compile ⟨some ["Map<string, number>"], none, none⟩ =
      Policy.compile ⟨some [" Map<string,\tnumber>\r\n"], none, none⟩ := by
  intro source source' declared declared' ctx ctx' node
  obtain ⟨-, -, -, -, verdict, compiled⟩ := normalize_canonical
  have same : words (ctx'.text declared'.typeSpan) = words (ctx.text declared.typeSpan) := by
    decide +kernel
  have found : Policy.default.examine { node with returnType := some declared } ctx =
      some ⟨.requireResultType, declared.span, "f", some "Map<string, number>"⟩ := by
    decide +kernel
  have entries := compiled ⟨none, none, none⟩ ["Map<string, number>"]
    [" Map<string,\tnumber>\r\n"] (.cons (by decide +kernel) .nil)
  refine ⟨found, ?_, by decide +kernel, entries⟩
  have path : ctx'.path = ctx.path := by dsimp only [ctx, ctx', FileContext.ofFile]
  have alike := verdict .default node ⟨0, 40, 1, 1⟩ declared declared' ctx ctx' path same
  rw [found] at alike
  have raw : String.ofList (ctx'.text declared'.typeSpan) = "Map<string,\u00A0\n number>" := by
    decide +kernel
  rw [raw] at alike
  generalize Policy.default.examine _ ctx' = verdict' at alike
  cases alike with
  | some same => rw [same]

end ResultLint.ReturnType
