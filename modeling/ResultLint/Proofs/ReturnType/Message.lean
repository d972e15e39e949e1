import ResultLint.Proofs.ReturnType.Finding
import ResultLint.Proofs.ReturnType.Suppression
import ResultLint.Proofs.Text.Template

/-!
What a message says. A template is rendered in one pass, whatever the values are, so a message is
the wording of its fault with the name of the function and the type as they are written.
-/
namespace ResultLint.ReturnType

open Source Text.Template

/-- A diagnostic has a type just if it is about the type. -/
theorem diagnosis_cases (node : FunctionNode) (ctx : FileContext) :
    diagnosis node ctx = ⟨.missingReturnType, node.span, node.name, none⟩ ∨
      ∃ declared, node.returnType = some declared ∧
        diagnosis node ctx = ⟨.requireResultType, declared.span, node.name,
          some (String.ofList (ctx.text declared.typeSpan))⟩ := by
  unfold diagnosis
  cases annotated : node.returnType with
  | none => exact .inl rfl
  | some declared => exact .inr ⟨declared, rfl, rfl⟩

/-- The loop over a template always comes to its end, with slices between characters only, and to
the rendered text alone; without values that is the template. Of a slot what counts is the first
value of its name, which is put in as it is. So the message of a fault is its wording with the name
and the type in one place each, whatever they contain; and examining a function makes no other
diagnostics than these. -/
theorem messages_by_single_pass :
    (∀ values template out, Substitutes values template out ↔ out = render values template) ∧
    (∀ template, render [] template = template) ∧
    (∀ anchor name, Diagnostic.message ⟨.missingReturnType, anchor, name, none⟩ =
      "Function \"" ++ name ++
        "\" must have an explicit return type annotation that returns Result<T, E>") ∧
    (∀ anchor name type, Diagnostic.message ⟨.requireResultType, anchor, name, some type⟩ =
      "Function \"" ++ name ++ "\" must return Result<T, E> type. Current return type: " ++
        type) ∧
    (∀ (policy : Policy) (node : FunctionNode) (ctx : FileContext) (d : Diagnostic),
      policy.examine node ctx = some d →
        d = ⟨.missingReturnType, node.span, node.name, none⟩ ∨
          ∃ declared, node.returnType = some declared ∧
            d = ⟨.requireResultType, declared.span, node.name,
              some (String.ofList (ctx.text declared.typeSpan))⟩) := by
  refine ⟨substitutes_iff, render_nil, message_missing, message_unsuited, ?_⟩
  intro policy node ctx d found
  obtain ⟨-, -, -, rfl⟩ := (policy.examine_some_iff node ctx d).mp found
  exact diagnosis_cases node ctx

/-- The statement at a type that is written like a slot for the name, and at a template whose braces
overlap. -/
theorem messages_by_single_pass_braces :
    let node : FunctionNode :=
      ⟨.declaration (some "f"), .other, some ⟨⟨12, 22, 1, 13⟩, ⟨14, 22, 1, 15⟩⟩, true,
        ⟨0, 25, 1, 1⟩⟩
    let ctx : FileContext := .ofFile (.ofString "/p/a.ts")
      "function f(): \x7b\x7bname\x7d\x7d \x7b\x7d".toList (.ofString "/p")
    let d : Diagnostic := ⟨.requireResultType, ⟨12, 22, 1, 13⟩, "f",
      some "\x7b\x7bname\x7d\x7d"⟩
    Policy.default.examine node ctx = some d ∧
      d.message = "Function \"f\" must return Result<T, E> type. Current return type: " ++
        "\x7b\x7bname\x7d\x7d" ∧
      (∃ declared, node.returnType = some declared ∧
        d.currentType = some (String.ofList (ctx.text declared.typeSpan))) ∧
      Substitutes [("a".toList, "x".toList)] "\x7b\x7b\x7ba\x7d\x7d\x7d\x7b\x7b a \x7d\x7d".toList
        "\x7b\x7b\x7ba\x7d\x7d\x7dx".toList := by
  intro node ctx d
  obtain ⟨runs, -, -, unsuited, made⟩ := messages_by_single_pass
  have found : Policy.default.examine node ctx = some d := by decide +kernel
  refine ⟨found, unsuited _ "f" "\x7b\x7bname\x7d\x7d", ?_, (runs _ _ _).mpr (by decide)⟩
  rcases made .default node ctx d found with missing | ⟨declared, annotated, same⟩
  · exact absurd (congrArg Diagnostic.fault missing) (by decide)
  · exact ⟨declared, annotated, congrArg Diagnostic.currentType same⟩

end ResultLint.ReturnType
