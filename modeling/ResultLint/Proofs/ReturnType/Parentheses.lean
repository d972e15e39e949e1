import ResultLint.Proofs.Source.Parentheses
import ResultLint.ReturnType.Rule

/-!
Parentheses and the rule. A function that is moved into parentheses or out of them keeps its name,
and with it every exemption, so that the rule says of it what it said before.
-/
namespace ResultLint.ReturnType

open Source

section SameFunction

variable {source source' : List Char} {f f' : FunctionNode}
  (same : SameFunction source source' f f')

include same

theorem isEligible_same : isEligible f' = isEligible f := by
  rw [isEligible, isEligible, FunctionNode.isMethod, FunctionNode.isMethod,
    FunctionNode.methodKind?, FunctionNode.methodKind?, FunctionNode.key?, FunctionNode.key?,
    same.form, same.binding, same.hasBody]

/-- Of the same function a policy finds the same, only shown at another place. -/
theorem Policy.examine_same (policy : Policy) (path root : Path) :
    Option.Rel (fun d d' => d' = { d with anchor := d'.anchor })
      (policy.examine f (.ofFile path source root))
      (policy.examine f' (.ofFile path source' root)) := by
  unfold examine
  rw [isEligible_same same, same.name]
  have types := same.returnType
  split
  · exact .none
  · change Option.Rel _ (if policy.isExempt f.name path = true then _ else _)
      (if policy.isExempt f.name path = true then _ else _)
    split
    · exact .none
    · rcases rel_cases _ _ types with
        ⟨bare, bare'⟩ | ⟨d, d', declared, declared', text, reads, reads'⟩
      · rw [bare, bare']
        exact .some rfl
      · have raw : FileContext.text (.ofFile path source root) d.typeSpan = text := by
          rw [FileContext.text, FileContext.ofFile, reads, Option.getD_some]
        have raw' : FileContext.text (.ofFile path source' root) d'.typeSpan = text := by
          rw [FileContext.text, FileContext.ofFile, reads', Option.getD_some]
        rw [declared, declared']
        dsimp only
        rw [raw, raw']
        split
        · exact .none
        · exact .some rfl

/-- Of the same function the rule reports the same, only at another place, where the same directive
stands at it. -/
theorem inspect_same (policy : Policy) (severity : Severity) (path root : Path)
    (directive : Allowance.check source' f'.span.line ruleName =
      Allowance.check source f.span.line ruleName) :
    Option.Rel (fun v v' => v' = { v with location := v'.location })
      (inspect policy severity (.ofFile path source root) f)
      (inspect policy severity (.ofFile path source' root) f') := by
  have lookup :
      Allowance.check (FileContext.ofFile path source' root).content f'.span.line ruleName =
        Allowance.check (FileContext.ofFile path source root).content f.span.line ruleName :=
    directive
  unfold inspect
  rcases rel_cases _ _ (policy.examine_same same path root) with
    ⟨none, none'⟩ | ⟨d, d', found, found', alike⟩
  · rw [none, none']
    exact .none
  · rw [found, found']
    dsimp only
    rw [lookup]
    split
    · rw [alike]
      exact .some rfl
    · split
      · exact .some rfl
      · exact .none

end SameFunction

/-- Parentheses bind nothing and name nothing. Whatever their number, a function is bound as the
outermost of them is, or itself if there are none: to the declarator, property or assignment whose
value that is, by the name of a plain identifier or key, and to nothing else; a method definition
never binds. So a function keeps its form, its binding and its name when parentheses are put around
it or taken away, and every policy finds of it what it found before. -/
theorem parentheses_transparent (source : List Char) :
    (∀ node wrappers path, (∀ w ∈ wrappers, w.label.kind = .parenthesized) →
      (∀ parent ∈ path.head?, parent.label.kind ≠ .parenthesized) →
      ∀ b, Cursor.binding ⟨node, wrappers ++ path⟩ source = b ↔
        BoundBy source (Crumb.closeAll wrappers node) path b) ∧
    (∀ c : Cursor, c.binding source ≠ .methodDefinition) ∧
    ∀ source' c c', Reparenthesized source source' c c' →
      c'.binding source' = c.binding source ∧
      Option.Rel
        (fun f f' => SameFunction source source' f f' ∧ f'.name = f.name ∧
          ∀ (policy : Policy) path root,
            Option.Rel (fun d d' => d' = { d with anchor := d'.anchor })
              (policy.examine f (.ofFile path source root))
              (policy.examine f' (.ofFile path source' root)) ∧
            ∀ severity, Allowance.check source' f'.span.line ruleName =
                Allowance.check source f.span.line ruleName →
              Option.Rel (fun v v' => v' = { v with location := v'.location })
                (inspect policy severity (.ofFile path source root) f)
                (inspect policy severity (.ofFile path source' root) f'))
        (functionAt? source c) (functionAt? source' c') := by
  refine ⟨fun node wrappers path around outermost b =>
      Cursor.binding_parenthesized source node wrappers path around outermost b,
    fun c => c.binding_ne_methodDefinition source, ?_⟩
  intro source' c c' again
  refine ⟨binding_reparenthesized again, ?_⟩
  rcases rel_cases _ _ (functionAt?_reparenthesized again) with
    ⟨none, none'⟩ | ⟨f, f', found, found', same⟩
  · rw [none, none']
    exact .none
  · rw [found, found']
    exact .some ⟨same, same.name, fun policy path root => ⟨policy.examine_same same path root,
      fun severity directive => inspect_same same policy severity path root directive⟩⟩

/-- The statement at a function that is the value of a declarator, bare and in parentheses. -/
theorem parentheses_transparent_value :
    let source := "const g = function () {}".toList
    let source' := "const g = (function () {})".toList
    let node (role : Option Role) (start : Nat) : Tree :=
      .node ⟨.function, true, role, start, start + 14⟩ [
        .node ⟨.function, false, none, start, start + 8⟩ [],
        .node ⟨.other, true, none, start + 9, start + 11⟩ [],
        .node ⟨.block, true, some .body, start + 12, start + 14⟩ []]
    let name : Tree := .node ⟨.identifier, true, some .name, 6, 7⟩ []
    let c : Cursor :=
      ⟨node (some .value) 10, [⟨⟨.variableDeclarator, true, none, 6, 24⟩, [name], []⟩]⟩
    let c' : Cursor :=
      ⟨node none 11, [⟨⟨.parenthesized, true, some .value, 10, 26⟩, [], []⟩,
        ⟨⟨.variableDeclarator, true, none, 6, 26⟩, [name], []⟩]⟩
    (SourceFile.parse source .typescript).functions = (functionAt? source c).toList ∧
      (SourceFile.parse source' .typescript).functions = (functionAt? source' c').toList ∧
      Reparenthesized source source' c c' ∧ c.binding source = .declarator (some "g") ∧
      c'.binding source' = c.binding source := by
  intro source source' node name c c'
  have leaf (l l' : Label) (text : List Char) (kind : l'.kind = l.kind) (named : l'.named = l.named)
      (start : l'.start + 0 = l.start + 1) (stop : l'.stop + 0 = l.stop + 1)
      (reads : Text.slice? source l.start l.stop = some text)
      (reads' : Text.slice? source' l'.start l'.stop = some text) :
      Tree.Moved source source' 0 1 (.node l []) (.node l' []) :=
    .node l l' [] [] text kind named start stop reads reads' rfl .nil
  have moved : (node (some .value) 10).Moved source source' 0 1 (node none 11) := by
    refine .node _ _ _ _ "function () {}".toList rfl rfl rfl rfl (by decide) (by decide) rfl ?_
    refine .cons (leaf _ _ "function".toList rfl rfl rfl rfl (by decide) (by decide)) ?_
    refine .cons (leaf _ _ "()".toList rfl rfl rfl rfl (by decide) (by decide)) ?_
    exact .cons (leaf _ _ "{}".toList rfl rfl rfl rfl (by decide) (by decide)) .nil
  have again : Reparenthesized source source' c c' := by
    refine .moved _ _ [] [_] _ _ 0 1 moved (by simp) (by simp) (by simp) rfl ?_ (by decide)
    exact .under _ _ _ _ rfl (.cons ⟨rfl, rfl, by decide⟩ .nil) .nil
  obtain ⟨-, -, invariant⟩ := parentheses_transparent source
  exact ⟨by decide +kernel, by decide +kernel, again, by decide +kernel,
    (invariant source' c c' again).1⟩

end ResultLint.ReturnType
