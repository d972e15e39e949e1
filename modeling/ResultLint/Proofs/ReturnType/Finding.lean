import ResultLint.Proofs.ReturnType.Policy
import ResultLint.ReturnType.Rule

/-!
What the rule reports at a function. `Finding` lists the outcomes without following the order in
which the rule decides: a function is skipped, excused or conforming, or there is a complaint
about it, and only then an allow directive counts. The rule reports exactly the finding of each
function, in the order of the functions.
-/
namespace ResultLint.ReturnType

open Source

/-- Functions that the rule does not look at. -/
inductive Unchecked (node : FunctionNode) : Prop
  | noBody (h : node.hasBody = false)
  | special (key : Option String) (kind : MethodKind) (h : node.form = .method key kind)
      (unlike : kind = .constructor ∨ kind = .get ∨ kind = .set)
  | constructorKey (kind : MethodKind) (h : node.form = .method (some "constructor") kind)
  | wrapped (h : node.binding = .methodDefinition)

/-- Where a function may have its name from, the first one that is there counting. -/
def nameSources (node : FunctionNode) : List (Option String) := [
  match node.form with
  | .declaration id | .expression id | .arrow id => id
  | .method _ _ => none,
  match node.form with
  | .method key _ => key
  | _ => none,
  match node.binding with
  | .declarator name => name
  | _ => none,
  match node.binding with
  | .property key => key
  | _ => none,
  match node.binding with
  | .assignment target => target
  | _ => none]

def displayName (node : FunctionNode) : String :=
  ((nameSources node).findSome? id).getD "anonymous"

/-- What is wrong with a function: the fault, the place it is shown at, and the message. -/
inductive Complaint (options : Options) (ctx : FileContext) (node : FunctionNode) :
    Fault → Span → String → Prop
  | missing (checked : ¬ Unchecked node)
      (strict : ¬ Excused options (displayName node) ctx.path) (bare : node.returnType = none) :
      Complaint options ctx node .missingReturnType node.span
        ("Function \"" ++ displayName node ++
          "\" must have an explicit return type annotation that returns Result<T, E>")
  | unsuited (declared : DeclaredType) (checked : ¬ Unchecked node)
      (strict : ¬ Excused options (displayName node) ctx.path)
      (annotated : node.returnType = some declared)
      (noResult : isResult (normalize (ctx.text declared.typeSpan)) = false)
      (refused : ¬ Allows options (normalize (ctx.text declared.typeSpan))) :
      Complaint options ctx node .requireResultType declared.span
        ("Function \"" ++ displayName node ++
          "\" must return Result<T, E> type. Current return type: " ++
          String.ofList (ctx.text declared.typeSpan))

/-- What is reported at a function under options and a severity. -/
inductive Finding (options : Options) (severity : Severity) (ctx : FileContext)
    (node : FunctionNode) : Option Violation → Prop
  | unchecked (h : Unchecked node) : Finding options severity ctx node none
  | excused (h : Excused options (displayName node) ctx.path) :
      Finding options severity ctx node none
  | conforming (declared : DeclaredType) (annotated : node.returnType = some declared)
      (h : isResult (normalize (ctx.text declared.typeSpan)) = true ∨
        Allows options (normalize (ctx.text declared.typeSpan))) :
      Finding options severity ctx node none
  | allowed (fault : Fault) (anchor : Span) (message : String) (reason : Option String)
      (complaint : Complaint options ctx node fault anchor message)
      (directive : Allowance.check ctx.content node.span.line "require-result-return-type" =
        .allowed reason)
      (enough : severity = .error → reason ≠ none) : Finding options severity ctx node none
  | unreasoned (fault : Fault) (anchor : Span) (message : String)
      (complaint : Complaint options ctx node fault anchor message)
      (directive : Allowance.check ctx.content node.span.line "require-result-return-type" =
        .allowed none)
      (wanted : severity = .error) :
      Finding options severity ctx node (some {
        code := "RW001"
        rule := "require-result-return-type"
        severity := .warning
        location := .ofSpan ctx.relativePath node.span
        message :=
          "Allow directive for 'require-result-return-type' is missing required reason"
        messageId := none
        suggestion := some "Add reason=\"...\" to explain why this function may skip Result"
        pinned := true })
  | reported (fault : Fault) (anchor : Span) (message : String)
      (complaint : Complaint options ctx node fault anchor message)
      (directive : Allowance.check ctx.content node.span.line "require-result-return-type" =
        .denied) :
      Finding options severity ctx node (some {
        code := "RW001"
        rule := "require-result-return-type"
        severity := severity
        location := .ofSpan ctx.relativePath anchor
        message := message
        messageId := some fault.id
        suggestion := some fault.suggestion
        pinned := false })

theorem isEligible_iff (node : FunctionNode) : isEligible node = true ↔ ¬ Unchecked node := by
  constructor
  · intro eligible skipped
    unfold isEligible at eligible
    cases skipped with
    | noBody h => simp [h] at eligible
    | special key kind h unlike =>
      rcases unlike with rfl | rfl | rfl <;>
        simp [FunctionNode.methodKind?, h] at eligible
    | constructorKey kind h =>
      simp [FunctionNode.isMethod, FunctionNode.methodKind?, FunctionNode.key?, h] at eligible
    | wrapped h => simp [h] at eligible
  · intro checked
    have body : node.hasBody = true := by
      by_contra none
      exact checked (.noBody (by simpa using none))
    have free : node.binding ≠ .methodDefinition := fun h => checked (.wrapped h)
    unfold isEligible
    cases form : node.form with
    | method key kind =>
      have plain : kind = .method := by
        cases kind with
        | method => rfl
        | constructor => exact absurd (.special key _ form (by simp)) checked
        | get => exact absurd (.special key _ form (by simp)) checked
        | set => exact absurd (.special key _ form (by simp)) checked
      have named : key ≠ some "constructor" := by
        rintro rfl
        exact checked (.constructorKey kind form)
      simp [FunctionNode.isMethod, FunctionNode.methodKind?, FunctionNode.key?, form, plain, named,
        body, free]
    | _ => simp [FunctionNode.isMethod, FunctionNode.methodKind?, form, body, free]

private theorem first_cons {α : Type} (a : Option α) (rest : List (Option α)) :
    (a :: rest).findSome? id = (a <|> rest.findSome? id) := by
  cases a <;> rfl

theorem name_eq_displayName (node : FunctionNode) : node.name = displayName node := by
  obtain ⟨form, binding, _, _, _⟩ := node
  simp only [FunctionNode.name, displayName, nameSources, first_cons, FunctionNode.anonymous]
  cases form <;> cases binding <;>
    simp [FunctionNode.id?, FunctionNode.key?, FunctionNode.Binding.name?]

theorem message_missing (anchor : Span) (name : String) :
    Diagnostic.message ⟨.missingReturnType, anchor, name, none⟩ =
      "Function \"" ++ name ++
        "\" must have an explicit return type annotation that returns Result<T, E>" := by
  apply String.toList_injective
  have rendered : Text.Template.render [("name".toList, name.toList)]
      Fault.missingReturnType.template.toList = "Function \"".toList ++ (name.toList ++
        "\" must have an explicit return type annotation that returns Result<T, E>".toList) := rfl
  simp only [Diagnostic.message, Option.map_none, Option.toList_none, rendered,
    String.toList_ofList, String.toList_append, List.append_assoc]

theorem message_unsuited (anchor : Span) (name type : String) :
    Diagnostic.message ⟨.requireResultType, anchor, name, some type⟩ =
      "Function \"" ++ name ++ "\" must return Result<T, E> type. Current return type: " ++
        type := by
  apply String.toList_injective
  have rendered : Text.Template.render
      [("name".toList, name.toList), ("currentType".toList, type.toList)]
      Fault.requireResultType.template.toList = "Function \"".toList ++ (name.toList ++
        ("\" must return Result<T, E> type. Current return type: ".toList ++
          (type.toList ++ []))) := rfl
  simp only [Diagnostic.message, Option.map_some, Option.toList_some, rendered,
    String.toList_ofList, String.toList_append, List.append_assoc, List.append_nil]

/-- The reasons for which nothing is wrong with a function. -/
def Sound (options : Options) (ctx : FileContext) (node : FunctionNode) : Prop :=
  Unchecked node ∨ Excused options (displayName node) ctx.path ∨
    ∃ declared, node.returnType = some declared ∧
      (isResult (normalize (ctx.text declared.typeSpan)) = true ∨
        Allows options (normalize (ctx.text declared.typeSpan)))

theorem Complaint.not_sound {options : Options} {ctx : FileContext} {node : FunctionNode}
    {fault : Fault} {anchor : Span} {message : String}
    (complaint : Complaint options ctx node fault anchor message) : ¬ Sound options ctx node := by
  rintro (skipped | excused | ⟨declared, same, passes⟩)
  · cases complaint with
    | missing checked => exact checked skipped
    | unsuited _ checked => exact checked skipped
  · cases complaint with
    | missing _ strict => exact strict excused
    | unsuited _ _ strict => exact strict excused
  · cases complaint with
    | missing _ _ bare => simp [bare] at same
    | unsuited other _ _ annotated noResult refused =>
      rw [annotated] at same
      cases same
      rcases passes with result | allowed
      · simp [noResult] at result
      · exact refused allowed

/-- There is at most one complaint about a function. -/
theorem Complaint.unique {options : Options} {ctx : FileContext} {node : FunctionNode}
    {fault fault' : Fault} {anchor anchor' : Span} {message message' : String}
    (left : Complaint options ctx node fault anchor message)
    (right : Complaint options ctx node fault' anchor' message') :
    fault = fault' ∧ anchor = anchor' ∧ message = message' := by
  cases left with
  | missing _ _ bare =>
    cases right with
    | missing => simp
    | unsuited _ _ _ annotated => simp [bare] at annotated
  | unsuited _ _ _ annotated =>
    cases right with
    | missing _ _ bare => simp [bare] at annotated
    | unsuited _ _ _ same =>
      rw [annotated] at same
      cases same
      simp

section Policies

variable {options : Options} {policy : Policy} (compiled : Policy.compile options = .ok policy)
  (severity : Severity) (ctx : FileContext) (node : FunctionNode)

include compiled

theorem sound_of_examine_none (silent : policy.examine node ctx = none) :
    Sound options ctx node := by
  unfold Policy.examine at silent
  split at silent
  · next ineligible =>
    left
    by_contra checked
    simp [(isEligible_iff node).mpr checked] at ineligible
  · split at silent
    · next exempt =>
      rw [name_eq_displayName] at exempt
      exact .inr (.inl ((Policy.isExempt_iff options policy compiled _ _).mp exempt))
    · split at silent
      · cases silent
      · next declared annotated =>
        dsimp only at silent
        split at silent
        · next passes =>
          rw [Bool.or_eq_true, Policy.isAllowed_iff options policy compiled] at passes
          exact .inr (.inr ⟨declared, annotated, passes⟩)
        · cases silent

theorem complaint_of_examine_some (d : Diagnostic) (found : policy.examine node ctx = some d) :
    Complaint options ctx node d.fault d.anchor d.message := by
  unfold Policy.examine at found
  split at found
  · cases found
  · next eligible =>
    have checked : ¬ Unchecked node := by
      rw [← isEligible_iff]
      simpa using eligible
    split at found
    · cases found
    · next exempt =>
      rw [name_eq_displayName] at exempt
      have strict : ¬ Excused options (displayName node) ctx.path := by
        rw [← Policy.isExempt_iff options policy compiled]
        exact exempt
      split at found
      · next bare =>
        cases found
        rw [message_missing, name_eq_displayName]
        exact .missing checked strict bare
      · next declared annotated =>
        dsimp only at found
        split at found
        · cases found
        · next passes =>
          rw [Bool.or_eq_true, Policy.isAllowed_iff options policy compiled, not_or] at passes
          cases found
          rw [message_unsuited, name_eq_displayName]
          exact .unsuited declared checked strict annotated (by simpa using passes.1) passes.2

theorem examine_none_of_sound (sound : Sound options ctx node) :
    policy.examine node ctx = none := by
  cases found : policy.examine node ctx with
  | none => rfl
  | some d =>
    exact absurd sound (complaint_of_examine_some compiled ctx node d found).not_sound

/-- A complaint is found by examining, with its fault, place and message. -/
theorem examine_some_of_complaint (fault : Fault) (anchor : Span) (message : String)
    (complaint : Complaint options ctx node fault anchor message) :
    ∃ d, policy.examine node ctx = some d ∧ d.fault = fault ∧ d.anchor = anchor ∧
      d.message = message := by
  cases found : policy.examine node ctx with
  | none =>
    exact absurd (sound_of_examine_none compiled ctx node found) complaint.not_sound
  | some d =>
    have own := complaint_of_examine_some compiled ctx node d found
    exact ⟨d, rfl, own.unique complaint⟩

/-- The rule finds at every function what it is to find there. -/
theorem finding_inspect : Finding options severity ctx node (inspect policy severity ctx node) := by
  unfold inspect
  cases found : policy.examine node ctx with
  | none =>
    rcases sound_of_examine_none compiled ctx node found with
      skipped | excused | ⟨declared, annotated, passes⟩
    · exact .unchecked skipped
    · exact .excused excused
    · exact .conforming declared annotated passes
  | some d =>
    have complaint := complaint_of_examine_some compiled ctx node d found
    dsimp only
    split
    · next denied => exact .reported d.fault d.anchor d.message complaint denied
    · next reason allowed =>
      split
      · next bare =>
        rw [Bool.and_eq_true, beq_iff_eq, Option.isNone_iff_eq_none] at bare
        obtain ⟨wanted, rfl⟩ := bare
        exact .unreasoned d.fault d.anchor d.message complaint allowed wanted
      · next enough =>
        refine .allowed d.fault d.anchor d.message reason complaint allowed ?_
        rintro wanted rfl
        simp [wanted] at enough

/-- No function has two findings. -/
theorem inspect_of_finding (outcome : Option Violation)
    (finding : Finding options severity ctx node outcome) :
    outcome = inspect policy severity ctx node := by
  have silent (sound : Sound options ctx node) : none = inspect policy severity ctx node := by
    simp only [inspect, examine_none_of_sound compiled ctx node sound]
  cases finding with
  | unchecked h => exact silent (.inl h)
  | excused h => exact silent (.inr (.inl h))
  | conforming declared annotated h => exact silent (.inr (.inr ⟨declared, annotated, h⟩))
  | allowed fault anchor message reason complaint directive enough =>
    obtain ⟨d, found, _⟩ := examine_some_of_complaint compiled ctx node _ _ _ complaint
    simp only [inspect, found, ruleName, directive]
    cases reason <;> cases severity <;> simp_all
  | unreasoned fault anchor message complaint directive wanted =>
    obtain ⟨d, found, _⟩ := examine_some_of_complaint compiled ctx node _ _ _ complaint
    simp only [inspect, found, ruleName, directive, wanted]
    rfl
  | reported fault anchor message complaint directive =>
    obtain ⟨d, found, rfl, rfl, rfl⟩ :=
      examine_some_of_complaint compiled ctx node _ _ _ complaint
    simp only [inspect, found, ruleName, directive]
    rfl

end Policies

/-- A visitor that does the same at every function is a fold over them, whatever their forms. -/
theorem visitAll_uniform {σ : Type} (f : FunctionNode → σ → σ) (nodes : List FunctionNode)
    (state : σ) :
    (Visitor.uniform f).visitAll nodes state = nodes.foldl (fun s n => f n s) state := by
  have visited (node : FunctionNode) (s : σ) : (Visitor.uniform f).visit node s = f node s := by
    unfold Visitor.visit Visitor.uniform
    cases node.form <;> rfl
  simp only [Visitor.visitAll, visited]

theorem rule_check_eq_filterMap (policy : Policy) (severity : Severity) (ctx : FileContext)
    (file : SourceFile) :
    (rule policy severity).check ctx file =
      file.functions.filterMap (inspect policy severity ctx) := by
  change (collector policy severity ctx).visitAll file.functions [] = _
  unfold collector
  rw [visitAll_uniform]
  have folded (nodes : List FunctionNode) (found : List Violation) :
      nodes.foldl (fun s n => s ++ (inspect policy severity ctx n).toList) found =
        found ++ nodes.filterMap (inspect policy severity ctx) := by
    induction nodes generalizing found with
    | nil => simp
    | cons node rest ih =>
      rw [List.foldl_cons, ih, List.filterMap_cons]
      cases inspect policy severity ctx node <;> simp
  simpa using folded file.functions []

/-- At every function there is exactly one finding under the options a policy was compiled from,
and the rule under that policy reports these findings in the order of the functions. -/
theorem check_reports_findings (options : Options) (policy : Policy)
    (compiled : Policy.compile options = .ok policy) (severity : Severity) (ctx : FileContext)
    (file : SourceFile) :
    ∃ found : FunctionNode → Option Violation,
      (∀ node outcome, Finding options severity ctx node outcome ↔ outcome = found node) ∧
      (rule policy severity).check ctx file = file.functions.filterMap found := by
  refine ⟨inspect policy severity ctx, ?_, rule_check_eq_filterMap policy severity ctx file⟩
  intro node outcome
  constructor
  · exact inspect_of_finding compiled severity ctx node outcome
  · rintro rfl
    exact finding_inspect compiled severity ctx node

/-- The statement at a file with one function, under options that set all three lists. -/
theorem check_reports_findings_one_function :
    let options : Options := ⟨some ["void"], some ["main"], some ["^test"]⟩
    let policy : Policy :=
      .ofParts ["void"] ["main"] [.seq (.assertion .textStart) (.literal "test".toList)]
    let source := "function f(): string {}".toList
    let ctx : FileContext := .ofFile (.ofString "/p/src/a.ts") source (.ofString "/p")
    let file : SourceFile := .parse source .typescript
    Policy.compile options = .ok policy ∧
      ∃ found : FunctionNode → Option Violation,
        (∀ node outcome, Finding options .error ctx node outcome ↔ outcome = found node) ∧
        (rule policy .error).check ctx file = file.functions.filterMap found := by
  intro options policy source ctx file
  have compiled : Policy.compile options = .ok policy := rfl
  exact ⟨compiled, check_reports_findings options policy compiled .error ctx file⟩

end ResultLint.ReturnType
