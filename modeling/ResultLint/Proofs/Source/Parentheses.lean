import ResultLint.Proofs.Lists
import ResultLint.Proofs.Source.Places
import ResultLint.Proofs.Text.Blank
import ResultLint.Proofs.Text.Slice
import ResultLint.Source.Lowering

/-!
Parentheses around functions. What binds a function is found around the outermost of its
parentheses, however many there are, so a function that is moved into parentheses or out of them is
lowered as before.
-/
namespace ResultLint.Source

open Text

/-- The node in focus is the field of the node above that goes by a role: it plays the role, and no
child before it does. -/
structure Crumb.IsField (c : Crumb) (role : Role) (focus : Tree) : Prop where
  plays : focus.label.role = some role
  first : ∀ t ∈ c.before, t.label.role ≠ some role

theorem Crumb.holds_iff (c : Crumb) (role : Role) (focus : Tree) :
    c.holds role focus = true ↔ c.IsField role focus := by
  unfold holds
  constructor
  · intro holds
    rw [Bool.and_eq_true, beq_iff_eq] at holds
    exact ⟨holds.1, by simpa using holds.2⟩
  · rintro ⟨plays, first⟩
    simpa [plays] using first

/-- The field that a node of a kind binds its value by, if it binds one. -/
def Kind.bindingField? : Kind → Option Role
  | .variableDeclarator | .pair => some .value
  | .assignment | .augmentedAssignment => some .right
  | _ => none

/-- The name that a field gives: its text if it is of one of some kinds. -/
inductive FieldName (source : List Char) (role : Role) (kinds : List Kind) (children : List Tree) :
    Option String → Prop
  | plain (t : Tree) (field : Tree.inRole? role children = some t) (kind : t.kind ∈ kinds) :
      FieldName source role kinds children (some (textOf source t))
  | other (unlike : ∀ t, Tree.inRole? role children = some t → t.kind ∉ kinds) :
      FieldName source role kinds children none

theorem Crumb.text?_eq_iff (c : Crumb) (source : List Char) (focus : Tree) (role : Role)
    (kinds : List Kind) (name : Option String) :
    c.text? source focus role kinds = name ↔
      FieldName source role kinds (c.children focus) name := by
  unfold text?
  constructor
  · rintro rfl
    cases field : Tree.inRole? role (c.children focus) with
    | none => exact .other (by simp [field])
    | some t =>
      by_cases kind : t.kind ∈ kinds
      · have named : FieldName source role kinds (c.children focus) (some (textOf source t)) :=
          .plain t field kind
        simpa [Option.filter, kind] using named
      · have unnamed : FieldName source role kinds (c.children focus) none :=
          .other (by simpa [field] using kind)
        simpa [Option.filter, kind] using unnamed
  · intro given
    cases given with
    | plain t field kind => simp [field, kind]
    | other unlike =>
      cases field : Tree.inRole? role (c.children focus) with
      | none => rfl
      | some t => simp [unlike t field]

/-- What the nodes above bind a node to: the nearest of them, if the node is its value. -/
inductive BoundBy (source : List Char) (node : Tree) : List Crumb → Binding → Prop
  | declarator (parent : Crumb) (up : List Crumb) (name : Option String)
      (kind : parent.label.kind = .variableDeclarator) (value : parent.IsField .value node)
      (named : FieldName source .name [.identifier] (parent.children node) name) :
      BoundBy source node (parent :: up) (.declarator name)
  | property (parent : Crumb) (up : List Crumb) (key : Option String)
      (kind : parent.label.kind = .pair) (value : parent.IsField .value node)
      (named : FieldName source .key [.propertyName, .identifier] (parent.children node) key) :
      BoundBy source node (parent :: up) (.property key)
  | assignment (parent : Crumb) (up : List Crumb) (target : Option String)
      (kind : parent.label.kind = .assignment ∨ parent.label.kind = .augmentedAssignment)
      (value : parent.IsField .right node)
      (named : FieldName source .left [.identifier] (parent.children node) target) :
      BoundBy source node (parent :: up) (.assignment target)
  | unbound (parent : Crumb) (up : List Crumb)
      (other : ∀ role, parent.label.kind.bindingField? = some role → ¬ parent.IsField role node) :
      BoundBy source node (parent :: up) .other
  | top : BoundBy source node [] .other

/-- The nearest node above binds in one way only. -/
theorem boundBy_iff (source : List Char) (node : Tree) (parent : Crumb) (up : List Crumb)
    (b : Binding) : BoundBy source node (parent :: up) b ↔ parent.binding source node = b := by
  unfold Crumb.binding
  constructor
  · intro bound
    cases bound with
    | declarator _ _ name kind value named =>
      rw [kind]
      simp [(parent.holds_iff _ _).mpr value, (parent.text?_eq_iff _ _ _ _ _).mpr named]
    | property _ _ key kind value named =>
      rw [kind]
      simp [(parent.holds_iff _ _).mpr value, (parent.text?_eq_iff _ _ _ _ _).mpr named]
    | assignment _ _ target kind value named =>
      rcases kind with kind | kind <;> rw [kind] <;>
        simp [(parent.holds_iff _ _).mpr value, (parent.text?_eq_iff _ _ _ _ _).mpr named]
    | unbound _ _ other =>
      simp only [← Crumb.holds_iff] at other
      cases kind : parent.label.kind <;> simp_all [Kind.bindingField?]
  · rintro rfl
    have named (role : Role) (kinds : List Kind) :=
      (parent.text?_eq_iff source node role kinds _).mp rfl
    have unbound (role : Role) (kind : parent.label.kind.bindingField? = some role)
        (elsewhere : ¬ parent.holds role node = true) :
        BoundBy source node (parent :: up) .other := by
      refine .unbound parent up fun other asked => ?_
      rw [kind] at asked
      cases asked
      rwa [← parent.holds_iff]
    split
    · next kind =>
      split
      · next value =>
        exact .declarator parent up _ kind ((parent.holds_iff _ _).mp value) (named _ _)
      · next elsewhere => exact unbound .value (by rw [kind]; rfl) elsewhere
    · next kind =>
      split
      · next value =>
        exact .property parent up _ kind ((parent.holds_iff _ _).mp value) (named _ _)
      · next elsewhere => exact unbound .value (by rw [kind]; rfl) elsewhere
    · next kind =>
      split
      · next value =>
        exact .assignment parent up _ (.inl kind) ((parent.holds_iff _ _).mp value) (named _ _)
      · next elsewhere => exact unbound .right (by rw [kind]; rfl) elsewhere
    · next kind =>
      split
      · next value =>
        exact .assignment parent up _ (.inr kind) ((parent.holds_iff _ _).mp value) (named _ _)
      · next elsewhere => exact unbound .right (by rw [kind]; rfl) elsewhere
    · next declarator pair assignment augmented =>
      refine .unbound parent up fun role asked => ?_
      unfold Kind.bindingField? at asked
      split at asked <;> simp_all

theorem bindingFrom_parenthesized (source : List Char) (node : Tree) (wrappers path : List Crumb)
    (around : ∀ w ∈ wrappers, w.label.kind = .parenthesized) :
    Cursor.bindingFrom source node (wrappers ++ path) =
      Cursor.bindingFrom source (Crumb.closeAll wrappers node) path := by
  induction wrappers generalizing node with
  | nil => rfl
  | cons w ws ih =>
    rw [List.forall_mem_cons] at around
    rw [List.cons_append, Cursor.bindingFrom, if_pos around.1, ih _ around.2]
    rfl

/-- However many parentheses there are, a node is bound as the outermost of them is. -/
theorem Cursor.binding_parenthesized (source : List Char) (node : Tree) (wrappers path : List Crumb)
    (around : ∀ w ∈ wrappers, w.label.kind = .parenthesized)
    (outermost : ∀ parent ∈ path.head?, parent.label.kind ≠ .parenthesized) (b : Binding) :
    Cursor.binding ⟨node, wrappers ++ path⟩ source = b ↔
      BoundBy source (Crumb.closeAll wrappers node) path b := by
  rw [Cursor.binding, bindingFrom_parenthesized source node wrappers path around]
  cases path with
  | nil =>
    rw [Cursor.bindingFrom]
    constructor
    · rintro rfl
      exact .top
    · rintro ⟨⟩
      rfl
  | cons parent up =>
    rw [Cursor.bindingFrom, if_neg (outermost parent rfl), boundBy_iff]

theorem Cursor.binding_ne_methodDefinition (c : Cursor) (source : List Char) :
    c.binding source ≠ .methodDefinition := by
  obtain ⟨focus, path⟩ := c
  rw [Cursor.binding]
  induction path generalizing focus with
  | nil => nofun
  | cons crumb up ih =>
    rw [Cursor.bindingFrom]
    split
    · exact ih _
    · unfold Crumb.binding
      intro wrapped
      split at wrapped <;> (try split at wrapped) <;> cases wrapped

theorem forall₂_inRole? {R : Tree → Tree → Prop} (role : Role)
    (played : ∀ t t', R t t' → t'.label.role = t.label.role) (l l' : List Tree)
    (all : List.Forall₂ R l l') : Option.Rel R (Tree.inRole? role l) (Tree.inRole? role l') :=
  forall₂_find? _ _ (fun t t' related => by rw [played t t' related]) l l' all

/-- Two nodes of two sources are of one kind, play one role and read the same. -/
structure Alike (source source' : List Char) (t t' : Tree) : Prop where
  kind : t'.kind = t.kind
  role : t'.label.role = t.label.role
  text : textOf source' t' = textOf source t

/-- A node stands in another source with all it holds, read as before, and all of it has moved by
the same way back and on. Only the role of the node itself is free. -/
inductive Tree.Moved (source source' : List Char) (back on : Nat) : Tree → Tree → Prop
  | node (l l' : Label) (children children' : List Tree) (text : List Char)
      (kind : l'.kind = l.kind) (named : l'.named = l.named)
      (start : l'.start + back = l.start + on) (stop : l'.stop + back = l.stop + on)
      (reads : slice? source l.start l.stop = some text)
      (reads' : slice? source' l'.start l'.stop = some text)
      (roles : children'.map (·.label.role) = children.map (·.label.role))
      (deeper : List.Forall₂ (Tree.Moved source source' back on) children children') :
      Tree.Moved source source' back on (.node l children) (.node l' children')

section Moved

variable {source source' : List Char} {back on : Nat} {t t' : Tree}
  (moved : t.Moved source source' back on t')

include moved

theorem Tree.Moved.kind : t'.kind = t.kind := by
  cases moved with
  | node _ _ _ _ _ kind => exact kind

theorem Tree.Moved.named : t'.label.named = t.label.named := by
  cases moved with
  | node _ _ _ _ _ _ named => exact named

theorem Tree.Moved.start : t'.label.start + back = t.label.start + on := by
  cases moved with
  | node _ _ _ _ _ _ _ start => exact start

theorem Tree.Moved.reads : ∃ text, slice? source t.label.start t.label.stop = some text ∧
    slice? source' t'.label.start t'.label.stop = some text := by
  cases moved with
  | node _ _ _ _ text _ _ _ _ reads reads' => exact ⟨text, reads, reads'⟩

theorem Tree.Moved.text : textOf source' t' = textOf source t := by
  obtain ⟨text, reads, reads'⟩ := moved.reads
  rw [textOf, textOf, reads, reads']

/-- The children have moved too, and play their roles still. -/
theorem Tree.Moved.children :
    List.Forall₂ (fun u u' => u.Moved source source' back on u' ∧ u'.label.role = u.label.role)
      t.children t'.children := by
  cases moved with
  | node l l' children children' _ _ _ _ _ _ _ roles deeper =>
    change List.Forall₂ _ children children'
    clear * - roles deeper
    induction deeper with
    | nil => exact .nil
    | cons first _ ih =>
      rw [List.map_cons, List.map_cons, List.cons.injEq] at roles
      exact .cons ⟨first, roles.1⟩ (ih roles.2)

theorem Tree.Moved.field (role : Role) :
    (Tree.inRole? role t.children = none ∧ Tree.inRole? role t'.children = none) ∨
      ∃ u u', Tree.inRole? role t.children = some u ∧ Tree.inRole? role t'.children = some u' ∧
        u.Moved source source' back on u' := by
  have found := forall₂_inRole? role (fun _ _ child => child.2) _ _ moved.children
  rcases rel_cases _ _ found with none | ⟨u, u', first, second, child, _⟩
  · exact .inl none
  · exact .inr ⟨u, u', first, second, child⟩

theorem hasBody_moved : hasBody t' = hasBody t := by
  unfold hasBody
  rcases moved.field .body with ⟨first, second⟩ | ⟨u, u', first, second, _⟩
  · rw [first, second]
  · rw [first, second]
    rfl

theorem ownName?_moved : ownName? source' t' = ownName? source t := by
  unfold ownName?
  rcases moved.field .name with ⟨first, second⟩ | ⟨u, u', first, second, name⟩
  · rw [first, second]
    rfl
  · rw [first, second, Option.filter_some, Option.filter_some, name.kind]
    split
    · rw [Option.map_some, Option.map_some, name.text]
    · rfl

theorem methodKey?_moved : methodKey? source' t' = methodKey? source t := by
  unfold methodKey?
  rcases moved.field .name with ⟨first, second⟩ | ⟨u, u', first, second, name⟩
  · rw [first, second]
    rfl
  · rw [first, second, Option.bind_some, Option.bind_some, name.kind, name.text]

theorem namesConstructor_moved : namesConstructor source' t' = namesConstructor source t := by
  unfold namesConstructor
  rw [methodKey?_moved moved]
  rcases moved.field .name with ⟨first, second⟩ | ⟨u, u', first, second, name⟩
  · rw [first, second]
    rfl
  · rw [first, second, Option.any_some, Option.any_some, name.kind, name.text]

/-- The keywords before the name stay before it, for all starts have moved by the same way. -/
theorem accessorKind?_moved : accessorKind? t' = accessorKind? t := by
  have children := moved.children.imp fun _ _ child => child.1
  unfold accessorKind?
  dsimp only
  rcases moved.field .name with ⟨first, second⟩ | ⟨name, name', first, second, named⟩
  · rw [first, second]
    exact forall₂_findSome? _ _ (fun u u' child => by rw [child.kind, child.named]) _ _ children
  · rw [first, second]
    refine forall₂_findSome? _ _ (fun u u' child => by rw [child.kind, child.named]) _ _
      (forall₂_takeWhile _ _ (fun u u' child => ?_) _ _ children)
    have start := named.start
    have start' := child.start
    rw [decide_eq_decide]
    omega

end Moved

/-- Behind the colon stands the annotation without its colons, trimmed. -/
theorem behindColon_slice (source : List Char) (annotated : Span) (raw : List Char)
    (sliced : slice? source annotated.start annotated.stop = some raw) :
    slice? source (behindColon annotated raw).start (behindColon annotated raw).stop =
      some (trimEnd (trimStart (raw.dropWhile (· == ':')))) := by
  have colons : raw.takeWhile (· == ':') ++ raw.dropWhile (· == ':') = raw :=
    List.takeWhile_append_dropWhile
  have blanks := leading_trimStart (raw.dropWhile (· == ':'))
  obtain ⟨behind, ended⟩ := exists_trimEnd (trimStart (raw.dropWhile (· == ':')))
  have parts : raw.takeWhile (· == ':') ++ (leading (raw.dropWhile (· == ':'))).chars ++
      trimEnd (trimStart (raw.dropWhile (· == ':'))) ++ behind.chars = raw := by
    rw [List.append_assoc, ← ended, List.append_assoc, blanks, colons]
  have lead : byteLength raw - byteLength (trimStart (raw.dropWhile (· == ':'))) =
      byteLength (raw.takeWhile (· == ':') ++ (leading (raw.dropWhile (· == ':'))).chars) := by
    have size := congrArg byteLength parts
    rw [List.append_assoc, ← ended, byteLength_append] at size
    omega
  rw [← parts] at sliced
  have inner := slice_within source _ _ _ _ _ sliced
  rw [← lead] at inner
  exact inner

/-- Two declared types of two sources read the same. -/
def SameType (source source' : List Char) (d d' : DeclaredType) : Prop :=
  ∃ text, slice? source d.typeSpan.start d.typeSpan.stop = some text ∧
    slice? source' d'.typeSpan.start d'.typeSpan.stop = some text

theorem declaredType?_moved {source source' : List Char} {back on : Nat} {t t' : Tree}
    (moved : t.Moved source source' back on t') :
    Option.Rel (SameType source source') (declaredType? source t) (declaredType? source' t') := by
  unfold declaredType?
  rcases moved.field .returnType with ⟨first, second⟩ | ⟨u, u', first, second, annotated⟩
  · rw [first, second]
    exact .none
  · rw [first, second]
    refine .some ?_
    have type := forall₂_find? (fun t => t.label.named) (fun t => t.label.named)
      (fun _ _ child => child.1.named) u.children u'.children annotated.children
    rcases rel_cases _ _ type with ⟨none, none'⟩ | ⟨type, type', found, found', moved, _⟩
    · obtain ⟨text, reads, reads'⟩ := annotated.reads
      have raw : textOf source u = String.ofList text := by rw [textOf, reads, Option.getD_some]
      dsimp only
      rw [none, none', annotated.text, raw, String.toList_ofList]
      exact ⟨_, behindColon_slice source _ text reads, behindColon_slice source' _ text reads'⟩
    · dsimp only
      rw [found, found']
      exact moved.reads

/-- What stands above two nodes of two sources has the same fields on the way to them: the nodes
right above are of one kind and their further children alike. -/
inductive AlikeAbove (source source' : List Char) : List Crumb → List Crumb → Prop
  | top : AlikeAbove source source' [] []
  | under (parent parent' : Crumb) (up up' : List Crumb)
      (kind : parent'.label.kind = parent.label.kind)
      (before : List.Forall₂ (Alike source source') parent.before parent'.before)
      (after : List.Forall₂ (Alike source source') parent.after parent'.after) :
      AlikeAbove source source' (parent :: up) (parent' :: up')

/-- A node is found again in another source, in more parentheses or in less: it has moved as a
whole, the outermost parentheses play its role, and what stands above them is alike. A member of a
class is no expression and stands in none. -/
inductive Reparenthesized (source source' : List Char) : Cursor → Cursor → Prop
  | moved (node node' : Tree) (wrappers wrappers' path path' : List Crumb) (back on : Nat)
      (inside : node.Moved source source' back on node')
      (around : ∀ w ∈ wrappers, w.label.kind = .parenthesized)
      (around' : ∀ w ∈ wrappers', w.label.kind = .parenthesized)
      (outermost : ∀ parent ∈ path.head?, parent.label.kind ≠ .parenthesized)
      (role : (Crumb.closeAll wrappers' node').label.role =
        (Crumb.closeAll wrappers node).label.role)
      (above : AlikeAbove source source' path path')
      (member : Cursor.inClass ⟨node, path⟩ = true →
        node.kind ∈ [.methodDefinition, .methodSignature] → wrappers = [] ∧ wrappers' = []) :
      Reparenthesized source source' ⟨node, wrappers ++ path⟩ ⟨node', wrappers' ++ path'⟩

/-- Two functions of two sources are the same as far as a rule asks, their places apart. -/
structure SameFunction (source source' : List Char) (f f' : FunctionNode) : Prop where
  form : f'.form = f.form
  binding : f'.binding = f.binding
  hasBody : f'.hasBody = f.hasBody
  returnType : Option.Rel (SameType source source') f.returnType f'.returnType

theorem SameFunction.name {source source' : List Char} {f f' : FunctionNode}
    (same : SameFunction source source' f f') : f'.name = f.name := by
  rw [FunctionNode.name, FunctionNode.name, FunctionNode.id?, FunctionNode.id?, FunctionNode.key?,
    FunctionNode.key?, same.form, same.binding]

/-- A field that the node on the way down does not play is named by one of the children beside it,
so alike. -/
theorem text?_alike (source source' : List Char) (parent parent' : Crumb)
    (before : List.Forall₂ (Alike source source') parent.before parent'.before)
    (after : List.Forall₂ (Alike source source') parent.after parent'.after) (node node' : Tree)
    (played : node'.label.role = node.label.role) (role : Role)
    (other : node.label.role ≠ some role) (kinds : List Kind) :
    parent'.text? source' node' role kinds = parent.text? source node role kinds := by
  -- The node on the way down has moved and need not read the same, so only a child that plays the
  -- role has to be alike.
  let R (t t' : Tree) : Prop := t'.label.role = t.label.role ∧
    (t.label.role = some role → Alike source source' t t')
  have beside (t t' : Tree) (alike : Alike source source' t t') : R t t' :=
    ⟨alike.role, fun _ => alike⟩
  have children : List.Forall₂ R (parent.children node) (parent'.children node') :=
    List.rel_append (List.rel_reverse (before.imp beside))
      (.cons ⟨played, fun plays => absurd plays other⟩ (after.imp beside))
  have found := forall₂_inRole? role (fun _ _ child => child.1) _ _ children
  unfold Crumb.text?
  rcases rel_cases _ _ found with ⟨none, none'⟩ | ⟨t, t', first, second, child⟩
  · rw [none, none']
    rfl
  · have alike := child.2 (by simpa using List.find?_some first)
    rw [first, second, Option.filter_some, Option.filter_some, alike.kind]
    split
    · rw [Option.map_some, Option.map_some, alike.text]
    · rfl

theorem binding_alike (source source' : List Char) (parent parent' : Crumb)
    (kind : parent'.label.kind = parent.label.kind)
    (before : List.Forall₂ (Alike source source') parent.before parent'.before)
    (after : List.Forall₂ (Alike source source') parent.after parent'.after) (node node' : Tree)
    (played : node'.label.role = node.label.role) :
    parent'.binding source' node' = parent.binding source node := by
  have holds (role : Role) : parent'.holds role node' = parent.holds role node := by
    have none : (parent'.before.any fun t => t.label.role == some role) =
        parent.before.any fun t => t.label.role == some role := by
      rw [← List.isSome_find?, ← List.isSome_find?]
      have found := forall₂_inRole? role (fun _ _ child => child.role) _ _ before
      unfold Tree.inRole? at found
      rcases rel_cases _ _ found with ⟨none, none'⟩ | ⟨_, _, first, second, _⟩
      · rw [none, none']
      · rw [first, second]
        rfl
    rw [Crumb.holds, Crumb.holds, played, none]
  have text (role other : Role) (plays : parent.holds role node = true) (apart : role ≠ other) :
      parent'.text? source' node' other = parent.text? source node other := by
    funext kinds
    refine text?_alike source source' parent parent' before after node node' played other ?_ kinds
    rw [((parent.holds_iff role node).mp plays).plays]
    simpa using apart
  unfold Crumb.binding
  rw [kind]
  simp only [holds]
  split
  · exact ite_congr rfl (fun plays => by rw [text .value .name plays (by decide)]) fun _ => rfl
  · exact ite_congr rfl (fun plays => by rw [text .value .key plays (by decide)]) fun _ => rfl
  · exact ite_congr rfl (fun plays => by rw [text .right .left plays (by decide)]) fun _ => rfl
  · exact ite_congr rfl (fun plays => by rw [text .right .left plays (by decide)]) fun _ => rfl
  · rfl

section Reparenthesized

variable {source source' : List Char} {c c' : Cursor}
  (again : Reparenthesized source source' c c')

include again

theorem binding_reparenthesized : c'.binding source' = c.binding source := by
  cases again with
  | moved node node' wrappers wrappers' path path' _ _ _ around around' outermost role above =>
    rw [Cursor.binding, Cursor.binding, bindingFrom_parenthesized _ _ _ _ around,
      bindingFrom_parenthesized _ _ _ _ around']
    cases above with
    | top => rfl
    | under parent parent' up up' kind before after =>
      have open_ := outermost parent rfl
      rw [Cursor.bindingFrom, Cursor.bindingFrom, kind, if_neg open_, if_neg open_]
      exact binding_alike source source' parent parent' kind before after _ _ role

/-- Only of a member of a class the place right above counts, and that is the same. -/
theorem inClass_reparenthesized
    (method : c.focus.kind ∈ [.methodDefinition, .methodSignature]) : c'.inClass = c.inClass := by
  cases again with
  | moved node node' wrappers wrappers' path path' back on _ around around' outermost role above
      member =>
    have same : Cursor.inClass ⟨node', path'⟩ = Cursor.inClass ⟨node, path⟩ := by
      cases above with
      | top => rfl
      | under parent parent' up up' kind =>
        rw [Cursor.inClass, Cursor.inClass, List.head?_cons, List.head?_cons, Option.any_some,
          Option.any_some, kind]
    have outside (ws path : List Crumb) (t : Tree)
        (around : ∀ w ∈ ws, w.label.kind = .parenthesized)
        (apart : Cursor.inClass ⟨t, path⟩ = false) :
        Cursor.inClass ⟨t, ws ++ path⟩ = false := by
      cases ws with
      | nil => exact apart
      | cons w ws =>
        rw [Cursor.inClass, List.cons_append, List.head?_cons, Option.any_some,
          around w List.mem_cons_self]
        rfl
    -- In a class no parentheses stand around the member; elsewhere they are in no class either.
    cases within : Cursor.inClass ⟨node, path⟩ with
    | true =>
      obtain ⟨rfl, rfl⟩ := member within method
      exact same
    | false =>
      rw [outside wrappers' path' node' around' (same.trans within),
        outside wrappers path node around within]

theorem focus_reparenthesized : ∃ back on, c.focus.Moved source source' back on c'.focus := by
  cases again with
  | moved node node' _ _ _ _ back on inside => exact ⟨back, on, inside⟩

theorem form?_reparenthesized : form? source' c' = form? source c := by
  obtain ⟨back, on, moved⟩ := focus_reparenthesized again
  have method (inClass : c'.inClass = c.inClass) : methodKind source' c' = methodKind source c := by
    rw [methodKind, methodKind, accessorKind?_moved moved, namesConstructor_moved moved, inClass]
  unfold form?
  dsimp only
  rw [moved.named, moved.kind, ownName?_moved moved, methodKey?_moved moved]
  split
  · rfl
  · split
    case h_7 kind =>
      have inClass := inClass_reparenthesized again (by simp [kind])
      rw [method inClass]
    case h_8 kind =>
      have inClass := inClass_reparenthesized again (by simp [kind])
      rw [method inClass, inClass]
    all_goals rfl

/-- In more parentheses or in less, a node is lowered to the same function. -/
theorem functionAt?_reparenthesized :
    Option.Rel (SameFunction source source') (functionAt? source c) (functionAt? source' c') := by
  obtain ⟨back, on, moved⟩ := focus_reparenthesized again
  rw [functionAt?, functionAt?, form?_reparenthesized again]
  cases form? source c with
  | none => exact .none
  | some form =>
    exact .some ⟨rfl, binding_reparenthesized again, hasBody_moved moved, declaredType?_moved moved⟩

end Reparenthesized

end ResultLint.Source
