import Mathlib.Data.List.Lex
import ResultLint.Proofs.Lists
import ResultLint.Proofs.Source.Everywhere
import ResultLint.Proofs.Source.Places

/-!
The order in which the functions of a tree are found. The loop of the cursor comes to every place
once, to a node before all that it holds, and lowers those that are functions. Where the children of
nodes lie inside them one behind another, functions are found in the order in which they begin, and
of two functions one holds the other or ends before it.
-/
namespace ResultLint.Source

namespace Cursor

/-- The numbers of the children that lead from the top to a place. -/
def address (c : Cursor) : List Nat :=
  (c.path.map fun crumb => crumb.before.length).reverse

/-- The node of a place is one of those above another place. -/
def IsAbove (c d : Cursor) : Prop :=
  ∃ inner, inner ≠ [] ∧ d.path = inner ++ c.path

/-- The node at a place is a function: it is named and of the kind of one, and a signature of a
method stands directly in the body of a class. -/
@[mk_iff]
structure IsFunction (c : Cursor) : Prop where
  named : c.focus.label.named = true
  kind : c.focus.kind ∈ [.functionDeclaration, .generatorDeclaration, .functionSignature,
      .function, .generatorFunction, .arrowFunction, .methodDefinition] ∨
    c.focus.kind = .methodSignature ∧
      ∃ above, c.parent? = some above ∧ above.focus.kind = .classBody

/-- Below a node all addresses go on from that of the node. -/
theorem address_of_mem (t : Tree) (path : List Crumb) (c : Cursor)
    (found : c ∈ t.placesUnder path) : address ⟨t, path⟩ <+: c.address := by
  induction t using Tree.inductionOn generalizing path with
  | node l children ih =>
    rcases (mem_placesUnder_iff path l children c).mp found with rfl | ⟨front, t, back, rfl, inner⟩
    · exact List.prefix_rfl
    · have further := ih t (by simp) _ inner
      rw [address, List.map_cons, List.reverse_cons] at further
      exact (List.prefix_append _ _).trans further

theorem address_of_mem_child (l : Label) (front : List Tree) (t : Tree) (back : List Tree)
    (path : List Crumb) (c : Cursor)
    (found : c ∈ t.placesUnder (⟨l, front.reverse, back⟩ :: path)) (u : Tree) :
    ∃ a, c.address = address ⟨u, path⟩ ++ front.length :: a := by
  obtain ⟨a, whole⟩ := address_of_mem t _ c found
  refine ⟨a, ?_⟩
  rw [← whole]
  simp [address]

theorem address_lt_of_isAbove (c d : Cursor) (above : c.IsAbove d) : c.address < d.address := by
  obtain ⟨inner, nonempty, path⟩ := above
  have whole : d.address = c.address ++ (inner.map fun crumb => crumb.before.length).reverse := by
    rw [address, path, List.map_append, List.reverse_append]
    rfl
  rw [whole]
  obtain ⟨i, a, behind⟩ := List.exists_cons_of_ne_nil
    (l := (inner.map fun crumb => crumb.before.length).reverse) (by simpa using nonempty)
  rw [behind]
  simpa using List.Lex.append_left (· < ·) (List.Lex.nil (a := i) (l := a)) c.address

end Cursor

/-- What holds of a place and all places below it, and of all places below a child and all below one
behind it, holds of all places of a tree in their order. -/
theorem pairwise_placesUnder (holds : Tree → Prop)
    (handedDown : ∀ t, holds t → ∀ u ∈ t.children, holds u) (R : Cursor → Cursor → Prop)
    (below : ∀ l front t back path, holds (.node l (front ++ t :: back)) →
      ∀ d ∈ t.placesUnder (⟨l, front.reverse, back⟩ :: path),
        R ⟨.node l (front ++ t :: back), path⟩ d)
    (beside : ∀ l front t middle u back path,
      holds (.node l (front ++ t :: (middle ++ u :: back))) →
      ∀ c ∈ t.placesUnder (⟨l, front.reverse, middle ++ u :: back⟩ :: path),
        ∀ d ∈ u.placesUnder (⟨l, (front ++ t :: middle).reverse, back⟩ :: path), R c d)
    (t : Tree) (path : List Crumb) (top : holds t) : (t.placesUnder path).Pairwise R := by
  induction t using Tree.inductionOn generalizing path with
  | node l children ih =>
    -- The loop keeps the children it has passed in the crumb, so the inner induction does too.
    have among (before ts : List Tree) (parts : children = before.reverse ++ ts) :
        (Tree.placesUnder.among path l before ts).Pairwise R := by
      induction ts generalizing before with
      | nil => exact .nil
      | cons t ts each =>
        have child : t ∈ children := by simp [parts]
        rw [Tree.placesUnder.among, List.pairwise_append]
        refine ⟨ih t child _ (handedDown _ top t child), each (t :: before) (by simp [parts]), ?_⟩
        intro c here d there
        obtain ⟨middle, u, back, rfl, found⟩ := (mem_among_iff path l _ ts d).mp there
        refine beside l before.reverse t middle u back path (parts ▸ top) c ?_ d ?_
        · rwa [List.reverse_reverse]
        · simpa using found
    rw [Tree.placesUnder, List.pairwise_cons]
    refine ⟨fun d inside => ?_, among [] children rfl⟩
    obtain ⟨front, t, back, rfl, found⟩ := (mem_among_iff path l [] children d).mp inside
    exact below l front t back path top d (by simpa using found)

/-- The places come in the order of their addresses, so that none comes twice. -/
theorem places_ordered (t : Tree) : t.places.Pairwise fun c d => c.address < d.address := by
  refine pairwise_placesUnder (fun _ => True) (fun _ _ _ _ => trivial) _ ?_ ?_ t [] trivial
  · intro l front t back path _ d found
    obtain ⟨a, whole⟩ := Cursor.address_of_mem_child l front t back path d found
      (.node l (front ++ t :: back))
    rw [whole]
    simpa using List.Lex.append_left (· < ·) (List.Lex.nil (a := front.length) (l := a))
      (Cursor.address ⟨.node l (front ++ t :: back), path⟩)
  · intro l front t middle u back path _ c found d found'
    obtain ⟨a, whole⟩ := Cursor.address_of_mem_child l front t _ path c found t
    obtain ⟨b, whole'⟩ := Cursor.address_of_mem_child l _ u back path d found' t
    rw [whole, whole']
    refine List.Lex.append_left (· < ·) (.rel ?_) _
    rw [List.length_append, List.length_cons]
    omega

theorem inClass_iff (c : Cursor) :
    c.inClass = true ↔ ∃ above, c.parent? = some above ∧ above.focus.kind = .classBody := by
  obtain ⟨focus, _ | ⟨crumb, up⟩⟩ := c
  · simp [Cursor.inClass, Cursor.parent?]
  · simp [Cursor.inClass, Cursor.parent?, Crumb.close, Tree.kind, Tree.label]

/-- A place is lowered just if it is a function's. -/
theorem functionAt?_isSome_iff (source : List Char) (c : Cursor) :
    (functionAt? source c).isSome = true ↔ c.IsFunction := by
  rw [Cursor.isFunction_iff, ← inClass_iff, functionAt?, Option.isSome_map, form?]
  cases c.focus.label.named <;> cases c.focus.kind <;> simp

/-- The children of a node lie inside it, one behind another. -/
structure Nested (l : Label) (children : List Tree) : Prop where
  ordered : l.start ≤ l.stop
  inside : ∀ t ∈ children, l.start ≤ t.label.start ∧ t.label.stop ≤ l.stop
  apart : children.Pairwise fun t u => t.label.stop ≤ u.label.start

/-- A range is read before another one: it begins no later, and holds the other or ends before
it. -/
structure Precedes (a b : Span) : Prop where
  begins : a.start ≤ b.start
  nestedOrApart : b.stop ≤ a.stop ∨ a.stop ≤ b.start

/-- Everything in a tree lies inside it. -/
theorem inside_of_mem (t : Tree) (path : List Crumb) (nested : t.Everywhere Nested) (c : Cursor)
    (found : c ∈ t.placesUnder path) :
    t.label.start ≤ c.focus.label.start ∧ c.focus.label.start ≤ c.focus.label.stop ∧
      c.focus.label.stop ≤ t.label.stop := by
  induction t using Tree.inductionOn generalizing path with
  | node l children ih =>
    have here := Tree.everywhere_here _ nested
    rcases (mem_placesUnder_iff path l children c).mp found with rfl | ⟨front, t, back, rfl, inner⟩
    · exact ⟨Nat.le_refl _, here.ordered, Nat.le_refl _⟩
    · have child : t ∈ front ++ t :: back := by simp
      obtain ⟨first, range, last⟩ := ih t child _ (Tree.everywhere_children _ nested t child) inner
      obtain ⟨lower, upper⟩ := here.inside t child
      exact ⟨Nat.le_trans lower first, range, Nat.le_trans last upper⟩

theorem places_nested (source : List Char) (t : Tree) (nested : t.Everywhere Nested) :
    t.places.Pairwise fun c d =>
      Precedes (spanOfTree source c.focus) (spanOfTree source d.focus) := by
  refine pairwise_placesUnder (Tree.Everywhere Nested) Tree.everywhere_children _ ?_ ?_ t [] nested
  · intro l front t back path nested d found
    have child : t ∈ front ++ t :: back := by simp
    obtain ⟨lower, upper⟩ := (Tree.everywhere_here _ nested).inside t child
    obtain ⟨first, -, last⟩ :=
      inside_of_mem t _ (Tree.everywhere_children _ nested t child) d found
    exact ⟨Nat.le_trans lower first, .inl (Nat.le_trans last upper)⟩
  · intro l front t middle u back path nested c found d found'
    have children := Tree.everywhere_children _ nested
    obtain ⟨-, range, last⟩ := inside_of_mem t _ (children t (by simp [Tree.children])) c found
    obtain ⟨first, -, -⟩ := inside_of_mem u _ (children u (by simp [Tree.children])) d found'
    have apart : t.label.stop ≤ u.label.start := by
      have pairs := (Tree.everywhere_here _ nested).apart
      exact List.rel_of_pairwise_cons (List.pairwise_append.mp pairs).2.1 (by simp)
    have gap := Nat.le_trans last (Nat.le_trans apart first)
    exact ⟨Nat.le_trans range gap, .inr gap⟩

/-- The loop over a tree ends, and the functions it finds are those at the places of the tree in
reading order. Every place of the tree is among these, and once only, for they come in the order of
their addresses; so a function is found before all that it holds. Where nodes lie inside those above
them, one behind another, functions are found in the order in which they begin, and of two one holds
the other or ends before it. -/
theorem functions_in_reading_order (source : List Char) (t : Tree) :
    (∀ places, Cursor.Visits (.top t) places ↔ places = t.places) ∧
    functionsOf source t = t.places.filterMap (functionAt? source) ∧
    (∀ c, (functionAt? source c).isSome = true ↔ c.IsFunction) ∧
    (∀ c, c ∈ t.places ↔ c.whole = t) ∧
    (t.places.Pairwise fun c d => c.address < d.address) ∧
    (∀ c ∈ t.places, ∀ d ∈ t.places, c.IsAbove d → ∀ f g, functionAt? source c = some f →
      functionAt? source d = some g → [f, g].Sublist (functionsOf source t)) ∧
    (t.Everywhere Nested → (functionsOf source t).Pairwise fun f g => Precedes f.span g.span) := by
  have found : functionsOf source t = t.places.filterMap (functionAt? source) := by
    rw [functionsOf, Cursor.walk_eq_places]
  have whole : (Cursor.top t).onward = t.places := List.append_nil _
  refine ⟨fun places => by rw [Cursor.visits_iff, whole], found, functionAt?_isSome_iff source,
    Cursor.mem_places_iff t, places_ordered t, ?_, ?_⟩
  · intro c left d right above f g first second
    have before := pair_sublist (fun a b less greater => lt_asymm less greater) _
      (places_ordered t) c d left right (c.address_lt_of_isAbove d above)
    rw [found]
    simpa [first, second] using before.filterMap (functionAt? source)
  · intro nested
    rw [found, List.pairwise_filterMap]
    refine (places_nested source t nested).imp ?_
    intro c d precedes f first g second
    obtain ⟨_, _, rfl⟩ := Option.map_eq_some_iff.mp first
    obtain ⟨_, _, rfl⟩ := Option.map_eq_some_iff.mp second
    exact precedes

/-- The statement at a declaration that holds an arrow function, with the keyword that shares its
kind with function expressions. -/
theorem functions_in_reading_order_inner :
    let source := "function f() { () => 1 }".toList
    let keyword : Tree := .node ⟨.function, false, none, 0, 8⟩ []
    let inner : Tree := .node ⟨.arrowFunction, true, none, 15, 22⟩ []
    let body : Tree := .node ⟨.block, true, some .body, 13, 24⟩ [inner]
    let t : Tree := .node ⟨.functionDeclaration, true, none, 0, 24⟩ [keyword, body]
    (functionsOf source t).map (·.span.start) = [0, 15] ∧ t.Everywhere Nested ∧
      (functionsOf source t).Pairwise fun f g => Precedes f.span g.span := by
  intro source keyword inner body t
  have leaf (l : Label) (ordered : l.start ≤ l.stop) : Tree.Everywhere Nested (.node l []) :=
    .node l [] (by simp) ⟨ordered, by simp, .nil⟩
  have block : body.Everywhere Nested := by
    refine .node _ _ (List.forall_mem_singleton.mpr (leaf _ (by decide))) ⟨by decide, ?_, by simp⟩
    exact List.forall_mem_singleton.mpr (by decide)
  have nested : t.Everywhere Nested := by
    refine .node _ _ ?_ ⟨by decide, ?_, ?_⟩
    · exact List.forall_mem_cons.mpr ⟨leaf _ (by decide), List.forall_mem_singleton.mpr block⟩
    · exact List.forall_mem_cons.mpr ⟨by decide, List.forall_mem_singleton.mpr (by decide)⟩
    · exact List.pairwise_pair.mpr (by decide)
  obtain ⟨-, -, -, -, -, -, ordered⟩ := functions_in_reading_order source t
  exact ⟨by decide +kernel, nested, ordered nested⟩

end ResultLint.Source
