import ResultLint.Source.File
import ResultLint.Proofs.Source.Places
import ResultLint.Proofs.Source.Reading

/-!
What holds at every node of a tree that is read. A node comes about in five ways, from a comment,
a token, a part of the grammar with a node of its own, a step of a chain, or when a role is given;
what each of them keeps, a whole reading keeps.
-/
namespace ResultLint.Source

open Text

/-- A property of nodes, their labels and their children, at every node of a tree. -/
inductive Tree.Everywhere (here : Label → List Tree → Prop) : Tree → Prop
  | node (l : Label) (children : List Tree) (deeper : ∀ t ∈ children, Tree.Everywhere here t)
      (holds : here l children) : Tree.Everywhere here (.node l children)

section Nodes

variable {here : Label → List Tree → Prop}

theorem Tree.everywhere_children (t : Tree) (whole : t.Everywhere here) :
    ∀ u ∈ t.children, u.Everywhere here := by
  cases whole with
  | node l children deeper _ => exact deeper

theorem Tree.everywhere_here (t : Tree) (whole : t.Everywhere here) :
    here t.label t.children := by
  cases whole with
  | node l children _ holds => exact holds

theorem Tree.everywhere_withRole (role : Role) (t : Tree) (whole : t.Everywhere here)
    (marked : here { t.label with role := some role } t.children) :
    (t.withRole role).Everywhere here := by
  cases whole with
  | node l children deeper _ => exact .node _ children deeper marked

namespace Grammar

/-- A role goes to a tree that is no comment; the other trees stay as they are. -/
theorem assignRole_everywhere (role : Role) (trees : List Tree)
    (whole : ∀ t ∈ trees, t.Everywhere here)
    (marked : ∀ t ∈ trees, t.kind ≠ .comment →
      here { t.label with role := some role } t.children) :
    ∀ t ∈ assignRole role trees, t.Everywhere here := by
  have forward (ts : List Tree) (inner : ∀ t ∈ ts, t ∈ trees) :
      ∀ t ∈ assignRole.go role ts, t.Everywhere here := by
    induction ts with
    | nil => simp [assignRole.go]
    | cons t ts ih =>
      rw [List.forall_mem_cons] at inner
      unfold assignRole.go
      split
      · exact List.forall_mem_cons.mpr ⟨whole t inner.1, ih inner.2⟩
      · next visible =>
        have changed := t.everywhere_withRole role (whole t inner.1) (marked t inner.1 visible)
        exact List.forall_mem_cons.mpr ⟨changed, fun u member => whole u (inner.2 u member)⟩
  intro t member
  rw [assignRole, List.mem_reverse] at member
  exact forward trees.reverse (by simp) t member

end Grammar

end Nodes

namespace Grammar

namespace Place

/-- The place is one of a source. -/
structure In (source : List Char) (p : Place) : Prop where
  ordered : p.Ordered
  aligned : ∃ before, source = before ++ p.rest ∧ byteLength before = p.position

theorem aligned_of_reaches (source : List Char) (p q : Place)
    (aligned : ∃ before, source = before ++ p.rest ∧ byteLength before = p.position)
    (reached : p.Reaches q) :
    ∃ before, source = before ++ q.rest ∧ byteLength before = q.position := by
  obtain ⟨before, whole, position⟩ := aligned
  obtain ⟨passed, rest, moved⟩ := reached.text
  refine ⟨before ++ passed, ?_, ?_⟩
  · rw [whole, rest, List.append_assoc]
  · rw [byteLength_append, position, moved]

theorem In.of_reaches {source : List Char} {p q : Place} (inside : p.In source)
    (reached : p.Reaches q) : q.In source :=
  ⟨reached.ordered, aligned_of_reaches source p q inside.aligned reached⟩

theorem In.position_le {source : List Char} {p : Place} (inside : p.In source) :
    p.position ≤ byteLength source := by
  obtain ⟨before, whole, position⟩ := inside.aligned
  rw [whole, byteLength_append, position]
  exact Nat.le_add_right _ _

theorem In.last_le {source : List Char} {p : Place} (inside : p.In source) :
    p.last ≤ byteLength source :=
  Nat.le_trans (Nat.le_trans inside.ordered.1 inside.ordered.2) inside.position_le

theorem In.withTrees {source : List Char} {p : Place} (inside : p.In source) (ts : List Tree) :
    In source { p with trees := ts } :=
  ⟨inside.ordered, inside.aligned⟩

theorem In.within {source : List Char} {p : Place} (inside : p.In source) :
    In source { p.settle with trees := [] } :=
  ⟨inside.ordered, inside.aligned⟩

/-- What is taken of the text at a place of a source is its slice. -/
theorem In.slice_match {source : List Char} {p : Place} (inside : p.In source)
    (m : Terminal.Match) (split : m.Splits p.rest) :
    slice? source p.position (p.position + byteLength m.1) = some m.1 := by
  obtain ⟨before, whole, position⟩ := inside.aligned
  have slice := slice_middle before m.1 m.2
  have parts : m.1 ++ m.2 = p.rest := split
  rwa [List.append_assoc, parts, ← whole, position] at slice

/-- The place is one of a source, and a property holds at the comments that wait and everywhere in
the trees read so far. -/
structure Holds (source : List Char) (here : Label → List Tree → Prop) (p : Place) : Prop where
  inside : p.In source
  waiting : ∀ range ∈ p.comments, (commentTree range).Everywhere here
  trees : ∀ t ∈ p.trees, t.Everywhere here

variable {source : List Char} {here : Label → List Tree → Prop}

theorem Holds.settled {p : Place} (holds : p.Holds source here) :
    ∀ t ∈ p.settle.trees, t.Everywhere here := by
  intro t member
  rcases List.mem_append.mp member with comment | tree
  · obtain ⟨range, waits, rfl⟩ := List.mem_map.mp comment
    exact holds.waiting range waits
  · exact holds.trees t tree

/-- The inside of a node begins without trees. -/
theorem Holds.within {p : Place} (holds : p.Holds source here) :
    Holds source here { p.settle with trees := [] } :=
  ⟨holds.inside.within, by simp [settle], by simp⟩

/-- What was read inside is put behind what stood before. -/
theorem Holds.around {p q : Place} (outer : p.Holds source here) (inner : q.Holds source here)
    (ts : List Tree) (read : ∀ t ∈ ts, t.Everywhere here) :
    Holds source here { q with trees := ts ++ p.settle.trees } :=
  ⟨inner.inside.withTrees _, inner.waiting,
    List.forall_mem_append.mpr ⟨read, outer.settled⟩⟩

theorem Holds.endLine {p : Place} (holds : p.Holds source here) :
    p.endLine.Holds source here := by
  refine ⟨holds.inside.of_reaches (p.endLine_reaches holds.inside.ordered), ?_, ?_⟩
  · intro range member
    exact holds.waiting range (List.mem_filter.mp member).1
  · intro t member
    rcases List.mem_append.mp member with comment | tree
    · obtain ⟨range, waits, rfl⟩ := List.mem_map.mp comment
      exact holds.waiting range (List.mem_filter.mp waits).1
    · exact holds.trees t tree

end Place

/-- The grammars that a grammar is made of, one step into it; a name is made of nothing. -/
def parts : Grammar → List Grammar
  | .sequence gs | .choice gs => gs
  | .optional g | .many g | .node _ g | .role _ g | .within _ g | .ahead g | .notAhead g
  | .dialect _ g | .arrowTypes g | .functionTypes g => [g]
  | .chain first steps => first :: steps.map fun step => step.2.2.2
  | _ => []

/-- Whether a condition holds of a grammar and of all that it is made of, as far as a number of
steps into it shows. -/
def throughout (condition : Grammar → Bool) : Nat → Grammar → Bool
  | 0, _ => false
  | depth + 1, g => condition g && g.parts.all (throughout condition depth)

theorem throughout_iff (condition : Grammar → Bool) (depth : Nat) (g : Grammar) :
    throughout condition (depth + 1) g = true ↔
      condition g = true ∧ ∀ part ∈ g.parts, throughout condition depth part = true := by
  rw [throughout, Bool.and_eq_true, List.all_eq_true]

/-- What makes a property of nodes hold wherever a grammar of a kind leads: one condition for each
way in which a node comes about. -/
structure Preserves (rules : Rule → Grammar) (source : List Char) (allowed : Grammar → Prop)
    (here : Label → List Tree → Prop) : Prop where
  named : ∀ r, allowed (rules r)
  parts : ∀ g, allowed g → ∀ part ∈ g.parts, allowed part
  comment : ∀ p : Place, p.In source → ∀ range ∈ (Trivia.skip p.position p.rest).comments,
    here ⟨.comment, true, none, range.1, range.2⟩ []
  leaf : ∀ t kind named, allowed (.token t (some (kind, named))) → ∀ p : Place, p.In source →
    ∀ m, t.read p.rest = some m →
      here ⟨kind, named, none, p.position, p.position + byteLength m.1⟩ []
  node : ∀ kind g, allowed (.node kind g) → ∀ fuel setting (p q : Place), p.In source →
    follow rules fuel setting g { p.settle with trees := [] } = some q →
      here ⟨kind, true, none, p.position, q.last⟩ q.trees.reverse
  role : ∀ role g, allowed (.role role g) → ∀ fuel setting (p q : Place), p.In source →
    follow rules fuel setting g { p.settle with trees := [] } = some q →
      ∀ t ∈ q.trees, t.kind ≠ .comment → here t.label t.children →
        here { t.label with role := some role } t.children
  step : ∀ first steps, allowed (.chain first steps) → ∀ step ∈ steps,
    ∀ start children, ∀ q : Place, q.In source →
      here ⟨step.1, true, none, start, q.last⟩ children
  stepRole : ∀ first steps, allowed (.chain first steps) → ∀ step ∈ steps,
    ∀ role, step.2.2.1 = some role → ∀ l children, here l children →
      here { l with role := some role } children

section Run

variable {rules : Rule → Grammar} {source : List Char} {allowed : Grammar → Prop}
  {here : Label → List Tree → Prop} (kept : Preserves rules source allowed here)

include kept

theorem Preserves.afterTrivia {p : Place} (holds : p.Holds source here) :
    p.afterTrivia.Holds source here := by
  refine ⟨holds.inside.of_reaches (p.afterTrivia_reaches holds.inside.ordered), ?_, holds.trees⟩
  intro range member
  rcases List.mem_append.mp member with passed | waits
  · exact .node _ [] (by simp) (kept.comment p holds.inside range passed)
  · exact holds.waiting range waits

theorem Preserves.take {p : Place} (holds : p.Holds source here) (t : Terminal)
    (m : Terminal.Match) (leaf : Option (Kind × Bool)) (loose : Bool)
    (read : t.read p.rest = some m) (ok : leaf = none ∨ allowed (.token t leaf)) :
    (p.take m leaf loose).Holds source here := by
  have split := t.read_splits p.rest m read
  have tight : (p.take m leaf false).Holds source here := by
    refine ⟨holds.inside.of_reaches (p.take_reaches m leaf false holds.inside.ordered split),
      by simp [Place.take, Place.settle], ?_⟩
    cases leaf with
    | none => exact holds.settled
    | some leaf =>
      have marked := kept.leaf t leaf.1 leaf.2 (ok.resolve_left (by simp)) p holds.inside m read
      exact List.forall_mem_cons.mpr ⟨.node _ [] (by simp) marked, holds.settled⟩
  cases loose with
  | false => exact tight
  | true => exact kept.afterTrivia tight

/-- One step of a chain puts what stands before it into a node. -/
theorem Preserves.chainStep (first : Grammar) (steps : List (Kind × Before × Option Role × Grammar))
    (ok : allowed (.chain first steps)) (step : Kind × Before × Option Role × Grammar)
    (listed : step ∈ steps) (start : Nat) {q r : Place} (before : q.Holds source here)
    (onward : r.Holds source here) :
    let head := match step.2.2.1 with
      | some role => assignRole role q.trees
      | none => q.trees
    Place.Holds source here
      { r with
        trees := [.node ⟨step.1, true, none, start, r.last⟩ (r.trees ++ head).reverse] } := by
  intro head
  have front : ∀ t ∈ head, t.Everywhere here := by
    intro t member
    cases asked : step.2.2.1 with
    | none =>
      simp only [head, asked] at member
      exact before.trees t member
    | some role =>
      simp only [head, asked] at member
      refine assignRole_everywhere role q.trees before.trees ?_ t member
      intro u inside _
      exact kept.stepRole first steps ok step listed role asked _ _
        (u.everywhere_here (before.trees u inside))
  refine ⟨onward.inside.withTrees _, onward.waiting, List.forall_mem_singleton.mpr ?_⟩
  refine .node _ _ ?_ (kept.step first steps ok step listed start _ r onward.inside)
  intro t member
  rw [List.mem_reverse] at member
  exact List.forall_mem_append.mpr ⟨onward.trees, front⟩ t member

/-- Following an allowed grammar keeps the property, everywhere in the trees that are read. -/
theorem Preserves.follow (fuel : Nat) (setting : Setting) (g : Grammar) (p q : Place)
    (ok : allowed g) (holds : p.Holds source here)
    (followed : follow rules fuel setting g p = some q) : q.Holds source here := by
  -- a name stands for a grammar that is no part of it, so the induction is on the fuel
  induction fuel generalizing setting g p q with
  | zero => cases followed
  | succ fuel ih =>
    have parts := kept.parts g ok
    cases g with
    | token t leaf =>
      obtain ⟨m, read, rfl⟩ := Option.map_eq_some_iff.mp followed
      exact kept.take holds t m leaf true read (.inr ok)
    | tight t =>
      obtain ⟨m, read, rfl⟩ := Option.map_eq_some_iff.mp followed
      exact kept.take holds t m none false read (.inl rfl)
    | sequence gs =>
      exact foldlM_invariant (Place.Holds source here) (Grammar.follow rules fuel setting) gs
        (fun g listed q r before step => ih setting g q r (parts g listed) before step)
        p q holds followed
    | choice gs =>
      obtain ⟨g, listed, chosen⟩ := List.exists_of_findSome?_eq_some followed
      exact ih setting g p q (parts g listed) holds chosen
    | optional g =>
      rw [Grammar.follow] at followed
      cases inner : Grammar.follow rules fuel setting g p with
      | none =>
        rw [inner] at followed
        cases followed
        exact holds
      | some r =>
        rw [inner] at followed
        cases followed
        exact ih setting g p _ (parts g List.mem_cons_self) holds inner
    | many g =>
      cases followed
      exact iterate_invariant (Place.Holds source here) (Grammar.follow rules fuel setting g)
        (fun q r before step => ih setting g q r (parts g List.mem_cons_self) before step)
        fuel p holds
    | node kind g =>
      obtain ⟨r, inner, rfl⟩ := Option.map_eq_some_iff.mp followed
      have read := ih setting g _ r (parts g List.mem_cons_self) holds.within inner
      refine holds.around read [_] (List.forall_mem_singleton.mpr ?_)
      exact .node _ _ (by simpa using read.trees)
        (kept.node kind g ok fuel setting p r holds.inside inner)
    | role role g =>
      obtain ⟨r, inner, rfl⟩ := Option.map_eq_some_iff.mp followed
      have read := ih setting g _ r (parts g List.mem_cons_self) holds.within inner
      refine holds.around read _ (assignRole_everywhere role r.trees read.trees ?_)
      intro t member visible
      exact kept.role role g ok fuel setting p r holds.inside inner t member visible
        (t.everywhere_here (read.trees t member))
    | chain first steps =>
      obtain ⟨r, inner, rfl⟩ := Option.map_eq_some_iff.mp followed
      have read := ih setting first _ r (parts first List.mem_cons_self) holds.within inner
      have closed (s : Place) (last : s.Holds source here) :
          Place.Holds source here { s with trees := s.trees ++ p.settle.trees } :=
        holds.around last _ last.trees
      refine closed _ (iterate_invariant (Place.Holds source here) _ ?_ fuel r read)
      intro q s before stepped
      obtain ⟨step, listed, chosen⟩ := List.exists_of_findSome?_eq_some stepped
      obtain ⟨_, further⟩ := Option.ite_none_right_eq_some.mp chosen
      obtain ⟨next, behind, rfl⟩ := Option.map_eq_some_iff.mp further
      have deeper : allowed step.2.2.2 :=
        parts _ (List.mem_cons_of_mem _ (List.mem_map_of_mem listed))
      have onward := ih setting step.2.2.2 { q with trees := [] } next deeper
        ⟨before.inside.withTrees [], before.waiting, by simp⟩ behind
      exact kept.chainStep first steps ok step listed p.position before onward
    | rule r => exact ih setting (rules r) p q (kept.named r) holds followed
    | within shift g =>
      exact ih (shift.apply setting) g p q (parts g List.mem_cons_self) holds followed
    | ahead g =>
      obtain ⟨_, _, rfl⟩ := Option.map_eq_some_iff.mp followed
      exact holds
    | notAhead g =>
      rw [follow_notAhead rules (fuel + 1) setting g p q followed]
      exact holds
    | dialect d g =>
      obtain ⟨_, inner⟩ := Option.ite_none_right_eq_some.mp followed
      exact ih setting g p q (parts g List.mem_cons_self) holds inner
    | arrowTypes g =>
      obtain ⟨_, inner⟩ := Option.ite_none_right_eq_some.mp followed
      exact ih setting g p q (parts g List.mem_cons_self) holds inner
    | functionTypes g =>
      obtain ⟨_, inner⟩ := Option.ite_none_right_eq_some.mp followed
      exact ih setting g p q (parts g List.mem_cons_self) holds inner
    | lineSemicolon beforeBody =>
      obtain ⟨_, inner⟩ := Option.ite_none_right_eq_some.mp followed
      cases inner
      exact holds.endLine
    | noSemicolon =>
      obtain ⟨_, inner⟩ := Option.ite_none_left_eq_some.mp followed
      cases inner
      exact holds
    | spacing =>
      cases followed
      exact kept.afterTrivia holds
    | finish =>
      obtain ⟨_, inner⟩ := Option.ite_none_right_eq_some.mp followed
      cases inner
      exact holds

end Run

end Grammar

namespace Cursor

/-- What a tree hands down to its children holds at every place in it. -/
theorem holds_of_whole (holds : Tree → Prop) (down : ∀ t, holds t → ∀ u ∈ t.children, holds u)
    (c : Cursor) (top : holds c.whole) : holds c.focus := by
  obtain ⟨focus, path⟩ := c
  induction path generalizing focus with
  | nil => exact top
  | cons crumb up ih =>
    exact down _ (ih (crumb.close focus) top) focus (by
      simp [Crumb.close, Crumb.children, Tree.children])

theorem walk_holds (holds : Tree → Prop) (down : ∀ t, holds t → ∀ u ∈ t.children, holds u)
    (t : Tree) (top : holds t) : ∀ c ∈ walk t, holds c.focus := by
  intro c visited
  rw [walk_eq_places, mem_places_iff] at visited
  exact holds_of_whole holds down c (visited ▸ top)

end Cursor

/-- The interpreter line is a leading part of the source like any other. -/
theorem behindInterpreterLine_split (source : List Char) :
    ∃ before, source = before ++ (behindInterpreterLine source).1 ∧
      byteLength before = (behindInterpreterLine source).2 := by
  unfold behindInterpreterLine
  split
  · next cs =>
    have line := Terminal.splits_takeWhile (· != '\n') cs
    refine ⟨'#' :: '!' :: cs.takeWhile (· != '\n'), ?_, ?_⟩
    · rw [List.cons_append, List.cons_append]
      exact congrArg (fun tail => '#' :: '!' :: tail) line.symm
    · have marks : byteLength ('#' :: '!' :: cs.takeWhile (· != '\n')) =
          1 + (1 + byteLength (cs.takeWhile (· != '\n'))) := rfl
      dsimp only
      omega
  · exact ⟨[], rfl, rfl⟩

section Functions

variable {source : List Char} {allowed : Grammar → Prop} {here : Label → List Tree → Prop}
  (kept : Grammar.Preserves Rule.grammar source allowed here)
  (whole : allowed (.node .other (.sequence [.rule .statements, .finish])))

include kept whole

theorem tree_everywhere (dialect : Dialect) (t : Tree) (read : tree? source dialect = some t) :
    t.Everywhere here := by
  obtain ⟨q, followed, first⟩ := Option.bind_eq_some_iff.mp read
  have start : Grammar.Place.Holds source here
      ⟨(behindInterpreterLine source).1, (behindInterpreterLine source).2, [], false,
        (behindInterpreterLine source).2, (behindInterpreterLine source).2, []⟩ :=
    ⟨⟨⟨Nat.le_refl _, Nat.le_refl _⟩, behindInterpreterLine_split source⟩, by simp, by simp⟩
  have last := kept.follow _ _ _ _ q whole (kept.afterTrivia start) followed
  exact last.trees t (List.mem_of_head? first)

/-- A function of a source is lowered from a place in its tree. -/
theorem functions_placed (dialect : Dialect) (t : Tree) (read : tree? source dialect = some t)
    (f : FunctionNode) (lowered : f ∈ functionsOf source t) :
    ∃ c : Cursor, c.whole.Everywhere here ∧ functionAt? source c = some f := by
  obtain ⟨c, visited, made⟩ := List.mem_filterMap.mp lowered
  rw [Cursor.walk_eq_places, Cursor.mem_places_iff] at visited
  exact ⟨c, visited ▸ tree_everywhere kept whole dialect t read, made⟩

theorem functions_everywhere (dialect : Dialect) (t : Tree) (read : tree? source dialect = some t)
    (f : FunctionNode) (lowered : f ∈ functionsOf source t) :
    ∃ c : Cursor, c.focus.Everywhere here ∧ functionAt? source c = some f := by
  obtain ⟨c, top, made⟩ := functions_placed kept whole dialect t read f lowered
  exact ⟨c, c.holds_of_whole _ Tree.everywhere_children top, made⟩

end Functions

end ResultLint.Source
