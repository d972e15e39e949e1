import ResultLint.Source.Cursor

/-!
The places of a tree in reading order, a node before its children and these from left to right. The
loop of a cursor, which knows only the next step from where it is, comes to exactly these places and
ends.
-/
namespace ResultLint.Source

/-- What holds of a node if it holds of all its children holds of every tree. -/
theorem Tree.inductionOn {holds : Tree → Prop}
    (node : ∀ l children, (∀ t ∈ children, holds t) → holds (.node l children)) (t : Tree) :
    holds t :=
  t.rec (motive_2 := fun ts => ∀ t ∈ ts, holds t) node (by simp)
    (fun _ _ first others => List.forall_mem_cons.mpr ⟨first, others⟩)

/-- The places of a tree under some crumbs. -/
def Tree.placesUnder (path : List Crumb) : Tree → List Cursor
  | .node l ts => ⟨.node l ts, path⟩ :: among path l [] ts
where
  /-- The places of the further children of a node, `before` being those passed already. -/
  among (path : List Crumb) (l : Label) (before : List Tree) : List Tree → List Cursor
    | [] => []
    | t :: ts => placesUnder (⟨l, before, ts⟩ :: path) t ++ among path l (t :: before) ts

/-- The places of a tree in reading order. -/
def Tree.places (t : Tree) : List Cursor :=
  t.placesUnder []

open Tree.placesUnder

namespace Cursor

def nextSibling? (c : Cursor) : Option Cursor :=
  match c.path with
  | [] => none
  | crumb :: up =>
    match crumb.after with
    | [] => none
    | t :: ts => some ⟨t, { crumb with before := c.focus :: crumb.before, after := ts } :: up⟩

def parent? (c : Cursor) : Option Cursor :=
  match c.path with
  | [] => none
  | crumb :: up => some ⟨crumb.close c.focus, up⟩

/-- The way back from a place: to the sibling behind it, else up and back from there, and from the
top out of the tree. -/
inductive Backs : Cursor → Option Cursor → Prop
  | sibling (c d : Cursor) (next : c.nextSibling? = some d) : Backs c (some d)
  | up (c above : Cursor) (end? : Option Cursor) (last : c.nextSibling? = none)
      (parent : c.parent? = some above) (further : Backs above end?) : Backs c end?
  | out (c : Cursor) (last : c.nextSibling? = none) (top : c.parent? = none) : Backs c none

/-- The loop over a tree from a place on, with the places that it comes to: down to the first child
if there is one, else on from where the way back leads. -/
inductive Visits : Cursor → List Cursor → Prop
  | down (c d : Cursor) (rest : List Cursor) (child : c.firstChild? = some d)
      (further : Visits d rest) : Visits c (c :: rest)
  | on (c d : Cursor) (rest : List Cursor) (leaf : c.firstChild? = none) (back : Backs c (some d))
      (further : Visits d rest) : Visits c (c :: rest)
  | done (c : Cursor) (leaf : c.firstChild? = none) (back : Backs c none) : Visits c [c]

/-- The places behind a node: those of the siblings behind it and behind the nodes above. -/
def behind (focus : Tree) : List Crumb → List Cursor
  | [] => []
  | crumb :: up =>
    among up crumb.label (focus :: crumb.before) crumb.after ++ behind (crumb.close focus) up

/-- The places from a place on. -/
def onward (c : Cursor) : List Cursor :=
  c.focus.placesUnder c.path ++ behind c.focus c.path

theorem behind_eq (focus : Tree) (path : List Crumb) :
    behind focus path = ((nextBehind? focus path).map onward).getD [] := by
  induction path generalizing focus with
  | nil => rfl
  | cons crumb up ih =>
    obtain ⟨l, before, after⟩ := crumb
    cases after with
    | nil => exact ih (.node l (before.reverse ++ [focus]))
    | cons t ts =>
      -- to move on to a sibling changes the crumb, but not the node that it closes to
      have closed : (⟨l, focus :: before, ts⟩ : Crumb).close t =
          (⟨l, before, t :: ts⟩ : Crumb).close focus := by
        simp [Crumb.close, Crumb.children]
      rw [behind, among, nextBehind?, Option.map_some, Option.getD_some, onward, behind, closed,
        List.append_assoc]

/-- From a place the loop takes one step, and has the places from there on before it. -/
theorem onward_eq (c : Cursor) : c.onward = c :: (c.next?.map onward).getD [] := by
  obtain ⟨⟨l, ts⟩, path⟩ := c
  cases ts with
  | nil =>
    change _ :: behind _ path = _ :: ((nextBehind? _ path).map onward).getD []
    rw [behind_eq]
  | cons t ts =>
    change _ :: (Tree.placesUnder _ t ++ among path l [t] ts ++ behind _ path) = _ :: onward _
    rw [List.append_assoc]
    rfl

theorem backs_iff (c : Cursor) (end? : Option Cursor) :
    Backs c end? ↔ end? = nextBehind? c.focus c.path := by
  constructor
  · intro backs
    induction backs with
    | sibling c d next =>
      obtain ⟨focus, _ | ⟨⟨l, before, _ | ⟨t, ts⟩⟩, up⟩⟩ := c
      · cases next
      · cases next
      · exact next.symm
    | up c above end? last parent further ih =>
      obtain ⟨focus, _ | ⟨⟨l, before, _ | ⟨t, ts⟩⟩, up⟩⟩ := c
      · cases parent
      · cases parent
        exact ih
      · cases last
    | out c last top =>
      obtain ⟨focus, _ | ⟨crumb, up⟩⟩ := c
      · rfl
      · cases top
  · rintro rfl
    obtain ⟨focus, path⟩ := c
    induction path generalizing focus with
    | nil => exact .out _ rfl rfl
    | cons crumb up ih =>
      obtain ⟨l, before, _ | ⟨t, ts⟩⟩ := crumb
      · exact .up _ _ _ rfl rfl (ih _)
      · exact .sibling _ _ rfl

/-- From every place the loop comes to its end, on one way only: over the places from there on. -/
theorem visits_iff (c : Cursor) (ps : List Cursor) : Visits c ps ↔ ps = c.onward := by
  constructor
  · intro visits
    induction visits with
    | down c d rest child further ih =>
      have next : c.next? = some d := by rw [next?, child]
      rw [onward_eq, next, ih]
      rfl
    | on c d rest leaf back further ih =>
      have next : c.next? = some d := by rw [next?, leaf, ← (backs_iff c _).mp back]
      rw [onward_eq, next, ih]
      rfl
    | done c leaf back =>
      have next : c.next? = none := by rw [next?, leaf, ← (backs_iff c _).mp back]
      rw [onward_eq, next]
      rfl
  · intro whole
    -- with every step there is one place less to come to
    induction ps generalizing c with
    | nil =>
      rw [onward_eq] at whole
      cases whole
    | cons d rest ih =>
      rw [onward_eq, List.cons.injEq] at whole
      obtain ⟨rfl, behind⟩ := whole
      cases child : d.firstChild? with
      | some e =>
        have next : d.next? = some e := by rw [next?, child]
        rw [next] at behind
        exact .down d e rest child (ih e behind)
      | none =>
        have back : Backs d d.next? := (backs_iff d _).mpr (by rw [next?, child])
        cases next : d.next? with
        | some e =>
          rw [next] at behind back
          exact .on d e rest child back (ih e behind)
        | none =>
          rw [next] at behind back
          cases behind
          exact .done d child back

theorem walkFrom_eq_onward (fuel : Nat) (c : Cursor) (enough : c.onward.length ≤ fuel) :
    walkFrom fuel c = c.onward := by
  induction fuel generalizing c with
  | zero =>
    rw [onward_eq] at enough
    cases enough
  | succ fuel ih =>
    rw [onward_eq] at enough ⊢
    rw [walkFrom]
    cases next : c.next? with
    | none => rfl
    | some d =>
      rw [next, Option.map_some, Option.getD_some, List.length_cons, Nat.succ_le_succ_iff] at enough
      rw [Option.map_some, Option.getD_some, ← ih d enough]

end Cursor

theorem Tree.length_placesUnder (t : Tree) (path : List Crumb) :
    (t.placesUnder path).length = t.size := by
  induction t using Tree.inductionOn generalizing path with
  | node l children ih =>
    have further (before ts : List Tree) (inner : ∀ t ∈ ts, t ∈ children) :
        (among path l before ts).length = Tree.size.sizeAll ts := by
      induction ts generalizing before with
      | nil => rfl
      | cons t ts each =>
        rw [List.forall_mem_cons] at inner
        rw [among, List.length_append, ih t inner.1, each _ inner.2, Tree.size.sizeAll]
    rw [placesUnder, List.length_cons, further [] children (by simp), Tree.size, Nat.add_comm]

/-- As many steps as the tree has nodes are enough for the loop: it comes to every place. -/
theorem Cursor.walk_eq_places (t : Tree) : walk t = t.places := by
  have whole : (top t).onward = t.places := List.append_nil _
  have enough : (top t).onward.length ≤ t.size := by
    rw [whole]
    exact Nat.le_of_eq (t.length_placesUnder [])
  rw [walk, walkFrom_eq_onward t.size _ enough, whole]

/-- A place of a node's children belongs to one of them. -/
theorem mem_among_iff (path : List Crumb) (l : Label) (before ts : List Tree) (c : Cursor) :
    c ∈ among path l before ts ↔ ∃ front t back, ts = front ++ t :: back ∧
      c ∈ t.placesUnder (⟨l, front.reverse ++ before, back⟩ :: path) := by
  induction ts generalizing before with
  | nil => simp [among]
  | cons t ts ih =>
    rw [among, List.mem_append, ih]
    constructor
    · rintro (first | ⟨front, u, back, rfl, further⟩)
      · exact ⟨[], t, ts, rfl, first⟩
      · exact ⟨t :: front, u, back, rfl, by simpa using further⟩
    · rintro ⟨_ | ⟨u, front⟩, v, back, parts, found⟩
      · cases parts
        exact .inl found
      · cases parts
        exact .inr ⟨front, v, back, rfl, by simpa using found⟩

/-- A place of a tree is its top or belongs to a child. -/
theorem mem_placesUnder_iff (path : List Crumb) (l : Label) (children : List Tree) (c : Cursor) :
    c ∈ (Tree.node l children).placesUnder path ↔ c = ⟨.node l children, path⟩ ∨
      ∃ front t back, children = front ++ t :: back ∧
        c ∈ t.placesUnder (⟨l, front.reverse, back⟩ :: path) := by
  rw [Tree.placesUnder, List.mem_cons, mem_among_iff]
  simp only [List.append_nil]

theorem mem_placesUnder_self (t : Tree) (path : List Crumb) : ⟨t, path⟩ ∈ t.placesUnder path := by
  cases t with
  | node l children => exact (mem_placesUnder_iff path l children _).mpr (.inl rfl)

/-- What is below a place of a tree is a place of the tree. -/
theorem placesUnder_trans (t : Tree) (path : List Crumb) (c d : Cursor)
    (outer : c ∈ t.placesUnder path) (inner : d ∈ c.focus.placesUnder c.path) :
    d ∈ t.placesUnder path := by
  induction t using Tree.inductionOn generalizing path with
  | node l children ih =>
    rcases (mem_placesUnder_iff path l children c).mp outer with rfl | ⟨front, t, back, rfl, found⟩
    · exact inner
    · exact (mem_placesUnder_iff path l _ d).mpr
        (.inr ⟨front, t, back, rfl, ih t (by simp) _ found⟩)

/-- A node with nodes put around it, the innermost first. -/
def Crumb.closeAll (crumbs : List Crumb) (t : Tree) : Tree :=
  crumbs.foldl (fun u crumb => crumb.close u) t

namespace Cursor

/-- The tree that a place is in: the node in focus with all that are above it. -/
def whole (c : Cursor) : Tree :=
  Crumb.closeAll c.path c.focus

theorem whole_of_mem (t : Tree) (path : List Crumb) (c : Cursor) (found : c ∈ t.placesUnder path) :
    c.whole = whole ⟨t, path⟩ := by
  induction t using Tree.inductionOn generalizing path with
  | node l children ih =>
    rcases (mem_placesUnder_iff path l children c).mp found with rfl | ⟨front, t, back, rfl, inner⟩
    · rfl
    · rw [ih t (by simp) _ inner]
      simp [whole, Crumb.closeAll, Crumb.close, Crumb.children]

/-- The places of a tree are all there are in it. -/
theorem mem_places_iff (t : Tree) (c : Cursor) : c ∈ t.places ↔ c.whole = t := by
  constructor
  · exact whole_of_mem t [] c
  · rintro rfl
    obtain ⟨focus, path⟩ := c
    induction path generalizing focus with
    | nil => exact mem_placesUnder_self focus []
    | cons crumb up ih =>
      obtain ⟨l, before, after⟩ := crumb
      refine placesUnder_trans _ [] _ _ (ih (Crumb.close ⟨l, before, after⟩ focus)) ?_
      refine (mem_placesUnder_iff up l _ _).mpr (.inr ⟨before.reverse, focus, after, rfl, ?_⟩)
      rw [List.reverse_reverse]
      exact mem_placesUnder_self focus _

end Cursor

end ResultLint.Source
