import ResultLint.Proofs.Source.Everywhere

/-!
The nodes of declared return types. The grammar gives the role of a return type to annotations
only, and an annotation holds the comments behind its colon and then the type, which ends where
the annotation does.
-/
namespace ResultLint.Source

open Text

theorem byteLength_const : byteLength "const".toList = 5 := by
  decide

/-- What the node of an annotation covers and holds: a colon, the comments behind it, and the
type, or nothing more where the type is the word `const`. -/
def DeclaresType (source : List Char) (l : Label) (children : List Tree) : Prop :=
  ∃ before behind, source = before ++ ':' :: behind ∧ byteLength before = l.start ∧
    let gap := Trivia.skip (l.start + 1) behind
    let comments := gap.comments.reverse.map Grammar.commentTree
    gap.position < l.stop ∧
      ((∃ type : Tree, type.label.named = true ∧ type.label.start = gap.position ∧
          type.label.stop = l.stop ∧ children = comments ++ [type]) ∨
        (∃ after, gap.rest = "const".toList ++ after ∧ l.stop = gap.position + 5 ∧
          children = comments))

/-- Whoever plays the role of a return type, here or deeper in a tree, is an annotation. -/
inductive Tree.Sound (source : List Char) : Tree → Prop
  | node (l : Label) (children : List Tree) (deeper : ∀ t ∈ children, Tree.Sound source t)
      (declares : l.role = some .returnType → DeclaresType source l children) :
      Tree.Sound source (.node l children)

theorem Tree.sound_children (source : List Char) (t : Tree) (sound : t.Sound source) :
    ∀ u ∈ t.children, u.Sound source := by
  cases sound with
  | node l children deeper _ => exact deeper

/-- What the role of a return type asks of a node. -/
def Annotated (source : List Char) (l : Label) (children : List Tree) : Prop :=
  l.role = some .returnType → DeclaresType source l children

theorem annotated_roleless (source : List Char) (l : Label) (children : List Tree)
    (roleless : l.role = none) : Annotated source l children := by
  intro role
  rw [roleless] at role
  cases role

/-- Another role than that of a return type asks nothing of a node. -/
theorem annotated_withRole (source : List Char) (role : Role) (l : Label) (children : List Tree)
    (other : role ≠ .returnType) : Annotated source { l with role := some role } children :=
  fun same => absurd (Option.some.inj same) other

theorem Tree.sound_iff_everywhere (source : List Char) (t : Tree) :
    t.Sound source ↔ t.Everywhere (Annotated source) := by
  constructor
  · intro sound
    induction sound with
    | node l children _ declares ih => exact .node l children ih declares
  · intro whole
    induction whole with
    | node l children _ holds ih => exact .node l children ih holds

namespace Grammar

namespace Place

/-- The place is one of the source, and so is every tree read up to it. -/
structure Fits (source : List Char) (p : Place) : Prop where
  ordered : p.Ordered
  aligned : ∃ before, source = before ++ p.rest ∧ byteLength before = p.position
  sound : ∀ t ∈ p.trees, t.Sound source

theorem fits_iff_holds (source : List Char) (p : Place) :
    p.Fits source ↔ p.Holds source (Annotated source) := by
  constructor
  · intro fits
    refine ⟨⟨fits.ordered, fits.aligned⟩, ?_, ?_⟩
    · intro range _
      exact .node _ [] (by simp) (annotated_roleless source _ _ rfl)
    · exact fun t read => (t.sound_iff_everywhere source).mp (fits.sound t read)
  · intro holds
    exact ⟨holds.inside.ordered, holds.inside.aligned,
      fun t read => (t.sound_iff_everywhere source).mpr (holds.trees t read)⟩

end Place

/-- Whether a grammar gives the role of a return type to annotations only, as far as a number of
steps into it shows. -/
def annotates : Nat → Grammar → Bool
  | 0, _ => false
  | depth + 1, g =>
    match g with
    | .sequence gs | .choice gs => gs.all (annotates depth)
    | .optional g | .many g | .node _ g | .within _ g | .ahead g | .notAhead g | .dialect _ g
    | .arrowTypes g | .functionTypes g => annotates depth g
    | .role .returnType (.rule .returnAscription) => true
    | .role .returnType _ => false
    | .role _ g => annotates depth g
    | .chain first steps =>
      annotates depth first &&
        steps.all fun step => step.2.2.1 != some .returnType && annotates depth step.2.2.2
    | _ => true

theorem rules_annotate : ∀ r : Rule, annotates 40 r.grammar = true := by
  intro r
  cases r <;> decide +kernel

theorem annotates_returnType (depth : Nat) (g : Grammar)
    (marked : annotates depth (.role .returnType g) = true) : g = .rule .returnAscription := by
  cases depth with
  | zero => cases marked
  | succ depth =>
    cases g with
    | rule r => cases r <;> first | rfl | cases marked
    | _ => cases marked

theorem annotates_parts (depth : Nat) (g : Grammar) (marked : annotates (depth + 1) g = true) :
    ∀ part ∈ g.parts, ∃ deep, annotates deep part = true := by
  intro part member
  cases g with
  | sequence gs | choice gs => exact ⟨depth, List.all_eq_true.mp marked part member⟩
  | role role g =>
    cases List.mem_singleton.mp member
    by_cases returned : role = .returnType
    · subst returned
      cases annotates_returnType (depth + 1) part marked
      exact ⟨1, rfl⟩
    · refine ⟨depth, ?_⟩
      cases role with
      | returnType => exact absurd rfl returned
      | _ => exact marked
  | chain first steps =>
    obtain ⟨beginning, continuing⟩ := Bool.and_eq_true_iff.mp marked
    rcases List.mem_cons.mp member with rfl | later
    · exact ⟨depth, beginning⟩
    · obtain ⟨step, listed, rfl⟩ := List.mem_map.mp later
      exact ⟨depth, (Bool.and_eq_true_iff.mp (List.all_eq_true.mp continuing step listed)).2⟩
  | optional | many | node | within | ahead | notAhead | dialect | arrowTypes | functionTypes =>
    cases List.mem_singleton.mp member
    exact ⟨depth, marked⟩
  | _ => cases member

/-- A step of a chain does not give the role of a return type. -/
theorem annotates_step (depth : Nat) (first : Grammar)
    (steps : List (Kind × Before × Option Role × Grammar))
    (marked : annotates depth (.chain first steps) = true) :
    ∀ step ∈ steps, step.2.2.1 ≠ some .returnType := by
  cases depth with
  | zero => cases marked
  | succ depth =>
    intro step listed
    have continuing := List.all_eq_true.mp (Bool.and_eq_true_iff.mp marked).2 step listed
    simpa using (Bool.and_eq_true_iff.mp continuing).1

/-- A type with a node of its own: the node reaches from here to the end of the type. -/
theorem follow_typeNode (depth fuel : Nat) (setting : Setting) (g : Grammar) (p q : Place)
    (eating : eats Rule.grammar depth g = true) (ordered : p.Ordered)
    (followed : follow Rule.grammar fuel setting (.node .other g) p = some q) :
    p.position < q.last ∧ ∃ type : Tree, type.label.named = true ∧
      type.label.start = p.position ∧ type.label.stop = q.last ∧
      q.trees = type :: p.settle.trees := by
  cases fuel with
  | zero => cases followed
  | succ fuel =>
    obtain ⟨r, inner, rfl⟩ := Option.map_eq_some_iff.mp followed
    have beyond := follow_eats Rule.grammar depth fuel setting g
      { p.settle with trees := [] } r eating ordered inner
    exact ⟨beyond, _, rfl, rfl, rfl, rfl⟩

/-- The word `const` alone is read as a type without a node. -/
theorem follow_const (fuel : Nat) (setting : Setting) (g : Grammar) (p q : Place)
    (followed : follow Rule.grammar fuel setting (.sequence [word "const", .notAhead g]) p =
      some q) :
    (∃ after, p.rest = "const".toList ++ after) ∧ q.last = p.position + 5 ∧
      q.trees = p.settle.trees := by
  cases fuel with
  | zero => cases followed
  | succ fuel =>
    obtain ⟨a, taken, further⟩ := Option.bind_eq_some_iff.mp followed
    obtain ⟨b, ahead, last⟩ := Option.bind_eq_some_iff.mp further
    cases last
    cases fuel with
    | zero => cases taken
    | succ fuel =>
      obtain ⟨m, read, rfl⟩ := Option.map_eq_some_iff.mp taken
      have same : q = p.take m none true := follow_notAhead _ _ setting g _ q ahead
      have letters := Terminal.read_word "const" p.rest m read
      have split := Terminal.read_splits (.word "const") p.rest m read
      subst same
      refine ⟨⟨m.2, ?_⟩, ?_, rfl⟩
      · rw [← letters]
        exact split.symm
      · rw [p.take_last, letters, byteLength_const]

/-- A declared return type is read into the node of an annotation. -/
theorem follow_returnAscription (source : List Char) (fuel : Nat) (setting : Setting)
    (p q : Place) (ordered : p.Ordered)
    (aligned : ∃ before, source = before ++ p.rest ∧ byteLength before = p.position)
    (followed : follow Rule.grammar fuel setting returnAscription p = some q) :
    ∃ l children, q.trees = .node l children :: p.settle.trees ∧ l.kind ≠ .comment ∧
      DeclaresType source l children := by
  cases fuel with
  | zero => cases followed
  | succ fuel =>
    obtain ⟨r, inner, rfl⟩ := Option.map_eq_some_iff.mp followed
    cases fuel with
    | zero => cases inner
    | succ fuel =>
      obtain ⟨a, colon, further⟩ := Option.bind_eq_some_iff.mp inner
      obtain ⟨s, chosen, last⟩ := Option.bind_eq_some_iff.mp further
      cases last
      cases fuel with
      | zero => cases colon
      | succ fuel =>
        obtain ⟨m, read, rfl⟩ := Option.map_eq_some_iff.mp colon
        obtain ⟨before, whole, position⟩ := aligned
        have split := Terminal.read_splits (.signs ":") p.rest m read
        have reached := Place.take_reaches { p.settle with trees := [] } m none true ordered split
        obtain ⟨behind, stripped, rfl⟩ := Option.map_eq_some_iff.mp read
        have text : p.rest = ':' :: behind := (stripStart_some_iff _ _ _).mp stripped
        refine ⟨_, _, rfl, by simp, before, behind, by rw [whole, text], position, ?_⟩
        intro gap comments
        let start : Place := { p.settle with trees := [] }
        have waiting : (start.take (":".toList, behind) none true).settle.trees.reverse =
            comments := by
          have settled : (start.take (":".toList, behind) none true).settle.trees =
              (gap.comments ++ []).map commentTree ++ [] := rfl
          rw [settled, List.append_nil, List.append_nil, ← List.map_reverse]
        obtain ⟨g, listed, typed⟩ := List.exists_of_findSome?_eq_some chosen
        have ofNode (g : Grammar) (eating : eats Rule.grammar 14 g = true)
            (read : follow Rule.grammar fuel setting (.node .other g)
              (start.take (":".toList, behind) none true) = some r) :
            gap.position < r.last ∧ ∃ type : Tree, type.label.named = true ∧
              type.label.start = gap.position ∧ type.label.stop = r.last ∧
              r.trees.reverse = comments ++ [type] := by
          obtain ⟨beyond, type, named, first, last, trees⟩ :=
            follow_typeNode 14 fuel setting g _ r eating reached.ordered read
          refine ⟨beyond, type, named, first, last, ?_⟩
          rw [trees, List.reverse_cons, waiting]
        simp only [List.mem_cons, List.not_mem_nil, or_false] at listed
        rcases listed with rfl | rfl | rfl | rfl
        · obtain ⟨beyond, type⟩ := ofNode asserts (by decide +kernel) typed
          exact ⟨beyond, .inl type⟩
        · obtain ⟨beyond, type⟩ := ofNode predicate (by decide +kernel) typed
          exact ⟨beyond, .inl type⟩
        · obtain ⟨⟨after, word⟩, last, trees⟩ := follow_const fuel setting _ _ r typed
          have stop : r.last = gap.position + 5 := last
          refine ⟨by dsimp only; omega, .inr ⟨after, word, stop, ?_⟩⟩
          rw [trees, waiting]
        · obtain ⟨beyond, type⟩ := ofNode (.rule .type) (by decide +kernel) typed
          exact ⟨beyond, .inl type⟩

/-- Where a grammar gives the role of a return type to annotations only, so do the trees that are
read. -/
theorem annotates_preserves (source : List Char) :
    Preserves Rule.grammar source (fun g => ∃ depth, annotates depth g = true)
      (Annotated source) where
  named r := ⟨40, rules_annotate r⟩
  parts g := by
    rintro ⟨_ | depth, marked⟩
    · cases marked
    · exact annotates_parts depth g marked
  comment _ _ _ _ := annotated_roleless source _ _ rfl
  leaf _ _ _ _ _ _ _ _ := annotated_roleless source _ _ rfl
  node _ _ _ _ _ _ _ _ _ := annotated_roleless source _ _ rfl
  role role g := by
    rintro ⟨depth, marked⟩ fuel setting p q inside followed t read _ _
    by_cases returned : role = .returnType
    · subst returned
      cases annotates_returnType depth g marked
      cases fuel with
      | zero => cases followed
      | succ fuel =>
        obtain ⟨l, children, trees, _, declares⟩ := follow_returnAscription source fuel setting
          { p.settle with trees := [] } q inside.ordered inside.aligned followed
        have only : q.trees = [.node l children] := trees
        rw [only, List.mem_singleton] at read
        subst read
        exact fun _ => declares
    · exact annotated_withRole source role _ _ returned
  step _ _ _ _ _ _ _ _ _ := annotated_roleless source _ _ rfl
  stepRole first steps := by
    rintro ⟨depth, marked⟩ step listed role asked l children _
    refine annotated_withRole source role l children ?_
    rintro rfl
    exact annotates_step depth first steps marked step listed asked

/-- Following a grammar of the language reads trees in which annotations alone play the role of
a return type. -/
theorem follow_fits (source : List Char) (fuel depth : Nat) (setting : Setting) (g : Grammar)
    (p q : Place) (marked : annotates depth g = true) (fits : p.Fits source)
    (followed : follow Rule.grammar fuel setting g p = some q) : q.Fits source :=
  (q.fits_iff_holds source).mpr <|
    (annotates_preserves source).follow fuel setting g p q ⟨depth, marked⟩
      ((p.fits_iff_holds source).mp fits) followed

end Grammar

end ResultLint.Source
