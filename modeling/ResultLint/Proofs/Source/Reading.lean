import ResultLint.Source.Grammar.Basic
import ResultLint.Proofs.Source.Terminal
import ResultLint.Proofs.Source.Trivia

/-!
How far a grammar leads. Following one takes a leading part off the text, moves the position by
its bytes, and never moves the end of the last token back; a grammar that begins with a token of
fixed form moves it on.
-/
namespace ResultLint.Source.Grammar

open Text

namespace Place

/-- The last token ends on its line, and the line no later than the place. -/
def Ordered (p : Place) : Prop :=
  p.last ≤ p.lineStop ∧ p.lineStop ≤ p.position

/-- Where reading may lead from a place. -/
structure Reaches (p q : Place) : Prop where
  text : ∃ passed, p.rest = passed ++ q.rest ∧ q.position = p.position + byteLength passed
  last : p.last ≤ q.last
  ordered : q.Ordered

theorem reaches_refl (p : Place) (ordered : p.Ordered) : p.Reaches p :=
  ⟨⟨[], rfl, rfl⟩, Nat.le_refl _, ordered⟩

theorem Reaches.trans {p q r : Place} (first : p.Reaches q) (second : q.Reaches r) :
    p.Reaches r := by
  obtain ⟨⟨front, whole, moved⟩, later, _⟩ := first
  obtain ⟨⟨back, rest, onward⟩, latest, ordered⟩ := second
  refine ⟨⟨front ++ back, ?_, ?_⟩, Nat.le_trans later latest, ordered⟩
  · rw [whole, rest, List.append_assoc]
  · rw [onward, moved, byteLength_append, Nat.add_assoc]

theorem Reaches.position_le {p q : Place} (reached : p.Reaches q) : p.position ≤ q.position := by
  obtain ⟨passed, _, moved⟩ := reached.text
  omega

theorem afterTrivia_reaches (p : Place) (ordered : p.Ordered) : p.Reaches p.afterTrivia := by
  have passes := Trivia.skip_passes p.position p.rest
  refine ⟨passes.text, Nat.le_refl _, ?_, passes.lineStop.2⟩
  have first : p.last ≤ p.position := Nat.le_trans ordered.1 ordered.2
  exact Nat.le_trans first passes.lineStop.1

/-- A place that a token leads to, where the token ends. -/
theorem reaches_of_match (p q : Place) (m : Terminal.Match) (ordered : p.Ordered)
    (split : m.Splits p.rest) (rest : q.rest = m.2)
    (position : q.position = p.position + byteLength m.1)
    (last : q.last = q.position) (lineStop : q.lineStop = q.position) : p.Reaches q := by
  have bound := ordered
  unfold Ordered at bound
  refine ⟨⟨m.1, ?_, position⟩, ?_, ?_, ?_⟩
  · rw [rest]
    exact split.symm
  · omega
  · omega
  · omega

theorem take_reaches (p : Place) (m : Terminal.Match) (leaf : Option (Kind × Bool))
    (loose : Bool) (ordered : p.Ordered) (split : m.Splits p.rest) :
    p.Reaches (p.take m leaf loose) := by
  cases loose with
  | false => exact reaches_of_match p _ m ordered split rfl rfl rfl rfl
  | true =>
    have tight : p.Reaches (p.take m leaf false) :=
      reaches_of_match p _ m ordered split rfl rfl rfl rfl
    exact tight.trans (afterTrivia_reaches _ tight.ordered)

theorem take_last (p : Place) (m : Terminal.Match) (leaf : Option (Kind × Bool))
    (loose : Bool) : (p.take m leaf loose).last = p.position + byteLength m.1 := by
  cases loose <;> rfl

theorem endLine_reaches (p : Place) (ordered : p.Ordered) : p.Reaches p.endLine :=
  ⟨⟨[], rfl, rfl⟩, ordered.1, Nat.le_refl _, ordered.2⟩

end Place

/-- What every step keeps, repeating the step keeps. -/
theorem iterate_invariant (holds : Place → Prop) (step : Place → Option Place)
    (kept : ∀ q r, holds q → step q = some r → holds r) (fuel : Nat) (p : Place)
    (start : holds p) : holds (iterate step fuel p) := by
  induction fuel generalizing p with
  | zero => exact start
  | succ fuel ih =>
    unfold iterate
    split
    · next q stepped =>
      split
      · exact ih q (kept p q start stepped)
      · exact start
    · exact start

/-- What every part keeps, the parts one after the other keep. -/
theorem foldlM_invariant (holds : Place → Prop) (run : Grammar → Place → Option Place)
    (gs : List Grammar) (kept : ∀ g ∈ gs, ∀ q r, holds q → run g q = some r → holds r)
    (p q : Place) (start : holds p) (followed : gs.foldlM (fun q g => run g q) p = some q) :
    holds q := by
  induction gs generalizing p with
  | nil =>
    cases followed
    exact start
  | cons g gs ih =>
    rw [List.forall_mem_cons] at kept
    rw [List.foldlM_cons] at followed
    obtain ⟨r, first, others⟩ := Option.bind_eq_some_iff.mp followed
    exact ih kept.2 r (kept.1 p r start first) others

/-- Looking ahead leaves the place as it is. -/
theorem follow_notAhead (rules : Rule → Grammar) (fuel : Nat) (setting : Setting) (g : Grammar)
    (p q : Place) (followed : follow rules fuel setting (.notAhead g) p = some q) : q = p := by
  cases fuel with
  | zero => cases followed
  | succ fuel =>
    rw [follow] at followed
    split at followed
    · cases followed
    · exact (Option.some.inj followed).symm

/-- Following a grammar only ever leads onward. -/
theorem follow_reaches (rules : Rule → Grammar) (fuel : Nat) (setting : Setting) (g : Grammar)
    (p q : Place) (ordered : p.Ordered) (followed : follow rules fuel setting g p = some q) :
    p.Reaches q := by
  induction fuel generalizing setting g p q with
  | zero => cases followed
  | succ fuel ih =>
    cases g with
    | token t leaf =>
      obtain ⟨m, read, rfl⟩ := Option.map_eq_some_iff.mp followed
      exact p.take_reaches m leaf true ordered (t.read_splits p.rest m read)
    | tight t =>
      obtain ⟨m, read, rfl⟩ := Option.map_eq_some_iff.mp followed
      exact p.take_reaches m none false ordered (t.read_splits p.rest m read)
    | sequence gs =>
      exact foldlM_invariant p.Reaches (follow rules fuel setting) gs
        (fun g _ q r reached step => reached.trans (ih setting g q r reached.ordered step))
        p q (p.reaches_refl ordered) followed
    | choice gs =>
      obtain ⟨g, _, chosen⟩ := List.exists_of_findSome?_eq_some followed
      exact ih setting g p q ordered chosen
    | optional g =>
      cases inner : follow rules fuel setting g p with
      | none =>
        rw [follow, inner] at followed
        cases followed
        exact Place.reaches_refl _ ordered
      | some r =>
        rw [follow, inner] at followed
        cases followed
        exact ih setting g p _ ordered inner
    | many g =>
      cases followed
      exact iterate_invariant p.Reaches (follow rules fuel setting g)
        (fun q r reached step => reached.trans (ih setting g q r reached.ordered step))
        fuel p (p.reaches_refl ordered)
    | node kind g =>
      obtain ⟨r, inner, rfl⟩ := Option.map_eq_some_iff.mp followed
      have reached := ih setting g { p.settle with trees := [] } r ordered inner
      exact ⟨reached.text, reached.last, reached.ordered⟩
    | role part g =>
      obtain ⟨r, inner, rfl⟩ := Option.map_eq_some_iff.mp followed
      have reached := ih setting g { p.settle with trees := [] } r ordered inner
      exact ⟨reached.text, reached.last, reached.ordered⟩
    | chain first steps =>
      obtain ⟨r, inner, rfl⟩ := Option.map_eq_some_iff.mp followed
      have reached := ih setting first { p.settle with trees := [] } r ordered inner
      have closed (s : Place) (further : r.Reaches s) :
          p.Reaches { s with trees := s.trees ++ p.settle.trees } := by
        have whole := reached.trans further
        exact ⟨whole.text, whole.last, whole.ordered⟩
      refine closed _ (iterate_invariant r.Reaches _ ?_ fuel r (r.reaches_refl reached.ordered))
      intro q s before stepped
      obtain ⟨⟨kind, asked, part, g⟩, _, chosen⟩ := List.exists_of_findSome?_eq_some stepped
      obtain ⟨_, further⟩ := Option.ite_none_right_eq_some.mp chosen
      obtain ⟨next, inside, rfl⟩ := Option.map_eq_some_iff.mp further
      have onward := ih setting g { q with trees := [] } next before.ordered inside
      exact before.trans ⟨onward.text, onward.last, onward.ordered⟩
    | rule r => exact ih setting (rules r) p q ordered followed
    | within shift g => exact ih (shift.apply setting) g p q ordered followed
    | ahead g =>
      obtain ⟨_, _, rfl⟩ := Option.map_eq_some_iff.mp followed
      exact p.reaches_refl ordered
    | notAhead g =>
      rw [follow_notAhead rules (fuel + 1) setting g p q followed]
      exact p.reaches_refl ordered
    | dialect d g =>
      obtain ⟨_, inner⟩ := Option.ite_none_right_eq_some.mp followed
      exact ih setting g p q ordered inner
    | arrowTypes g =>
      obtain ⟨_, inner⟩ := Option.ite_none_right_eq_some.mp followed
      exact ih setting g p q ordered inner
    | functionTypes g =>
      obtain ⟨_, inner⟩ := Option.ite_none_right_eq_some.mp followed
      exact ih setting g p q ordered inner
    | lineSemicolon beforeBody =>
      obtain ⟨_, inner⟩ := Option.ite_none_right_eq_some.mp followed
      cases inner
      exact p.endLine_reaches ordered
    | noSemicolon =>
      obtain ⟨_, inner⟩ := Option.ite_none_left_eq_some.mp followed
      cases inner
      exact Place.reaches_refl _ ordered
    | spacing =>
      cases followed
      exact p.afterTrivia_reaches ordered
    | finish =>
      obtain ⟨_, inner⟩ := Option.ite_none_right_eq_some.mp followed
      cases inner
      exact Place.reaches_refl _ ordered

theorem sequence_reaches (rules : Rule → Grammar) (fuel : Nat) (setting : Setting)
    (gs : List Grammar) (p q : Place) (ordered : p.Ordered)
    (followed : gs.foldlM (fun q g => follow rules fuel setting g q) p = some q) : p.Reaches q :=
  foldlM_invariant p.Reaches (follow rules fuel setting) gs
    (fun g _ q r reached step =>
      reached.trans (follow_reaches rules fuel setting g q r reached.ordered step))
    p q (p.reaches_refl ordered) followed

/-- Trees that were read stay where they are, in front of those that are read behind them. -/
theorem follow_adds (rules : Rule → Grammar) (fuel : Nat) (setting : Setting) (g : Grammar)
    (p q : Place) (followed : follow rules fuel setting g p = some q) : p.trees <:+ q.trees := by
  have settled (r : Place) : r.trees <:+ r.settle.trees := List.suffix_append _ _
  induction fuel generalizing setting g p q with
  | zero => cases followed
  | succ fuel ih =>
    cases g with
    | token t leaf =>
      obtain ⟨m, read, rfl⟩ := Option.map_eq_some_iff.mp followed
      cases leaf with
      | none => exact settled p
      | some leaf => exact (settled p).trans (List.suffix_cons _ _)
    | tight t =>
      obtain ⟨m, read, rfl⟩ := Option.map_eq_some_iff.mp followed
      exact settled p
    | sequence gs =>
      exact foldlM_invariant (fun q => p.trees <:+ q.trees) (follow rules fuel setting) gs
        (fun g _ q r before step => before.trans (ih setting g q r step)) p q
        (List.suffix_refl _) followed
    | choice gs =>
      obtain ⟨g, _, chosen⟩ := List.exists_of_findSome?_eq_some followed
      exact ih setting g p q chosen
    | optional g =>
      rw [follow] at followed
      cases inner : follow rules fuel setting g p with
      | none =>
        rw [inner] at followed
        cases followed
        exact List.suffix_refl _
      | some r =>
        rw [inner] at followed
        cases followed
        exact ih setting g p _ inner
    | many g =>
      cases followed
      exact iterate_invariant (fun q => p.trees <:+ q.trees) (follow rules fuel setting g)
        (fun q r before step => before.trans (ih setting g q r step)) fuel p (List.suffix_refl _)
    | node kind g =>
      obtain ⟨r, _, rfl⟩ := Option.map_eq_some_iff.mp followed
      exact (settled p).trans (List.suffix_cons _ _)
    | role part g =>
      obtain ⟨r, _, rfl⟩ := Option.map_eq_some_iff.mp followed
      exact (settled p).trans (List.suffix_append _ _)
    | chain first steps =>
      obtain ⟨r, _, rfl⟩ := Option.map_eq_some_iff.mp followed
      exact (settled p).trans (List.suffix_append _ _)
    | rule r => exact ih setting (rules r) p q followed
    | within shift g => exact ih (shift.apply setting) g p q followed
    | ahead g =>
      obtain ⟨_, _, rfl⟩ := Option.map_eq_some_iff.mp followed
      exact List.suffix_refl _
    | notAhead g =>
      rw [follow_notAhead rules (fuel + 1) setting g p q followed]
    | dialect d g =>
      obtain ⟨_, inner⟩ := Option.ite_none_right_eq_some.mp followed
      exact ih setting g p q inner
    | arrowTypes g =>
      obtain ⟨_, inner⟩ := Option.ite_none_right_eq_some.mp followed
      exact ih setting g p q inner
    | functionTypes g =>
      obtain ⟨_, inner⟩ := Option.ite_none_right_eq_some.mp followed
      exact ih setting g p q inner
    | lineSemicolon beforeBody =>
      obtain ⟨_, inner⟩ := Option.ite_none_right_eq_some.mp followed
      cases inner
      exact List.suffix_append _ _
    | noSemicolon =>
      obtain ⟨_, inner⟩ := Option.ite_none_left_eq_some.mp followed
      cases inner
      exact List.suffix_refl _
    | spacing =>
      cases followed
      exact List.suffix_refl _
    | finish =>
      obtain ⟨_, inner⟩ := Option.ite_none_right_eq_some.mp followed
      cases inner
      exact List.suffix_refl _

/-- Whether a grammar has to read a token to be followed, as far as a number of steps into it
shows. -/
def eats (rules : Rule → Grammar) : Nat → Grammar → Bool
  | 0, _ => false
  | depth + 1, g =>
    match g with
    | .token t _ | .tight t => t.isSolid
    | .sequence gs => gs.any (eats rules depth)
    | .choice gs => gs.all (eats rules depth)
    | .node _ g | .within _ g | .dialect _ g | .arrowTypes g | .functionTypes g =>
      eats rules depth g
    | .rule r => eats rules depth (rules r)
    | _ => false

theorem take_eats (p : Place) (m : Terminal.Match) (leaf : Option (Kind × Bool)) (loose : Bool)
    (t : Terminal) (solid : t.isSolid = true) (read : t.read p.rest = some m) :
    p.position < (p.take m leaf loose).last := by
  have taken := byteLength_pos m.1 (t.read_ne_nil solid p.rest m read)
  rw [p.take_last m leaf loose]
  omega

/-- A grammar that eats leads beyond the place where it is followed. -/
theorem follow_eats (rules : Rule → Grammar) (depth fuel : Nat) (setting : Setting) (g : Grammar)
    (p q : Place) (eating : eats rules depth g = true) (ordered : p.Ordered)
    (followed : follow rules fuel setting g p = some q) : p.position < q.last := by
  induction depth generalizing fuel setting g p q with
  | zero => cases eating
  | succ depth ih =>
    cases fuel with
    | zero => cases followed
    | succ fuel =>
      cases g with
      | token t leaf =>
        obtain ⟨m, read, rfl⟩ := Option.map_eq_some_iff.mp followed
        exact take_eats p m leaf true t eating read
      | tight t =>
        obtain ⟨m, read, rfl⟩ := Option.map_eq_some_iff.mp followed
        exact take_eats p m none false t eating read
      | sequence gs =>
        obtain ⟨g, listed, eats⟩ := List.any_eq_true.mp eating
        obtain ⟨front, back, rfl⟩ := List.append_of_mem listed
        rw [follow, List.foldlM_append] at followed
        obtain ⟨r, before, further⟩ := Option.bind_eq_some_iff.mp followed
        rw [List.foldlM_cons] at further
        obtain ⟨s, here, after⟩ := Option.bind_eq_some_iff.mp further
        have start := sequence_reaches rules fuel setting front p r ordered before
        have eaten := ih fuel setting g r s eats start.ordered here
        have placed := (follow_reaches rules fuel setting g r s start.ordered here).ordered
        have finish := sequence_reaches rules fuel setting back s q placed after
        exact Nat.lt_of_le_of_lt start.position_le (Nat.lt_of_lt_of_le eaten finish.last)
      | choice gs =>
        obtain ⟨g, listed, chosen⟩ := List.exists_of_findSome?_eq_some followed
        exact ih fuel setting g p q (List.all_eq_true.mp eating g listed) ordered chosen
      | node kind g =>
        obtain ⟨r, inner, rfl⟩ := Option.map_eq_some_iff.mp followed
        exact ih fuel setting g { p.settle with trees := [] } r eating ordered inner
      | rule r => exact ih fuel setting (rules r) p q eating ordered followed
      | within shift g => exact ih fuel (shift.apply setting) g p q eating ordered followed
      | dialect d g =>
        obtain ⟨_, inner⟩ := Option.ite_none_right_eq_some.mp followed
        exact ih fuel setting g p q eating ordered inner
      | arrowTypes g =>
        obtain ⟨_, inner⟩ := Option.ite_none_right_eq_some.mp followed
        exact ih fuel setting g p q eating ordered inner
      | functionTypes g =>
        obtain ⟨_, inner⟩ := Option.ite_none_right_eq_some.mp followed
        exact ih fuel setting g p q eating ordered inner
      | _ => cases eating

end ResultLint.Source.Grammar
