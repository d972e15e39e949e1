import Mathlib.Data.List.Basic
import ResultLint.Regex.Basic

/-!
What an expression matches. A piece of a text matches between what stands before it and what stands
behind it, since assertions look at both sides. A piece that begins with a character matches just if
the rest of it matches one of the expressions that the character leaves; so the search over a text
finds a match exactly if some piece of the text is one.
-/
namespace ResultLint.Regex

/-- The character before a place that a piece leads up to. -/
def lastOf (before : Option Char) : List Char → Option Char
  | [] => before
  | c :: cs => lastOf (some c) cs

/-- A piece that is made of a number of pieces, each of which matches. -/
def Times (once : Option Char → List Char → List Char → Prop) :
    Nat → Option Char → List Char → List Char → Prop
  | 0, _, piece, _ => piece = []
  | n + 1, before, piece, rest => ∃ u v, piece = u ++ v ∧ once before u (v ++ rest) ∧
      Times once n (lastOf before u) v rest

/-- A piece of a text that an expression matches, behind a character and before the rest. -/
def Matches : Regex → Option Char → List Char → List Char → Prop
  | .empty, _, piece, _ => piece = []
  | .char set, _, piece, _ => ∃ c, piece = [c] ∧ set.contains c = true
  | .assertion a, before, piece, rest => piece = [] ∧ a.holds ⟨before, rest.head?⟩ = true
  | .seq first second, before, piece, rest => ∃ u v, piece = u ++ v ∧
      first.Matches before u (v ++ rest) ∧ second.Matches (lastOf before u) v rest
  | .alt left right, before, piece, rest =>
      left.Matches before piece rest ∨ right.Matches before piece rest
  | .repeated r least most, before, piece, rest => ∃ n, least ≤ n ∧
      (∀ m, most = some m → n ≤ m) ∧ Times r.Matches n before piece rest

/-- No repetition in an expression asks for more than it admits. -/
def Sensible : Regex → Prop
  | .seq first second => first.Sensible ∧ second.Sensible
  | .alt left right => left.Sensible ∧ right.Sensible
  | .repeated r least most => r.Sensible ∧ ∀ m, most = some m → least ≤ m
  | _ => True

theorem lastOf_append (before : Option Char) (u v : List Char) :
    lastOf before (u ++ v) = lastOf (lastOf before u) v := by
  induction u generalizing before with
  | nil => rfl
  | cons c u ih => exact ih (some c)

theorem lastOf_none_iff (lead : List Char) : lastOf none lead = none ↔ lead = [] := by
  have seen (c : Char) (cs : List Char) : lastOf (some c) cs ≠ none := by
    induction cs generalizing c with
    | nil => simp [lastOf]
    | cons d ds ih => exact ih d
  cases lead with
  | nil => simp [lastOf]
  | cons c cs => simp [lastOf, seen]

section Repetition

variable {once : Option Char → List Char → List Char → Prop} {before : Option Char}
  {piece rest : List Char}

/-- Pieces that match nothing can be put in front. -/
theorem times_pad (idle : once before [] (piece ++ rest)) (n k : Nat)
    (times : Times once n before piece rest) : Times once (n + k) before piece rest := by
  induction k with
  | zero => exact times
  | succ k ih => exact ⟨[], piece, rfl, idle, ih⟩

/-- The first character is taken by the first piece that is not empty; what stands before that one
matches nothing, there and then. -/
theorem times_cons (n : Nat) (c : Char) (w : List Char)
    (times : Times once n before (c :: w) rest) :
    ∃ k m u v, n = k + (m + 1) ∧ w = u ++ v ∧ (k ≠ 0 → once before [] (c :: w ++ rest)) ∧
      once before (c :: u) (v ++ rest) ∧ Times once m (lastOf (some c) u) v rest := by
  induction n with
  | zero => cases times
  | succ n ih =>
    obtain ⟨u, v, whole, first, others⟩ := times
    cases u with
    | nil =>
      rw [List.nil_append] at whole
      subst whole
      obtain ⟨k, m, u, v, count, rfl, -, begun, behind⟩ := ih others
      exact ⟨k + 1, m, u, v, by omega, rfl, fun _ => first, begun, behind⟩
    | cons d u =>
      rw [List.cons_append, List.cons.injEq] at whole
      obtain ⟨rfl, rfl⟩ := whole
      exact ⟨0, n, u, v, by omega, rfl, by simp, first, others⟩

end Repetition

section Steps

variable {before : Option Char} {rest : List Char}

theorem nullable_iff (r : Regex) (sensible : r.Sensible) :
    r.nullable ⟨before, rest.head?⟩ = true ↔ r.Matches before [] rest := by
  induction r with
  | empty => simp [nullable, Matches]
  | char set => simp [nullable, Matches]
  | assertion a => simp [nullable, Matches]
  | seq a b iha ihb =>
    rw [nullable, Bool.and_eq_true, iha sensible.1, ihb sensible.2]
    constructor
    · rintro ⟨first, second⟩
      exact ⟨[], [], rfl, first, second⟩
    · rintro ⟨u, v, whole, first, second⟩
      obtain ⟨rfl, rfl⟩ := List.append_eq_nil_iff.mp whole.symm
      exact ⟨first, second⟩
  | alt a b iha ihb =>
    rw [nullable, Bool.or_eq_true, iha sensible.1, ihb sensible.2]
    rfl
  | repeated r least most ih =>
    rw [nullable, Bool.or_eq_true, beq_iff_eq, ih sensible.1]
    constructor
    · rintro (rfl | idle)
      · exact ⟨0, Nat.le_refl 0, fun m _ => Nat.zero_le m, rfl⟩
      · refine ⟨least, Nat.le_refl _, sensible.2, ?_⟩
        have none : Times r.Matches 0 before [] rest := rfl
        have padded := times_pad idle 0 least none
        rwa [Nat.zero_add] at padded
    · rintro ⟨n, enough, -, times⟩
      cases n with
      | zero => exact .inl (Nat.le_zero.mp enough)
      | succ n =>
        obtain ⟨u, v, whole, first, -⟩ := times
        obtain ⟨rfl, rfl⟩ := List.append_eq_nil_iff.mp whole.symm
        exact .inr first

theorem followedBy_matches (a b : Regex) (piece : List Char) :
    (a.followedBy b).Matches before piece rest ↔ (Regex.seq a b).Matches before piece rest := by
  unfold followedBy
  split
  · constructor
    · intro second
      exact ⟨[], piece, rfl, rfl, second⟩
    · rintro ⟨u, v, rfl, idle, second⟩
      cases idle
      exact second
  · rfl

theorem followedBy_sensible (a b : Regex) (left : a.Sensible) (right : b.Sensible) :
    (a.followedBy b).Sensible := by
  unfold followedBy
  split
  · exact right
  · exact ⟨left, right⟩

theorem step_sensible (c : Char) (r : Regex) (sensible : r.Sensible) :
    ∀ s ∈ r.step before c, s.Sensible := by
  induction r with
  | empty | assertion => simp [step]
  | char set =>
    intro s member
    rw [step] at member
    split at member
    · rw [List.mem_singleton.mp member]
      trivial
    · cases member
  | seq a b iha ihb =>
    intro s member
    rcases List.mem_append.mp member with first | second
    · obtain ⟨s, inner, rfl⟩ := List.mem_map.mp first
      exact followedBy_sensible s b (iha sensible.1 s inner) sensible.2
    · split at second
      · exact ihb sensible.2 s second
      · cases second
  | alt a b iha ihb =>
    intro s member
    rcases List.mem_append.mp member with left | right
    · exact iha sensible.1 s left
    · exact ihb sensible.2 s right
  | repeated r least most ih =>
    intro s member
    rw [step] at member
    split at member
    · cases member
    · obtain ⟨s, inner, rfl⟩ := List.mem_map.mp member
      refine followedBy_sensible s _ (ih sensible.1 s inner) ?_
      split
      · exact ⟨sensible.1, fun m _ => Nat.zero_le m⟩
      · refine ⟨sensible.1, ?_⟩
        intro m fewer
        obtain ⟨m, rfl, rfl⟩ := Option.map_eq_some_iff.mp fewer
        exact Nat.sub_le_sub_right (sensible.2 m rfl) 1

/-- What is left of a repetition behind a character. Where the repeated expression can match nothing
the pieces before the character are free, so no least number of pieces remains. -/
theorem step_repeated_iff (r : Regex) (least : Nat) (most : Option Nat) (c : Char) (w : List Char)
    (sensible : (Regex.repeated r least most).Sensible)
    (once : ∀ u v, r.Matches before (c :: u) v ↔
      ∃ s ∈ r.step before c, s.Matches (some c) u v) :
    (Regex.repeated r least most).Matches before (c :: w) rest ↔
      ∃ s ∈ (Regex.repeated r least most).step before c, s.Matches (some c) w rest := by
  have idle (u : List Char) :
      r.nullable ⟨before, some c⟩ = true ↔ r.Matches before [] (c :: u ++ rest) :=
    @nullable_iff _ (c :: u ++ rest) r sensible.1
  rw [step]
  by_cases spent : most = some 0
  · rw [if_pos spent]
    constructor
    · rintro ⟨n, -, few, times⟩
      obtain rfl : n = 0 := Nat.le_zero.mp (few 0 spent)
      cases times
    · simp
  rw [if_neg spent]
  simp only [List.mem_map, exists_exists_and_eq_and, followedBy_matches]
  constructor
  · rintro ⟨n, enough, few, times⟩
    obtain ⟨k, m, u, v, rfl, rfl, idled, begun, others⟩ := times_cons n c w times
    obtain ⟨s, left, taken⟩ := (once u (v ++ rest)).mp begun
    refine ⟨s, left, u, v, rfl, taken, ?_⟩
    have bound (l : Nat) (fewer : most.map (· - 1) = some l) : m ≤ l := by
      obtain ⟨l, rfl, rfl⟩ := Option.map_eq_some_iff.mp fewer
      have whole := few l rfl
      omega
    split
    · exact ⟨m, Nat.zero_le m, bound, others⟩
    · next firm =>
      have first : k = 0 := by
        by_contra ahead
        exact firm ((idle (u ++ v)).mpr (idled ahead))
      exact ⟨m, by omega, bound, others⟩
  · rintro ⟨s, left, u, v, rfl, taken, again⟩
    have begun := (once u (v ++ rest)).mpr ⟨s, left, taken⟩
    have more (m : Nat) (others : Times r.Matches m (lastOf (some c) u) v rest) :
        Times r.Matches (m + 1) before (c :: (u ++ v)) rest :=
      ⟨c :: u, v, rfl, begun, others⟩
    have bound (m l : Nat) (few : ∀ l, most.map (· - 1) = some l → m ≤ l) (some_ : most = some l) :
        m + 1 ≤ l := by
      subst some_
      have fewer := few (l - 1) rfl
      have positive : l ≠ 0 := fun zero => spent (by rw [zero])
      omega
    split at again
    · next free =>
      obtain ⟨m, -, few, others⟩ := again
      -- pieces that match nothing make up for those that are missing at the beginning
      refine ⟨m + 1 + (least - (m + 1)), by omega, ?_, ?_⟩
      · intro l some_
        have least_le := sensible.2 l some_
        have reached := bound m l few some_
        omega
      · exact times_pad ((idle (u ++ v)).mp free) _ _ (more m others)
    · obtain ⟨m, enough, few, others⟩ := again
      exact ⟨m + 1, by omega, fun l some_ => bound m l few some_, more m others⟩

/-- A piece with a first character matches just if its rest matches what the character leaves. -/
theorem step_iff (r : Regex) (sensible : r.Sensible) (c : Char) (w : List Char) :
    r.Matches before (c :: w) rest ↔ ∃ s ∈ r.step before c, s.Matches (some c) w rest := by
  induction r generalizing w rest with
  | empty | assertion => simp [Matches, step]
  | char set =>
    rw [step]
    split
    · next inside => simp [Matches, inside]
    · next outside =>
      simp only [List.not_mem_nil, false_and, exists_false, iff_false]
      rintro ⟨d, same, inside⟩
      cases same
      exact outside inside
  | seq a b iha ihb =>
    rw [step]
    simp only [List.mem_append, List.mem_map, or_and_right, exists_or, exists_exists_and_eq_and,
      followedBy_matches]
    have idle : a.nullable ⟨before, some c⟩ = true ↔ a.Matches before [] (c :: w ++ rest) :=
      @nullable_iff _ (c :: w ++ rest) a sensible.1
    constructor
    · rintro ⟨u, v, whole, first, second⟩
      cases u with
      | nil =>
        rw [List.nil_append] at whole
        subst whole
        rw [if_pos (idle.mpr first)]
        exact .inr ((ihb sensible.2 w).mp second)
      | cons d u =>
        rw [List.cons_append, List.cons.injEq] at whole
        obtain ⟨rfl, rfl⟩ := whole
        obtain ⟨s, left, taken⟩ := (iha sensible.1 u).mp first
        exact .inl ⟨s, left, u, v, rfl, taken, second⟩
    · rintro (⟨s, left, u, v, rfl, taken, second⟩ | ⟨s, right, taken⟩)
      · exact ⟨c :: u, v, rfl, (iha sensible.1 u).mpr ⟨s, left, taken⟩, second⟩
      · split at right
        · next free =>
          exact ⟨[], c :: w, rfl, idle.mp free, (ihb sensible.2 w).mpr ⟨s, right, taken⟩⟩
        · cases right
  | alt a b iha ihb =>
    rw [step]
    simp only [List.mem_append, or_and_right, exists_or, ← iha sensible.1, ← ihb sensible.2]
    rfl
  | repeated r least most ih =>
    exact step_repeated_iff r least most c w sensible fun u v => ih sensible.1 u

end Steps

section Search

variable {states : List Regex} {before : Option Char}

/-- One of some expressions matches what a text begins with. -/
def AnyBegins (states : List Regex) (before : Option Char) (text : List Char) : Prop :=
  ∃ s ∈ states, ∃ u v, text = u ++ v ∧ s.Matches before u v

/-- An expression matches a piece of a text. -/
def Occurs (r : Regex) (before : Option Char) (text : List Char) : Prop :=
  ∃ lead u v, text = lead ++ (u ++ v) ∧ r.Matches (lastOf before lead) u v

theorem anyBegins_nil_iff (all : ∀ s ∈ states, s.Sensible) :
    AnyBegins states before [] ↔ states.any (nullable ⟨before, none⟩) = true := by
  rw [List.any_eq_true]
  refine exists_congr fun s => and_congr_right fun member => ?_
  rw [show (none : Option Char) = ([] : List Char).head? from rfl, nullable_iff s (all s member)]
  constructor
  · rintro ⟨u, v, whole, matched⟩
    obtain ⟨rfl, rfl⟩ := List.append_eq_nil_iff.mp whole.symm
    exact matched
  · intro matched
    exact ⟨[], [], rfl, matched⟩

/-- Of a text with a first character either nothing is matched, or that character and on. -/
theorem anyBegins_cons_iff (all : ∀ s ∈ states, s.Sensible) (c : Char) (cs : List Char) :
    AnyBegins states before (c :: cs) ↔ states.any (nullable ⟨before, some c⟩) = true ∨
      AnyBegins (states.flatMap (step before c)).eraseDups (some c) cs := by
  rw [List.any_eq_true]
  simp only [AnyBegins, List.mem_eraseDups, List.mem_flatMap]
  have stays (s : Regex) (member : s ∈ states) :
      s.nullable ⟨before, some c⟩ = true ↔ s.Matches before [] (c :: cs) :=
    @nullable_iff _ (c :: cs) s (all s member)
  constructor
  · rintro ⟨s, member, u, v, whole, matched⟩
    cases u with
    | nil =>
      rw [List.nil_append] at whole
      subst whole
      exact .inl ⟨s, member, (stays s member).mpr matched⟩
    | cons d u =>
      rw [List.cons_append, List.cons.injEq] at whole
      obtain ⟨rfl, rfl⟩ := whole
      obtain ⟨t, left, taken⟩ := (step_iff s (all s member) c u).mp matched
      exact .inr ⟨t, ⟨s, member, left⟩, u, v, rfl, taken⟩
  · rintro (⟨s, member, nullable⟩ | ⟨t, ⟨s, member, left⟩, u, v, rfl, taken⟩)
    · exact ⟨s, member, [], c :: cs, rfl, (stays s member).mp nullable⟩
    · exact ⟨s, member, c :: u, v, rfl, (step_iff s (all s member) c u).mpr ⟨t, left, taken⟩⟩

theorem anyBegins_cons_states_iff (r : Regex) (text : List Char) :
    AnyBegins (r :: states) before text ↔ AnyBegins [r] before text ∨
      AnyBegins states before text := by
  simp [AnyBegins]

theorem occurs_nil_iff (r : Regex) : r.Occurs before [] ↔ AnyBegins [r] before [] := by
  simp only [Occurs, AnyBegins, List.mem_singleton, exists_eq_left]
  constructor
  · rintro ⟨lead, u, v, whole, matched⟩
    obtain ⟨rfl, pieces⟩ := List.append_eq_nil_iff.mp whole.symm
    exact ⟨u, v, pieces.symm, matched⟩
  · rintro ⟨u, v, whole, matched⟩
    exact ⟨[], u, v, whole, matched⟩

/-- An expression matches a piece at the beginning, or one behind the first character. -/
theorem occurs_cons_iff (r : Regex) (c : Char) (cs : List Char) :
    r.Occurs before (c :: cs) ↔ AnyBegins [r] before (c :: cs) ∨ r.Occurs (some c) cs := by
  simp only [Occurs, AnyBegins, List.mem_singleton, exists_eq_left]
  constructor
  · rintro ⟨lead, u, v, whole, matched⟩
    cases lead with
    | nil => exact .inl ⟨u, v, whole, matched⟩
    | cons d lead =>
      rw [List.cons_append, List.cons.injEq] at whole
      obtain ⟨rfl, rfl⟩ := whole
      exact .inr ⟨lead, u, v, rfl, matched⟩
  · rintro (⟨u, v, whole, matched⟩ | ⟨lead, u, v, rfl, matched⟩)
    · exact ⟨[], u, v, whole, matched⟩
    · exact ⟨c :: lead, u, v, rfl, matched⟩

/-- The search succeeds with a state that matches from here on, or with a later match of the
expression itself. -/
theorem searchFrom_iff (r : Regex) (sensible : r.Sensible) (text : List Char)
    (others : ∀ s ∈ states, s.Sensible) :
    searchFrom r before states text = true ↔
      AnyBegins states before text ∨ r.Occurs before text := by
  induction text generalizing before states with
  | nil =>
    have all : ∀ s ∈ r :: states, s.Sensible := List.forall_mem_cons.mpr ⟨sensible, others⟩
    rw [searchFrom, ← anyBegins_nil_iff all, anyBegins_cons_states_iff, occurs_nil_iff, or_comm]
  | cons c cs ih =>
    have all : ∀ s ∈ r :: states, s.Sensible := List.forall_mem_cons.mpr ⟨sensible, others⟩
    have later : ∀ s ∈ ((r :: states).flatMap (step before c)).eraseDups, s.Sensible := by
      intro s member
      rw [List.mem_eraseDups, List.mem_flatMap] at member
      obtain ⟨origin, listed, left⟩ := member
      exact step_sensible c origin (all origin listed) s left
    rw [searchFrom, Bool.or_eq_true, ih later, ← or_assoc, ← anyBegins_cons_iff all,
      anyBegins_cons_states_iff, occurs_cons_iff, or_assoc, or_left_comm]

/-- An expression matches in a text just if it matches a piece of it. -/
theorem isMatch_iff (r : Regex) (sensible : r.Sensible) (text : List Char) :
    r.isMatch text = true ↔ r.Occurs none text := by
  rw [isMatch, searchFrom_iff r sensible text (by simp)]
  simp [AnyBegins]

end Search

end ResultLint.Regex
