import ResultLint.Proofs.Regex.Matching

/-!
Expressions one after the other. How a sequence is divided does not matter, a literal matches its
own text, and a sequence between the assertions of both ends of the text matches in a text just if
it matches the whole of it.
-/
namespace ResultLint.Regex

section Parts

variable {before : Option Char} {piece rest : List Char}

theorem seqAll_cons_matches (r : Regex) (rs : List Regex) :
    (seqAll (r :: rs)).Matches before piece rest ↔
      (Regex.seq r (seqAll rs)).Matches before piece rest := by
  cases rs with
  | cons s rs => rfl
  | nil =>
    constructor
    · intro matched
      exact ⟨piece, [], (List.append_nil piece).symm, matched, rfl⟩
    · rintro ⟨u, v, rfl, matched, last⟩
      cases last
      rwa [List.append_nil]

theorem seqAll_append_matches (rs ss : List Regex) :
    (seqAll (rs ++ ss)).Matches before piece rest ↔
      (Regex.seq (seqAll rs) (seqAll ss)).Matches before piece rest := by
  induction rs generalizing before piece with
  | nil =>
    constructor
    · intro matched
      exact ⟨[], piece, rfl, rfl, matched⟩
    · rintro ⟨u, v, rfl, first, matched⟩
      cases first
      exact matched
  | cons r rs ih =>
    rw [List.cons_append, seqAll_cons_matches]
    constructor
    · rintro ⟨u, w, rfl, first, others⟩
      obtain ⟨v, z, rfl, second, third⟩ := ih.mp others
      refine ⟨u ++ v, z, (List.append_assoc u v z).symm, ?_, ?_⟩
      · refine (seqAll_cons_matches r rs).mpr ⟨u, v, rfl, ?_, second⟩
        rwa [← List.append_assoc]
      · rwa [lastOf_append]
    · rintro ⟨w, z, rfl, others, third⟩
      obtain ⟨u, v, rfl, first, second⟩ := (seqAll_cons_matches r rs).mp others
      refine ⟨u, v ++ z, List.append_assoc u v z, ?_, ih.mpr ⟨v, z, rfl, second, ?_⟩⟩
      · rwa [List.append_assoc]
      · rwa [lastOf_append] at third

theorem seqAll_sensible (rs : List Regex) (each : ∀ r ∈ rs, r.Sensible) :
    (seqAll rs).Sensible := by
  induction rs with
  | nil => trivial
  | cons r rs ih =>
    rw [List.forall_mem_cons] at each
    cases rs with
    | nil => exact each.1
    | cons s rs => exact ⟨each.1, ih each.2⟩

theorem single_contains_iff (c d : Char) :
    (Unicode.CharSet.single c).contains d = true ↔ d = c := by
  simp only [Unicode.CharSet.contains, Unicode.CharSet.single, Unicode.CharSet.range, List.any_cons,
    List.any_nil, Bool.or_false, Bool.and_eq_true, decide_eq_true_eq]
  constructor
  · rintro ⟨least, most⟩
    exact Char.toNat_inj.mp (Nat.le_antisymm most least)
  · rintro rfl
    exact ⟨Nat.le_refl _, Nat.le_refl _⟩

theorem literal_matches (text : List Char) :
    (literal text).Matches before piece rest ↔ piece = text := by
  induction text generalizing before piece with
  | nil => rfl
  | cons c cs ih =>
    rw [literal, List.map_cons, seqAll_cons_matches]
    constructor
    · rintro ⟨u, v, rfl, ⟨d, rfl, same⟩, others⟩
      rw [(single_contains_iff c d).mp same, ih.mp others]
      rfl
    · rintro rfl
      exact ⟨[c], cs, rfl, ⟨c, rfl, (single_contains_iff c c).mpr rfl⟩, ih.mpr rfl⟩

theorem literal_sensible (text : List Char) : (literal text).Sensible := by
  refine seqAll_sensible _ ?_
  intro r member
  obtain ⟨c, -, rfl⟩ := List.mem_map.mp member
  trivial

theorem times_char (set : Unicode.CharSet) (n : Nat) :
    Times (Regex.char set).Matches n before piece rest ↔
      piece.length = n ∧ ∀ c ∈ piece, set.contains c = true := by
  induction n generalizing before piece with
  | zero =>
    constructor
    · rintro rfl
      simp
    · rintro ⟨empty, -⟩
      exact List.length_eq_zero_iff.mp empty
  | succ n ih =>
    constructor
    · rintro ⟨u, v, rfl, ⟨c, rfl, inside⟩, others⟩
      obtain ⟨count, each⟩ := ih.mp others
      exact ⟨by simp [count], List.forall_mem_cons.mpr ⟨inside, each⟩⟩
    · rintro ⟨count, each⟩
      cases piece with
      | nil => cases count
      | cons c cs =>
        rw [List.forall_mem_cons] at each
        exact ⟨[c], cs, rfl, ⟨c, rfl, each.1⟩, ih.mpr ⟨Nat.succ.inj count, each.2⟩⟩

/-- A repeated set of characters matches texts of enough characters of the set. -/
theorem repeated_char_matches (set : Unicode.CharSet) (least : Nat) :
    (Regex.repeated (.char set) least none).Matches before piece rest ↔
      least ≤ piece.length ∧ ∀ c ∈ piece, set.contains c = true := by
  constructor
  · rintro ⟨n, enough, -, times⟩
    obtain ⟨rfl, each⟩ := (times_char set n).mp times
    exact ⟨enough, each⟩
  · rintro ⟨enough, each⟩
    exact ⟨piece.length, enough, by simp, (times_char set _).mpr ⟨rfl, each⟩⟩

end Parts

/-- Between both ends of the text a sequence matches the whole text or nothing. -/
theorem isMatch_between_ends (rs : List Regex) (sensible : ∀ r ∈ rs, r.Sensible)
    (text : List Char) :
    (seqAll (.assertion .textStart :: (rs ++ [.assertion .textEnd]))).isMatch text = true ↔
      (seqAll rs).Matches none text [] := by
  have each : ∀ r ∈ Regex.assertion .textStart :: (rs ++ [.assertion .textEnd]), r.Sensible := by
    intro r member
    rcases List.mem_cons.mp member with rfl | inner
    · trivial
    · rcases List.mem_append.mp inner with listed | last
      · exact sensible r listed
      · rw [List.mem_singleton.mp last]
        trivial
  rw [isMatch_iff _ (seqAll_sensible _ each)]
  constructor
  · rintro ⟨lead, u, v, rfl, matched⟩
    obtain ⟨start, w, rfl, ⟨rfl, atStart⟩, inner⟩ := (seqAll_cons_matches _ _).mp matched
    obtain ⟨middle, finish, rfl, body, ⟨rfl, atEnd⟩⟩ := (seqAll_append_matches _ _).mp inner
    have first : lead = [] := by
      rw [← lastOf_none_iff]
      exact Option.isNone_iff_eq_none.mp atStart
    have last : v = [] := List.head?_eq_none_iff.mp (Option.isNone_iff_eq_none.mp atEnd)
    subst first
    subst last
    simpa [lastOf] using body
  · intro body
    refine ⟨[], text, [], by simp, (seqAll_cons_matches _ _).mpr ⟨[], text, rfl, ⟨rfl, rfl⟩, ?_⟩⟩
    refine (seqAll_append_matches _ _).mpr ⟨text, [], by simp, body, rfl, rfl⟩

end ResultLint.Regex
