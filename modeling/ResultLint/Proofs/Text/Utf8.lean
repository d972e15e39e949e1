import ResultLint.Proofs.Fallible
import ResultLint.Text.Utf8

/-!
Texts and their bytes. Decoding accepts exactly the bytes that some text is encoded as, and gives
that text back; so bytes are refused only if no text has them.
-/
namespace ResultLint.Text

theorem ofCodePoint?_eq_some_iff (n : Nat) (c : Char) : ofCodePoint? n = some c ↔ c.toNat = n := by
  unfold ofCodePoint?
  constructor
  · intro found
    obtain ⟨valid, same⟩ := Option.ite_none_right_eq_some.mp found
    cases same
    rw [Char.ofNat, dif_pos valid]
    rfl
  · rintro rfl
    have valid : c.toNat.isValidChar := c.valid
    rw [if_pos valid, Char.ofNat_toNat]

/-- The number that a lead and continuing bytes make. -/
def joined (lead : Nat) (bytes : List UInt8) : Nat :=
  bytes.foldl (fun n b => 64 * n + b.toNat % 64) lead

theorem continuation?_eq_some_iff (b : UInt8) (part : Nat) :
    continuation? b = some part ↔ b.toNat / 64 = 2 ∧ part = b.toNat % 64 := by
  unfold continuation?
  rw [Option.ite_none_right_eq_some, Option.some.injEq, eq_comm (b := part)]

theorem continuations_eq_some_iff (bytes : List UInt8) (parts : List Nat) :
    bytes.mapM continuation? = some parts ↔
      (∀ b ∈ bytes, b.toNat / 64 = 2) ∧ parts = bytes.map fun b => b.toNat % 64 := by
  rw [mapM_some_iff]
  simp only [continuation?_eq_some_iff]
  induction bytes generalizing parts with
  | nil => simp
  | cons b bytes ih =>
    rw [List.forall₂_cons_left_iff, List.forall_mem_cons]
    simp only [ih, List.map_cons]
    constructor
    · rintro ⟨_, _, ⟨here, rfl⟩, ⟨others, rfl⟩, rfl⟩
      exact ⟨⟨here, others⟩, rfl⟩
    · rintro ⟨⟨here, others⟩, rfl⟩
      exact ⟨_, _, ⟨here, rfl⟩, ⟨others, rfl⟩, rfl⟩

/-- A character is put together from bytes that continue it and that it needs. -/
theorem assemble?_eq_some_iff (least lead : Nat) (bytes : List UInt8) (c : Char) :
    assemble? least lead bytes = some c ↔
      (∀ b ∈ bytes, b.toNat / 64 = 2) ∧ c.toNat = joined lead bytes ∧ least ≤ c.toNat := by
  have number : (bytes.map fun b => b.toNat % 64).foldl (fun n part => 64 * n + part) lead =
      joined lead bytes := by
    rw [List.foldl_map]
    rfl
  unfold assemble?
  rw [Option.bind_eq_bind, Option.bind_eq_some_iff]
  simp only [continuations_eq_some_iff, Option.ite_none_right_eq_some, ofCodePoint?_eq_some_iff]
  constructor
  · rintro ⟨_, ⟨further, rfl⟩, fits, value⟩
    rw [number] at fits value
    exact ⟨further, value, value ▸ fits⟩
  · rintro ⟨further, value, fits⟩
    refine ⟨_, ⟨further, rfl⟩, ?_⟩
    rw [number]
    exact ⟨value ▸ fits, value⟩

theorem toNat_lt (c : Char) : c.toNat < 0x110000 := by
  rcases c.valid with low | ⟨_, high⟩
  · exact Nat.lt_trans low (by decide)
  · exact high

/-- The bytes of a character as numbers: a lead, and six bits of its code point in each byte
behind it. -/
theorem map_toNat_encode (c : Char) :
    (String.utf8EncodeChar c).map UInt8.toNat =
      if c.toNat < 0x80 then [c.toNat]
      else if c.toNat < 0x800 then [0xC0 + c.toNat / 64, 0x80 + c.toNat % 64]
      else if c.toNat < 0x10000 then
        [0xE0 + c.toNat / 4096, 0x80 + c.toNat / 64 % 64, 0x80 + c.toNat % 64]
      else
        [0xF0 + c.toNat / 262144, 0x80 + c.toNat / 4096 % 64, 0x80 + c.toNat / 64 % 64,
          0x80 + c.toNat % 64] := by
  have bound := toNat_lt c
  have value : c.val.toNat = c.toNat := rfl
  unfold String.utf8EncodeChar
  simp only [value]
  split_ifs <;>
    simp only [List.map_cons, List.map_nil, UInt8.toNat_ofNat', List.cons.injEq, and_true] <;>
    omega

/-- A list of one, two, three or four bytes is that of a character with these numbers. -/
theorem eq_encode_iff (bytes : List UInt8) (c : Char) :
    bytes = String.utf8EncodeChar c ↔
      bytes.map UInt8.toNat = (String.utf8EncodeChar c).map UInt8.toNat :=
  (List.map_injective_iff.mpr fun _ _ same => UInt8.toNat_inj.mp same).eq_iff.symm

/-- What is encoded in front is decoded first. -/
theorem decode?_encode_append (c : Char) (rest : List UInt8) :
    decode? (String.utf8EncodeChar c ++ rest) = (decode? rest).map (c :: ·) := by
  have bytes := map_toNat_encode c
  have assembled (least lead : Nat) (more : List UInt8)
      (further : ∀ b ∈ more, b.toNat / 64 = 2) (value : c.toNat = joined lead more)
      (fits : least ≤ c.toNat) :
      (assemble? least lead more >>= fun c => return c :: (← decode? rest)) =
        (decode? rest).map (c :: ·) := by
    rw [(assemble?_eq_some_iff least lead more c).mpr ⟨further, value, fits⟩]
    cases decode? rest <;> rfl
  have bound := toNat_lt c
  split_ifs at bytes
  · obtain ⟨a, _, whole, first, empty⟩ := List.map_eq_cons_iff.mp bytes
    rw [List.map_eq_nil_iff] at empty
    subst empty
    rw [whole, List.singleton_append, decode?.eq_def]
    dsimp only
    rw [if_pos (by omega), first, Char.ofNat_toNat]
  · simp only [List.map_eq_cons_iff, List.map_eq_nil_iff] at bytes
    obtain ⟨a, _, whole, first, b, _, rfl, second, rfl⟩ := bytes
    rw [whole, List.cons_append, List.cons_append, decode?.eq_def]
    dsimp only
    rw [if_neg (by omega), if_pos (by omega)]
    refine assembled _ _ [b] ?_ ?_ (by omega)
    · rw [List.forall_mem_singleton]
      omega
    · simp only [joined, List.foldl_cons, List.foldl_nil]
      omega
  · simp only [List.map_eq_cons_iff, List.map_eq_nil_iff] at bytes
    obtain ⟨a, _, whole, first, b, _, rfl, second, d, _, rfl, third, rfl⟩ := bytes
    rw [whole, List.cons_append, List.cons_append, List.cons_append, decode?.eq_def]
    dsimp only
    rw [if_neg (by omega), if_neg (by omega), if_pos (by omega)]
    refine assembled _ _ [b, d] ?_ ?_ (by omega)
    · rw [List.forall_mem_cons, List.forall_mem_singleton]
      omega
    · simp only [joined, List.foldl_cons, List.foldl_nil]
      omega
  · simp only [List.map_eq_cons_iff, List.map_eq_nil_iff] at bytes
    obtain ⟨a, _, whole, first, b, _, rfl, second, d, _, rfl, third, e, _, rfl, fourth, rfl⟩ :=
      bytes
    rw [whole, List.cons_append, List.cons_append, List.cons_append, List.cons_append,
      decode?.eq_def]
    dsimp only
    rw [if_neg (by omega), if_neg (by omega), if_neg (by omega), if_pos (by omega)]
    refine assembled _ _ [b, d, e] ?_ ?_ (by omega)
    · rw [List.forall_mem_cons, List.forall_mem_cons, List.forall_mem_singleton]
      omega
    · simp only [joined, List.foldl_cons, List.foldl_nil]
      omega

theorem decode?_encode (text : List Char) : decode? (encode text) = some text := by
  induction text with
  | nil => rfl
  | cons c cs ih =>
    have first : encode (c :: cs) = String.utf8EncodeChar c ++ encode cs := List.flatMap_cons
    rw [first, decode?_encode_append, ih]
    rfl

/-- Bytes that are put together to a character are its bytes. -/
theorem eq_encode_of_assemble? (a : UInt8) (more : List UInt8) (least lead : Nat) (c : Char)
    (form : (more.length = 1 ∧ least = 0x80 ∧ a.toNat / 32 = 6 ∧ lead = a.toNat % 32) ∨
      (more.length = 2 ∧ least = 0x800 ∧ a.toNat / 16 = 14 ∧ lead = a.toNat % 16) ∨
      (more.length = 3 ∧ least = 0x10000 ∧ a.toNat / 8 = 30 ∧ lead = a.toNat % 8))
    (found : assemble? least lead more = some c) : a :: more = String.utf8EncodeChar c := by
  obtain ⟨further, value, fits⟩ := (assemble?_eq_some_iff least lead more c).mp found
  rw [eq_encode_iff, map_toNat_encode]
  rcases form with ⟨size, rfl, first, rfl⟩ | ⟨size, rfl, first, rfl⟩ | ⟨size, rfl, first, rfl⟩
  · obtain ⟨b, rfl⟩ := List.length_eq_one_iff.mp size
    rw [List.forall_mem_singleton] at further
    simp only [joined, List.foldl_cons, List.foldl_nil] at value
    rw [if_neg (by omega), if_pos (by omega)]
    simp only [List.map_cons, List.map_nil, List.cons.injEq, and_true]
    omega
  · obtain ⟨b, d, rfl⟩ := List.length_eq_two.mp size
    rw [List.forall_mem_cons, List.forall_mem_singleton] at further
    simp only [joined, List.foldl_cons, List.foldl_nil] at value
    rw [if_neg (by omega), if_neg (by omega), if_pos (by omega)]
    simp only [List.map_cons, List.map_nil, List.cons.injEq, and_true]
    omega
  · obtain ⟨b, d, e, rfl⟩ := List.length_eq_three.mp size
    rw [List.forall_mem_cons, List.forall_mem_cons, List.forall_mem_singleton] at further
    simp only [joined, List.foldl_cons, List.foldl_nil] at value
    rw [if_neg (by omega), if_neg (by omega), if_neg (by omega)]
    simp only [List.map_cons, List.map_nil, List.cons.injEq, and_true]
    omega

theorem encode_of_decode? (bytes : List UInt8) (text : List Char)
    (decoded : decode? bytes = some text) : bytes = encode text := by
  have push (c : Char) (front rest : List UInt8) (cs : List Char)
      (first : front = String.utf8EncodeChar c) (others : rest = encode cs) :
      front ++ rest = encode (c :: cs) := by
    rw [first, others]
    exact List.flatMap_cons.symm
  fun_induction decode? bytes generalizing text with
  | case1 =>
    cases decoded
    rfl
  | case2 a rest ascii ih =>
    obtain ⟨cs, inner, rfl⟩ := Option.map_eq_some_iff.mp decoded
    have value : (Char.ofNat a.toNat).toNat = a.toNat :=
      (ofCodePoint?_eq_some_iff _ _).mp (if_pos (.inl (by omega)))
    refine push _ [a] rest cs ?_ (ih cs inner)
    rw [eq_encode_iff, map_toNat_encode, value, if_pos ascii]
    rfl
  | case3 a _ lead b rest ih =>
    obtain ⟨c, made, others⟩ := Option.bind_eq_some_iff.mp decoded
    obtain ⟨cs, inner, same⟩ := Option.bind_eq_some_iff.mp others
    cases same
    exact push c [a, b] rest cs
      (eq_encode_of_assemble? a [b] _ _ c (.inl ⟨rfl, rfl, lead, rfl⟩) made) (ih cs inner)
  | case5 a _ _ lead b d rest ih =>
    obtain ⟨c, made, others⟩ := Option.bind_eq_some_iff.mp decoded
    obtain ⟨cs, inner, same⟩ := Option.bind_eq_some_iff.mp others
    cases same
    exact push c [a, b, d] rest cs
      (eq_encode_of_assemble? a [b, d] _ _ c (.inr (.inl ⟨rfl, rfl, lead, rfl⟩)) made) (ih cs inner)
  | case7 a _ _ _ lead b d e rest ih =>
    obtain ⟨c, made, others⟩ := Option.bind_eq_some_iff.mp decoded
    obtain ⟨cs, inner, same⟩ := Option.bind_eq_some_iff.mp others
    cases same
    exact push c [a, b, d, e] rest cs
      (eq_encode_of_assemble? a [b, d, e] _ _ c (.inr (.inr ⟨rfl, rfl, lead, rfl⟩)) made)
      (ih cs inner)
  | _ => cases decoded

/-- Bytes are decoded exactly to the text that is encoded as them. -/
theorem decode?_eq_some_iff (bytes : List UInt8) (text : List Char) :
    decode? bytes = some text ↔ bytes = encode text := by
  constructor
  · exact encode_of_decode? bytes text
  · rintro rfl
    exact decode?_encode text

end ResultLint.Text
