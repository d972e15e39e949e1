import ResultLint.Text.Bytes

/-!
Pieces of a text by byte position. A text written as three parts gives its middle part back from
the positions at which that part begins and ends.
-/
namespace ResultLint.Text

theorem byteLength_append (s t : List Char) :
    byteLength (s ++ t) = byteLength s + byteLength t := by
  induction s with
  | nil => simp [byteLength]
  | cons c cs ih =>
    simp only [List.cons_append, byteLength, ih]
    omega

theorem byteLength_pos (s : List Char) (nonempty : s ≠ []) : 0 < byteLength s := by
  cases s with
  | nil => exact absurd rfl nonempty
  | cons c cs =>
    have size := c.utf8Size_pos
    simp only [byteLength]
    omega

theorem dropBytes_zero (s : List Char) : dropBytes? 0 s = some s := by
  cases s <;> rfl

theorem takeBytes_zero (s : List Char) : takeBytes? 0 s = some [] := by
  cases s <;> rfl

theorem dropBytes_cons (n : Nat) (c : Char) (cs : List Char) :
    dropBytes? (c.utf8Size + n) (c :: cs) = dropBytes? n cs := by
  have size := c.utf8Size_pos
  obtain ⟨m, total⟩ : ∃ m, c.utf8Size + n = m + 1 := ⟨c.utf8Size + n - 1, by omega⟩
  have left : m + 1 - c.utf8Size = n := by omega
  rw [total, dropBytes?, if_pos (by omega), left]

theorem takeBytes_cons (n : Nat) (c : Char) (cs : List Char) :
    takeBytes? (c.utf8Size + n) (c :: cs) = (takeBytes? n cs).map (c :: ·) := by
  have size := c.utf8Size_pos
  obtain ⟨m, total⟩ : ∃ m, c.utf8Size + n = m + 1 := ⟨c.utf8Size + n - 1, by omega⟩
  have left : m + 1 - c.utf8Size = n := by omega
  rw [total, takeBytes?, if_pos (by omega), left]

theorem dropBytes_append (s t : List Char) : dropBytes? (byteLength s) (s ++ t) = some t := by
  induction s with
  | nil => exact dropBytes_zero t
  | cons c cs ih => rw [byteLength, List.cons_append, dropBytes_cons, ih]

theorem takeBytes_append (s t : List Char) : takeBytes? (byteLength s) (s ++ t) = some s := by
  induction s with
  | nil => exact takeBytes_zero t
  | cons c cs ih => rw [byteLength, List.cons_append, takeBytes_cons, ih, Option.map_some]

/-- The middle of three parts is the slice from where it begins to where it ends. -/
theorem slice_middle (before middle after : List Char) :
    slice? (before ++ middle ++ after) (byteLength before)
      (byteLength before + byteLength middle) = some middle := by
  unfold slice?
  rw [if_pos (by omega), List.append_assoc, dropBytes_append, Option.bind_some,
    Nat.add_sub_cancel_left, takeBytes_append]

theorem dropBytes_eq_some (n : Nat) (s back : List Char) (dropped : dropBytes? n s = some back) :
    ∃ front, s = front ++ back ∧ byteLength front = n := by
  fun_induction dropBytes? n s with
  | case1 s =>
    cases dropped
    exact ⟨[], rfl, rfl⟩
  | case2 => cases dropped
  | case3 n c cs fits ih =>
    obtain ⟨front, rfl, size⟩ := ih dropped
    refine ⟨c :: front, rfl, ?_⟩
    rw [byteLength]
    omega
  | case4 => cases dropped

theorem takeBytes_eq_some (n : Nat) (s front : List Char) (taken : takeBytes? n s = some front) :
    ∃ back, s = front ++ back ∧ byteLength front = n := by
  fun_induction takeBytes? n s generalizing front with
  | case1 s =>
    cases taken
    exact ⟨s, rfl, rfl⟩
  | case2 => cases taken
  | case3 n c cs fits ih =>
    obtain ⟨rest, inner, rfl⟩ := Option.map_eq_some_iff.mp taken
    obtain ⟨back, rfl, size⟩ := ih rest inner
    refine ⟨back, rfl, ?_⟩
    rw [byteLength]
    omega
  | case4 => cases taken

/-- A slice is the middle of three parts. -/
theorem slice_eq_some (s : List Char) (start stop : Nat) (middle : List Char)
    (sliced : slice? s start stop = some middle) :
    ∃ before after, s = before ++ middle ++ after ∧ byteLength before = start ∧
      start + byteLength middle = stop := by
  obtain ⟨ordered, parts⟩ := Option.ite_none_right_eq_some.mp sliced
  obtain ⟨rest, dropped, taken⟩ := Option.bind_eq_some_iff.mp parts
  obtain ⟨before, rfl, first⟩ := dropBytes_eq_some start s rest dropped
  obtain ⟨after, rfl, size⟩ := takeBytes_eq_some _ rest middle taken
  exact ⟨before, after, (List.append_assoc ..).symm, first, by omega⟩

/-- What is inside a slice is a slice itself. -/
theorem slice_within (s : List Char) (start stop : Nat) (front middle back : List Char)
    (sliced : slice? s start stop = some (front ++ middle ++ back)) :
    slice? s (start + byteLength front) (start + byteLength front + byteLength middle) =
      some middle := by
  obtain ⟨before, after, whole, rfl, -⟩ := slice_eq_some s start stop _ sliced
  have inner := slice_middle (before ++ front) middle (back ++ after)
  rw [byteLength_append] at inner
  rw [whole, ← inner]
  simp only [List.append_assoc]

/-- A text divides at a byte position in one way only. -/
theorem append_unique (before behind front back : List Char)
    (whole : before ++ behind = front ++ back) (size : byteLength before = byteLength front) :
    before = front ∧ behind = back := by
  have taken := takeBytes_append before behind
  have dropped := dropBytes_append before behind
  rw [whole, size, takeBytes_append] at taken
  rw [whole, size, dropBytes_append] at dropped
  exact ⟨(Option.some.inj taken).symm, (Option.some.inj dropped).symm⟩

end ResultLint.Text
