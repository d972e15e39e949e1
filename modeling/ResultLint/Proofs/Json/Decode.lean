import Mathlib.Data.List.Find
import Mathlib.Data.List.Nodup
import ResultLint.Json.Decode
import ResultLint.Proofs.Fallible

/-!
Records that are read from objects. Only the fields with names of the record matter, and among them
neither their order nor what stands between them.
-/
namespace ResultLint.Json

/-- Fields that have these ones with the names of a record, in any order, and any others. -/
def Carries (names : List String) (own fields : List (String × Json)) : Prop :=
  (fields.filter fun f => names.contains f.1).Perm own

/-- An optional field: it may be left out or be null where there is no value. -/
inductive Optionally {α : Type} (name : String) (writes : α → Json → Prop) :
    Option α → List (String × Json) → Prop
  | leftOut : Optionally name writes none []
  | null : Optionally name writes none [(name, .null)]
  | given (a : α) (value : Json) (written : writes a value) :
      Optionally name writes (some a) [(name, value)]

theorem checked_ok_iff {α : Type} (item : Json → Decoded α) (value : Json) :
    checked item value = .ok () ↔ ∃ a, item value = .ok a := by
  unfold checked
  cases item value <;> simp [Except.map]

theorem natural_integer (n : Nat) : natural (.integer n) = .ok n := by
  simp [natural]

section Carries

variable {names : List String} {own fields : List (String × Json)}

theorem carries_self (known : ∀ f ∈ own, f.1 ∈ names) : Carries names own own := by
  unfold Carries
  rw [List.filter_eq_self.mpr (by simpa using known)]

theorem Carries.known (carries : Carries names own fields) (f : String × Json) (member : f ∈ own) :
    f.1 ∈ names := by
  simpa using (List.mem_filter.mp (carries.mem_iff.mpr member)).2

/-- A field of the record is found whatever else there is. -/
theorem Carries.field?_eq (carries : Carries names own fields)
    (distinct : (own.map Prod.fst).Nodup) (name : String) (known : name ∈ names) :
    field? fields name = field? own name := by
  have among : fields.reverse.find? (fun f => f.1 == name) =
      (fields.filter fun f => names.contains f.1).reverse.find? fun f => f.1 == name := by
    rw [← List.filter_reverse, List.find?_filter]
    refine List.find?_congr fun f _ => ?_
    cases same : f.1 == name with
    | false => simp
    | true =>
      rw [beq_iff_eq] at same
      simp [same, known]
  have reordered := (List.reverse_perm _).trans (carries.trans own.reverse_perm.symm)
  unfold Json.field?
  rw [among, List.find?_eq_find?_of_perm reordered]
  -- two fields of one name are one field, since the record's own names are distinct
  intro f first g second
  have one := carries.mem_iff.mp (List.mem_reverse.mp first.1)
  have other := carries.mem_iff.mp (List.mem_reverse.mp second.1)
  exact List.inj_on_of_nodup_map distinct one other
    ((beq_iff_eq.mp first.2).trans (beq_iff_eq.mp second.2).symm)

theorem Carries.demand_eq {α : Type} (carries : Carries names own fields)
    (distinct : (own.map Prod.fst).Nodup) (name : String) (value : Json) (item : Json → Decoded α)
    (member : (name, value) ∈ own) : demand fields name item = item value := by
  have found : field? own name = some value := by
    unfold field?
    cases search : own.reverse.find? fun f => f.1 == name with
    | none =>
      have missed := List.find?_eq_none.mp search _ (List.mem_reverse.mpr member)
      simp at missed
    | some f =>
      have other := List.mem_reverse.mp (List.mem_of_find?_eq_some search)
      have same := List.find?_some search
      rw [List.inj_on_of_nodup_map distinct other member (by simpa using same)]
      rfl
  rw [demand, carries.field?_eq distinct name (carries.known _ member), found]

/-- Readers that accept the record's fields accept all fields. -/
theorem Carries.checkFields_eq {readers : List (String × (Json → Decoded Unit))}
    (carries : Carries names own fields) (all : readers.map Prod.fst = names)
    (accepted : ∀ f ∈ own, ∃ reader, readers.lookup f.1 = some reader ∧ reader f.2 = .ok ()) :
    checkFields readers fields = .ok () := by
  subst all
  refine (forM_ok_iff _ fields).mpr fun f member => ?_
  dsimp only
  split
  · next reader found =>
    have known : f.1 ∈ readers.map Prod.fst := by
      obtain ⟨before, behind, rfl, -⟩ := List.lookup_eq_some_iff.mp found
      simp
    have among : f ∈ fields.filter fun f => (readers.map Prod.fst).contains f.1 :=
      List.mem_filter.mpr ⟨member, by simpa using known⟩
    obtain ⟨other, again, accepts⟩ := accepted f (carries.mem_iff.mp among)
    rw [found] at again
    cases again
    exact accepts
  · rfl

/-- A record is put together from its own fields. -/
theorem Carries.record_eq {α : Type} {type : String} {optional : List String}
    {readers : List (String × (Json → Decoded Unit))}
    {build : List (String × Json) → Decoded α} (carries : Carries names own fields)
    (all : readers.map Prod.fst = names)
    (accepted : ∀ f ∈ own, ∃ reader, readers.lookup f.1 = some reader ∧ reader f.2 = .ok ()) :
    record type optional readers build (.object fields) = build fields := by
  rw [record, carries.checkFields_eq all accepted]
  rfl

end Carries

section Optionally

variable {α : Type} {name : String} {writes : α → Json → Prop} {a : Option α}
  {part : List (String × Json)}

theorem Optionally.part_eq (optionally : Optionally name writes a part) :
    part = [] ∨ ∃ value, part = [(name, value)] := by
  cases optionally with
  | leftOut => exact .inl rfl
  | null => exact .inr ⟨_, rfl⟩
  | given _ value _ => exact .inr ⟨value, rfl⟩

theorem Optionally.nullable_eq (item : Json → Decoded α)
    (optionally : Optionally name writes a part)
    (reads : ∀ a value, writes a value → item value = .ok a)
    (refusesNull : ∀ a, item .null ≠ .ok a) (value : Json) (member : (name, value) ∈ part) :
    nullable item value = .ok a := by
  cases optionally with
  | leftOut => cases member
  | null =>
    obtain rfl : value = .null := by simpa using member
    rfl
  | given a given written =>
    obtain rfl : value = given := by simpa using member
    have read := reads a value written
    unfold nullable
    split
    · exact absurd read (refusesNull a)
    · rw [read]
      rfl

theorem Optionally.accepted (item : Json → Decoded α) (optionally : Optionally name writes a part)
    (reads : ∀ a value, writes a value → item value = .ok a)
    (refusesNull : ∀ a, item .null ≠ .ok a) (f : String × Json) (member : f ∈ part) :
    f.1 = name ∧ checked (nullable item) f.2 = .ok () := by
  have named : f.1 = name := by
    rcases optionally.part_eq with rfl | ⟨value, rfl⟩
    · cases member
    · rw [List.mem_singleton.mp member]
  rw [checked_ok_iff]
  subst named
  exact ⟨rfl, a, optionally.nullable_eq item reads refusesNull f.2 member⟩

/-- An optional field is read as the value that it may stand for. -/
theorem Carries.optional_eq (item : Json → Decoded α) {names : List String}
    {own fields : List (String × Json)}
    (carries : Carries names own fields) (distinct : (own.map Prod.fst).Nodup)
    (known : name ∈ names) (only : own.filter (fun f => f.1 == name) = part)
    (optionally : Optionally name writes a part)
    (reads : ∀ a value, writes a value → item value = .ok a)
    (refusesNull : ∀ a, item .null ≠ .ok a) :
    nullable item ((field? fields name).getD .null) = .ok a := by
  have found : field? own name = field? part name := by
    unfold field?
    rw [← only, ← List.filter_reverse, List.find?_filter]
    refine congrArg _ (List.find?_congr fun f _ => ?_)
    cases f.1 == name <;> simp
  have value := optionally.nullable_eq item reads refusesNull
  rw [carries.field?_eq distinct name known, found]
  cases optionally with
  | leftOut => rfl
  | null => simp [field?, nullable]
  | given a given written => simpa [field?] using value given (by simp)

end Optionally

end ResultLint.Json
