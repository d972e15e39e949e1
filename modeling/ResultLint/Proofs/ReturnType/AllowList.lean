import ResultLint.Proofs.Plan
import ResultLint.Proofs.ReturnType.Policy

/-!
What a list of allowed types comes to. A type passes just if the normal form of an entry occurs in
it: the test for equality and the entry's expression decide nothing of their own, an entry without
text lets everything pass, and an entry whose normal form contains that of another one can be left
out of the list.
-/
namespace ResultLint.ReturnType

namespace AllowedType

/-- The expression of an entry is the one for exactly its normal form, or there is none. -/
theorem expression_cases (entry : String) :
    (ofEntry entry).expression = none ∨
      ∃ expression, (ofEntry entry).expression = some expression ∧
        ∀ type, expression.isMatch type = true ↔ type = (ofEntry entry).normal := by
  cases compiled : (ofEntry entry).expression with
  | none => exact .inl rfl
  | some expression =>
    exact .inr ⟨expression, rfl, expression_isMatch_iff entry expression compiled⟩

theorem admits_eq_contains (entry : String) (type : List Char) :
    (ofEntry entry).admits type = Text.contains (ofEntry entry).normal type := by
  rw [Bool.eq_iff_iff, admits_iff, Text.contains_iff_infix]
  rfl

/-- Without its expression an entry admits what it does with it. -/
theorem admits_without_expression (entry : String) (type : List Char) :
    ({ ofEntry entry with expression := none } : AllowedType).admits type =
      (ofEntry entry).admits type := by
  rw [admits_eq_contains, admits]
  cases occurs : Text.contains (ofEntry entry).normal type with
  | true => simp
  | false =>
    have apart : type ≠ (ofEntry entry).normal := by
      rintro rfl
      rw [(Text.contains_iff_infix _ _).mpr List.infix_rfl] at occurs
      cases occurs
    simp [apart]

end AllowedType

/-- Two lists of entries that let the same types pass. -/
def AllowAlike (left right : List String) : Prop :=
  ∀ type, (∃ entry ∈ left, normalize entry.toList <:+: type) ↔
    ∃ entry ∈ right, normalize entry.toList <:+: type

/-- An entry whose normal form contains that of another entry adds nothing to a list. -/
theorem allowAlike_of_infix (front back : List String) (entry other : String)
    (kept : other ∈ front ++ back)
    (inside : normalize other.toList <:+: normalize entry.toList) :
    AllowAlike (front ++ entry :: back) (front ++ back) := by
  intro type
  constructor
  · rintro ⟨e, member, occurs⟩
    rcases List.mem_append.mp member with first | second
    · exact ⟨e, List.mem_append_left back first, occurs⟩
    · rcases List.mem_cons.mp second with rfl | last
      · exact ⟨other, kept, inside.trans occurs⟩
      · exact ⟨e, List.mem_append_right front last, occurs⟩
  · rintro ⟨e, member, occurs⟩
    refine ⟨e, ?_, occurs⟩
    rcases List.mem_append.mp member with first | second
    · exact List.mem_append_left _ first
    · exact List.mem_append_right front (List.mem_cons_of_mem entry second)

theorem presets_allowAlike :
    AllowAlike Preset.recommended.options.allowedList Preset.strict.options.allowedList :=
  allowAlike_of_infix ["void"] ["never"] "Promise<void>" "void" (by decide) (by decide)

namespace Policy

theorem isAllowed_eq_of_allowAlike (left right : Options) (these those : Policy)
    (first : compile left = .ok these) (second : compile right = .ok those)
    (alike : AllowAlike left.allowedList right.allowedList) (type : List Char) :
    these.isAllowed type = those.isAllowed type := by
  rw [Bool.eq_iff_iff, isAllowed_iff left these first, isAllowed_iff right those second]
  exact alike type

/-- The allowed types have no part in whether options compile. -/
theorem compile_with_allowed (options : Options) (policy : Policy)
    (compiled : compile options = .ok policy) (entries : List String) :
    compile { options with allowedReturnTypes := some entries } =
      .ok { policy with allowed := entries.map AllowedType.ofEntry } := by
  obtain ⟨expressions, parsed, rfl⟩ := (compile_ok_iff options policy).mp compiled
  exact (compile_ok_iff _ _).mpr ⟨expressions, parsed, rfl⟩

theorem compile_preset (preset : Preset) : ∃ policy, compile preset.options = .ok policy := by
  obtain ⟨expressions, parsed⟩ := Config.preset_patterns preset
  exact ⟨_, by rw [compile_eq, parsed]; rfl⟩

/-- A type passes under a list of entries just if the normal form of one of them occurs in it. Of
the three tests of an entry only the one for an occurrence matters, also where the entry has no
expression; an entry without text admits everything, an entry that contains another one can be left
out, and so the two presets let the same types pass. -/
theorem isAllowed_iff_entry_occurs (options : Options) (entries : List String) (policy : Policy)
    (given : options.allowedReturnTypes = some entries)
    (compiled : compile options = .ok policy) :
    (∀ type, policy.isAllowed type = true ↔
      ∃ entry ∈ entries, normalize entry.toList <:+: type) ∧
    (∀ a ∈ policy.allowed,
      (a.expression = none ∨ ∃ expression, a.expression = some expression ∧
        ∀ type, expression.isMatch type = true ↔ type = a.normal) ∧
      ∀ type, a.admits type = Text.contains a.normal type ∧
        ({ a with expression := none } : AllowedType).admits type = a.admits type) ∧
    (∀ entry ∈ entries, normalize entry.toList = [] → ∀ type, policy.isAllowed type = true) ∧
    (∀ front entry back other, entries = front ++ entry :: back → other ∈ front ++ back →
      normalize other.toList <:+: normalize entry.toList →
      ∃ fewer, compile { options with allowedReturnTypes := some (front ++ back) } = .ok fewer ∧
        ∀ type, policy.isAllowed type = fewer.isAllowed type) ∧
    ∃ recommended strict, compile Preset.recommended.options = .ok recommended ∧
      compile Preset.strict.options = .ok strict ∧
      ∀ type, recommended.isAllowed type = strict.isAllowed type := by
  have list : options.allowedList = entries := by
    rw [Options.allowedList, given]
    rfl
  have verdict : ∀ type, policy.isAllowed type = true ↔
      ∃ entry ∈ entries, normalize entry.toList <:+: type := by
    intro type
    rw [isAllowed_iff options policy compiled, Allows, list]
  refine ⟨verdict, ?_, ?_, ?_, ?_⟩
  · intro a member
    obtain ⟨expressions, -, rfl⟩ := (compile_ok_iff options policy).mp compiled
    obtain ⟨entry, -, rfl⟩ := List.mem_map.mp member
    exact ⟨AllowedType.expression_cases entry, fun type =>
      ⟨AllowedType.admits_eq_contains entry type,
        AllowedType.admits_without_expression entry type⟩⟩
  · intro entry member empty type
    refine (verdict type).mpr ⟨entry, member, ?_⟩
    rw [empty]
    exact List.nil_infix
  · intro front entry back other parts kept inside
    have fewer := compile_with_allowed options policy compiled (front ++ back)
    refine ⟨_, fewer, isAllowed_eq_of_allowAlike _ _ _ _ compiled fewer ?_⟩
    rw [list, parts]
    exact allowAlike_of_infix front back entry other kept inside
  · obtain ⟨recommended, lax⟩ := compile_preset .recommended
    obtain ⟨strict, tight⟩ := compile_preset .strict
    exact ⟨recommended, strict, lax, tight,
      isAllowed_eq_of_allowAlike _ _ _ _ lax tight presets_allowAlike⟩

/-- Signs that are special in patterns are none in entries, and the blanks of an entry count as
single ones. -/
theorem isAllowed_of_entry_with_signs :
    let entries := ["Map<string,  any>[]", "A | (B.C)", "(B.C)"]
    ∃ policy, compile ⟨some entries, none, none⟩ = .ok policy ∧
      policy.isAllowed "Map<string, any>[]".toList = true ∧
      policy.isAllowed "Promise<(B.C)>".toList = true ∧
      policy.isAllowed "A | (BxC)".toList = false := by
  intro entries
  obtain ⟨policy, compiled⟩ : ∃ policy, compile ⟨some entries, none, none⟩ = .ok policy :=
    ⟨_, rfl⟩
  have verdict := (isAllowed_iff_entry_occurs ⟨some entries, none, none⟩ entries policy rfl
    compiled).1
  refine ⟨policy, compiled, (verdict _).mpr (by decide), (verdict _).mpr (by decide), ?_⟩
  rw [Bool.eq_false_iff, Ne, verdict]
  decide

end Policy

end ResultLint.ReturnType
