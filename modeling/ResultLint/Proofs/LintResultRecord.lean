import ResultLint.Proofs.Json.Decode
import ResultLint.Report

/-!
What becomes of a result that is written as JSON and read back. Only the pins are lost. A result can
be read from other values too: fields may stand in any order and with unknown ones among them, and
what a finding does not have may be left out or be null.
-/
namespace ResultLint

open Json

theorem Severity.ofJson_toJson (s : Severity) : ofJson s.toJson = .ok s := by
  rw [toJson, ofJson, ofVariant, ofName?_name]

/-- A path is read as it is written. -/
theorem Path.ofJson_toString (p : Path) : ofJson (.string p.toString) = .ok p := by
  simp [ofJson, Path.ofString, Path.toString]

namespace Location

def names : List String := ["file", "line", "column", "offset", "length"]

def own (l : Location) : List (String × Json) :=
  [("file", .string l.file.toString), ("line", .integer l.line), ("column", .integer l.column),
    ("offset", .integer l.offset), ("length", .integer l.length)]

/-- The values from which a place is read. -/
inductive Document (l : Location) : Json → Prop
  | object (fields : List (String × Json)) (carries : Carries names l.own fields) :
      Document l (.object fields)

theorem document_toJson (l : Location) : l.Document l.toJson :=
  .object l.own (carries_self (by simp [own, names]))

theorem ofJson_of_document (l : Location) (value : Json) (document : l.Document value) :
    ofJson value = .ok l := by
  obtain ⟨fields, carries⟩ := document
  have distinct : (l.own.map Prod.fst).Nodup := by simp [own]
  unfold ofJson
  rw [carries.record_eq rfl]
  · rw [carries.demand_eq distinct "file" (.string l.file.toString) _ (by simp [own]),
      carries.demand_eq distinct "line" (.integer l.line) _ (by simp [own]),
      carries.demand_eq distinct "column" (.integer l.column) _ (by simp [own]),
      carries.demand_eq distinct "offset" (.integer l.offset) _ (by simp [own]),
      carries.demand_eq distinct "length" (.integer l.length) _ (by simp [own])]
    simp [Path.ofJson_toString, natural_integer]
    rfl
  · simp [own, List.lookup_cons, checked_ok_iff, Path.ofJson_toString, natural_integer]

end Location

namespace Violation

/-- The values from which a suggestion is read. -/
inductive SuggestionDocument (message : String) : Json → Prop
  | object (fields : List (String × Json))
      (carries : Carries ["message"] [("message", .string message)] fields) :
      SuggestionDocument message (.object fields)

theorem suggestionDocument_suggestionJson (message : String) :
    SuggestionDocument message (suggestionJson message) :=
  .object _ (carries_self (by simp))

theorem suggestionOfJson_of_document (message : String) (value : Json)
    (document : SuggestionDocument message value) : suggestionOfJson value = .ok message := by
  obtain ⟨fields, carries⟩ := document
  unfold suggestionOfJson
  rw [carries.record_eq rfl]
  · rw [carries.demand_eq (by simp) "message" (.string message) _ (by simp)]
    rfl
  · simp [List.lookup_cons, checked_ok_iff, text]

def names : List String :=
  ["code", "rule", "severity", "location", "message", "message_id", "suggestion"]

/-- The fields that every finding has. -/
def own (v : Violation) (location : Json) : List (String × Json) :=
  [("code", .string v.code), ("rule", .string v.rule), ("severity", v.severity.toJson),
    ("location", location), ("message", .string v.message)]

/-- The values from which a finding is read. -/
inductive Document (v : Violation) : Json → Prop
  | object (fields messageId suggestion : List (String × Json)) (location : Json)
      (located : v.location.Document location)
      (identified : Optionally "message_id" (fun id value => value = .string id) v.messageId
        messageId)
      (suggested : Optionally "suggestion" SuggestionDocument v.suggestion suggestion)
      (carries : Carries names (v.own location ++ messageId ++ suggestion) fields) :
      Document v (.object fields)

/-- A finding as it is read back: no severity is pinned. -/
def unpinned (v : Violation) : Violation := { v with pinned := false }

theorem document_toJson (v : Violation) : v.Document v.toJson := by
  refine .object _ (v.messageId.map fun id => ("message_id", Json.string id)).toList _ _
    v.location.document_toJson ?_ ?_ (carries_self ?_)
  · cases v.messageId with
    | none => exact .leftOut
    | some id => exact .given id _ rfl
  · cases v.suggestion with
    | none => exact .null
    | some message => exact .given message _ (suggestionDocument_suggestionJson message)
  · cases v.messageId <;> simp [own, names]

theorem ofJson_of_document (v : Violation) (value : Json) (document : v.Document value) :
    ofJson value = .ok v.unpinned := by
  obtain ⟨fields, messageId, suggestion, location, located, identified, suggested, carries⟩ :=
    document
  obtain ⟨distinct, onlyId, onlyHelp⟩ :
      ((v.own location ++ messageId ++ suggestion).map Prod.fst).Nodup ∧
        (v.own location ++ messageId ++ suggestion).filter (fun f => f.1 == "message_id") =
          messageId ∧
        (v.own location ++ messageId ++ suggestion).filter (fun f => f.1 == "suggestion") =
          suggestion := by
    rcases identified.part_eq with rfl | ⟨_, rfl⟩ <;>
      rcases suggested.part_eq with rfl | ⟨_, rfl⟩ <;> simp [own]
  have place := v.location.ofJson_of_document location located
  have readsId (id : String) (value : Json) (written : value = .string id) :
      text value = .ok id := by
    rw [written]
    rfl
  have noId (id : String) : text .null ≠ .ok id := by simp [text]
  have noHelp (message : String) : suggestionOfJson .null ≠ .ok message := by
    simp [suggestionOfJson, record]
  unfold ofJson
  rw [carries.record_eq rfl]
  · rw [carries.demand_eq distinct "code" (.string v.code) _ (by simp [own]),
      carries.demand_eq distinct "rule" (.string v.rule) _ (by simp [own]),
      carries.demand_eq distinct "severity" v.severity.toJson _ (by simp [own]),
      carries.demand_eq distinct "location" location _ (by simp [own]),
      carries.demand_eq distinct "message" (.string v.message) _ (by simp [own]),
      v.severity.ofJson_toJson, place,
      carries.optional_eq text distinct (by simp [names]) onlyId identified readsId noId,
      carries.optional_eq suggestionOfJson distinct (by simp [names]) onlyHelp suggested
        suggestionOfJson_of_document noHelp]
    rfl
  · intro f member
    rw [List.append_assoc, List.mem_append, List.mem_append] at member
    rcases member with always | isId | isHelp
    · revert f
      simp [own, List.lookup_cons, checked_ok_iff, text, v.severity.ofJson_toJson, place]
    · obtain ⟨named, accepts⟩ := identified.accepted text readsId noId f isId
      exact ⟨_, by rw [named]; rfl, accepts⟩
    · obtain ⟨named, accepts⟩ :=
        suggested.accepted suggestionOfJson suggestionOfJson_of_document noHelp f isHelp
      exact ⟨_, by rw [named]; rfl, accepts⟩

theorem toJson_unpinned (v : Violation) : v.unpinned.toJson = v.toJson := rfl

end Violation

namespace LintResult

/-- The values from which a result is read. -/
inductive Document (r : LintResult) : Json → Prop
  | object (fields : List (String × Json)) (items : List Json)
      (listed : List.Forall₂ Violation.Document r.violations items)
      (carries : Carries ["violations", "files_checked"]
        [("violations", .array items), ("files_checked", .integer r.filesChecked)] fields) :
      Document r (.object fields)

/-- A result as it is read back. -/
def unpinned (r : LintResult) : LintResult :=
  { r with violations := r.violations.map Violation.unpinned }

theorem document_toJson (r : LintResult) : r.Document r.toJson := by
  refine .object _ (r.violations.map Violation.toJson) ?_ (carries_self (by simp))
  rw [List.forall₂_map_right_iff, List.forall₂_same]
  exact fun v _ => v.document_toJson

theorem toJson_unpinned (r : LintResult) : r.unpinned.toJson = r.toJson := by
  simp [toJson, unpinned, Violation.toJson_unpinned]

theorem ofJson_of_document (r : LintResult) (value : Json) (document : r.Document value) :
    ofJson value = .ok r.unpinned := by
  obtain ⟨fields, items, listed, carries⟩ := document
  have read : list Violation.ofJson (.array items) = .ok (r.violations.map Violation.unpinned) := by
    refine (mapM_ok_iff _ items _).mpr ?_
    rw [List.forall₂_map_right_iff]
    exact listed.flip.imp fun value v document => v.ofJson_of_document value document
  unfold ofJson
  rw [carries.record_eq rfl]
  · rw [carries.demand_eq (by simp) "violations" (.array items) _ (by simp),
      carries.demand_eq (by simp) "files_checked" (.integer r.filesChecked) _ (by simp), read,
      natural_integer]
    rfl
  · simp [List.lookup_cons, checked_ok_iff, read, natural_integer]

/-- Only the pins of a result are lost when it is written and read back: the same findings come in
the same order with every other field as it was, and are written in the same way again. Nothing
else depends on how a value is written: fields may stand in any order and among unknown ones, and a
field that a finding does not have may be left out or be null. -/
theorem written_and_read_back (r : LintResult) :
    ofJson r.toJson = .ok r.unpinned ∧
      List.Forall₂ (fun v back => back = { v with pinned := false }) r.violations
        r.unpinned.violations ∧
      r.unpinned.filesChecked = r.filesChecked ∧
      r.unpinned.toJson = r.toJson ∧ Report.json r.unpinned = Report.json r ∧
      r.Document r.toJson ∧ ∀ value, r.Document value → ofJson value = .ok r.unpinned := by
  refine ⟨r.ofJson_of_document _ r.document_toJson, ?_, rfl, r.toJson_unpinned, ?_,
    r.document_toJson, r.ofJson_of_document⟩
  · unfold unpinned
    rw [List.forall₂_map_right_iff, List.forall₂_same]
    exact fun _ _ => rfl
  · unfold Report.json
    rw [r.toJson_unpinned]

/-- The statement at a value with unknown fields and fields out of order, one of them a pin; of what
the finding does not have one field is left out, and the other is null. -/
theorem written_and_read_back_reordered :
    let place : Location := ⟨.ofString "a.ts", 1, 1, 0, 8⟩
    let v : Violation := ⟨"RW001", "r", .warning, place, "m", none, none, true⟩
    let finding := Json.object [
      ("pinned_severity", .bool true), ("suggestion", .null), ("message", .string "m"),
      ("location", .object (("end", .null) :: place.own)), ("severity", .string "warning"),
      ("rule", .string "r"), ("code", .string "RW001")]
    let value := Json.object [
      ("tool", .string "t"), ("files_checked", .integer 1), ("violations", .array [finding])]
    (LintResult.mk [v] 1).Document value ∧
      ofJson value = .ok (LintResult.mk [{ v with pinned := false }] 1) := by
  intro place v finding value
  have located : v.location.Document (.object (("end", .null) :: place.own)) :=
    .object _ (.refl _)
  have reads : v.Document finding := by
    refine .object _ [] [("suggestion", .null)] _ located .leftOut .null ?_
    exact List.reverse_perm (v.own _ ++ [] ++ [("suggestion", .null)])
  have document : (LintResult.mk [v] 1).Document value :=
    .object _ [finding] (.cons reads .nil)
      (List.reverse_perm [("violations", Json.array [finding]), ("files_checked", Json.integer 1)])
  obtain ⟨-, -, -, -, -, -, readable⟩ := written_and_read_back ⟨[v], 1⟩
  exact ⟨document, readable value document⟩

end LintResult

end ResultLint
