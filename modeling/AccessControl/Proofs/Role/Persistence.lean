/-
# Roles survive being stored

The text of a role's record is read back as the record, and loading that gives the role
again at version zero (`load_stored`): the matrix, the name with whatever characters it
has, and both instants.  It rests on the laws of the texts in which they are kept.
-/
import AccessControl.Role.Record
import AccessControl.Proofs.Json.Records
import AccessControl.Proofs.Rights.Stored
import AccessControl.Proofs.Time.Texts

namespace AccessControl

/-! ## Matrices -/

/-- A stored row is taken back: its members are flags. -/
theorem ActionRights.takes_toValue (row : ActionRights) (nesting : Nat) :
    Json.Reader.value.Takes (nesting + 1) row.toValue.chars row.toValue := by
  refine Json.takes_object (Keyed.increasing_ofList _) ?_
  rintro ⟨key, found⟩ hmem
  obtain ⟨a, -, rfl⟩ := (Keyed.mem_ofList_iff row.find?_stored).1 hmem
  exact Json.takes_bool _ nesting

/-- A stored matrix is taken back: its members are rows. -/
theorem AccessRights.takes_toValue (rights : AccessRights) (nesting : Nat) :
    Json.Reader.value.Takes (nesting + 2) rights.toValue.chars rights.toValue := by
  refine Json.takes_object (Keyed.increasing_ofList _) ?_
  rintro ⟨key, found⟩ hmem
  obtain ⟨r, -, rfl⟩ := (Keyed.mem_ofList_iff rights.find?_stored).1 hmem
  exact (rights.row r).takes_toValue nesting

/-! ## Records -/

/-- An instant is taken back. -/
theorem Instant.takes_toJson (t : Instant) (nesting : Nat) :
    Instant.reader.Takes nesting t.toJson.chars t :=
  Json.takes_parsed t.ofText?_text nesting

namespace RoleRecord

variable {record : RoleRecord} {nesting : Nat}

/-- The members that every record has are read before the instant of the update. -/
theorem steps_toJson
    (hrights : Json.Reader.value.Takes nesting record.accessRights.chars record.accessRights)
    {parts : List (List Char)} {last : Draft}
    (hlast : Json.Steps (layout.readMember nesting)
      ⟨some record.name, some record.accessRights, some record.createdAt, none⟩ parts last) :
    Json.Steps (layout.readMember nesting) layout.blank
      (Json.printed [("name", .string record.name), ("accessRights", record.accessRights),
        ("createdAt", record.createdAt.toJson)] ++ parts) last :=
  .cons (Json.Record.advances_required rfl rfl (Json.takes_textFor "a string" _ nesting))
    (.cons (Json.Record.advances_required rfl rfl hrights)
      (.cons (Json.Record.advances_required rfl rfl (record.createdAt.takes_toJson nesting))
        hlast))

/-- A record is taken back when its matrix is. -/
theorem takes_toJson
    (hrights : Json.Reader.value.Takes nesting record.accessRights.chars record.accessRights) :
    layout.reader.Takes (nesting + 1) record.toJson.chars record := by
  obtain ⟨name, accessRights, createdAt, updatedAt⟩ := record
  cases updatedAt with
  | none => exact Json.Record.takes_reader (steps_toJson hrights .nil) rfl
  | some t =>
    have hupdated := Json.takes_optional (t.takes_toJson nesting)
    exact Json.Record.takes_reader (steps_toJson hrights
      (.cons (Json.Record.advances_trailing rfl rfl hupdated) .nil)) rfl

/-- A record of a stored matrix is read back from its text. -/
theorem ofText_render {rights : AccessRights} (h : record.accessRights = rights.toValue) :
    ofText record.toJson.render = .ok record := by
  refine Json.readAll_of_takes ?_
  rw [Json.Value.render, String.toList_ofList]
  refine takes_toJson ?_
  rw [h]
  exact rights.takes_toValue 124

end RoleRecord

/-! ## Roles -/

namespace Role

/-- The record of a role is loaded as the role at version zero. -/
theorem load_toRecord (role : Role) :
    load role.id role.toRecord = .ok { role with version := 0 } :=
  load_eq_ok_iff.2 ⟨role.accessRights.ofValue_toValue, rfl, rfl, rfl, rfl, rfl⟩

/--
**A role survives being stored.**  The text of its record is read, and loading what is read
gives a role with the same identifier, name, matrix and instants, at version zero; the text
of the record of that role is the same text again.
-/
theorem load_stored (role : Role) :
    ∃ record reloaded, RoleRecord.ofText role.toRecord.toJson.render = .ok record ∧
      load role.id record = .ok reloaded ∧ reloaded.id = role.id ∧ reloaded.name = role.name ∧
      reloaded.accessRights = role.accessRights ∧ reloaded.createdAt = role.createdAt ∧
      reloaded.updatedAt = role.updatedAt ∧ reloaded.version = 0 ∧
      reloaded.toRecord.toJson.render = role.toRecord.toJson.render :=
  ⟨role.toRecord, { role with version := 0 }, RoleRecord.ofText_render rfl, role.load_toRecord,
    rfl, rfl, rfl, rfl, rfl, rfl, rfl⟩

end Role

end AccessControl
