/-
# Role records

The stored form of a role.  Its matrix is kept as it was written until the role
is loaded, so that whatever is wrong with it is found in one place.
-/
import AccessControl.Role

namespace AccessControl

/-- A stored role. -/
structure RoleRecord where
  name : String
  accessRights : Json.Value
  createdAt : Instant
  updatedAt : Option Instant
  deriving DecidableEq, Repr

namespace RoleRecord

/-- A record that is being read. -/
structure Draft where
  name : Option String
  accessRights : Option Json.Value
  createdAt : Option Instant
  updatedAt : Option (Option Instant)

/-- How a record is laid out in JSON. -/
def layout : Json.Record Draft RoleRecord where
  name := "RoleRecord"
  fields := [
    .required "name" Draft.name (fun d name => { d with name }) Json.Reader.text,
    .required "accessRights" Draft.accessRights (fun d accessRights => { d with accessRights })
      Json.Reader.value,
    .required "createdAt" Draft.createdAt (fun d createdAt => { d with createdAt }) Instant.reader,
    .trailing "updatedAt" Draft.updatedAt (fun d updatedAt =>
      { d with updatedAt := some updatedAt })
      (Json.Reader.optional Instant.reader)]
  strict := false
  blank := ⟨none, none, none, none⟩
  finish draft := do
    let name ← Json.require "name" draft.name
    let accessRights ← Json.require "accessRights" draft.accessRights
    let createdAt ← Json.require "createdAt" draft.createdAt
    return { name, accessRights, createdAt, updatedAt := draft.updatedAt.join }

/-- The record that a text denotes. -/
def ofText (text : String) : Json.Reading RoleRecord := layout.ofText text

/-- A record in JSON; without an instant of update it has no such member. -/
def toJson (record : RoleRecord) : Json.Value :=
  .object ([
    ("name", .string record.name),
    ("accessRights", record.accessRights),
    ("createdAt", record.createdAt.toJson)] ++
    (record.updatedAt.map fun t => ("updatedAt", t.toJson)).toList)

end RoleRecord

namespace Role

/-- The role that a record holds, at version zero. -/
def load (id : RoleId) (record : RoleRecord) : Except AuthorizationError Role :=
  match AccessRights.ofValue record.accessRights with
  | .error defect => .error (.malformedPolicy (.roleMatrix record.name defect))
  | .ok accessRights =>
    if named : ¬ Text.IsBlank record.name then
      .ok {
        id, accessRights, named
        name := record.name
        createdAt := record.createdAt
        updatedAt := record.updatedAt.getD record.createdAt
        version := 0 }
    else .error (.malformedPolicy .blankRoleName)

/-- The record of a role. -/
def toRecord (role : Role) : RoleRecord where
  name := role.name
  accessRights := role.accessRights.toValue
  createdAt := role.createdAt
  updatedAt := some role.updatedAt

/-- A role is loaded when its matrix can be read; the rest of it is what the record says. -/
theorem load_eq_ok_iff {id : RoleId} {record : RoleRecord} {role : Role} :
    load id record = .ok role ↔
      AccessRights.ofValue record.accessRights = .ok role.accessRights ∧ role.id = id ∧
        role.name = record.name ∧ role.createdAt = record.createdAt ∧
        role.updatedAt = record.updatedAt.getD record.createdAt ∧ role.version = 0 := by
  unfold load
  cases AccessRights.ofValue record.accessRights with
  | error defect => simp
  | ok accessRights =>
    dsimp only
    constructor
    · intro h
      split at h
      · cases h
        exact ⟨rfl, rfl, rfl, rfl, rfl, rfl⟩
      · cases h
    · rintro ⟨hrights, rfl, hname, hcreated, hupdated, hversion⟩
      have hnamed : ¬ Text.IsBlank record.name := hname ▸ role.named
      rw [dif_pos hnamed]
      cases role
      cases hrights
      cases hname
      cases hcreated
      cases hupdated
      cases hversion
      rfl

/-- A role is not loaded when its matrix cannot be read, or when it can and the name is blank. -/
theorem load_eq_error_iff {id : RoleId} {record : RoleRecord} {error : AuthorizationError} :
    load id record = .error error ↔
      (∃ defect, AccessRights.ofValue record.accessRights = .error defect ∧
        error = .malformedPolicy (.roleMatrix record.name defect)) ∨
      (∃ rights, AccessRights.ofValue record.accessRights = .ok rights) ∧
        Text.IsBlank record.name ∧ error = .malformedPolicy .blankRoleName := by
  unfold load
  cases AccessRights.ofValue record.accessRights with
  | error defect => simp [eq_comm]
  | ok rights =>
    dsimp only
    by_cases hblank : Text.IsBlank record.name
    · rw [dif_neg (not_not_intro hblank)]
      simp [hblank, eq_comm]
    · rw [dif_pos hblank]
      simp [hblank]

end Role

end AccessControl
