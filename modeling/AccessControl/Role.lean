/-
# Roles

A role is a named matrix of rights.  A role is never changed in place: an edit
makes the next snapshot, one version ahead.
-/
import AccessControl.Error
import AccessControl.Text.Blank
import AccessControl.Json.Scalars

namespace AccessControl

/-- A snapshot of a role. -/
structure Role where
  id : RoleId
  name : String
  accessRights : AccessRights
  createdAt : Instant
  updatedAt : Instant
  version : UInt64
  /-- The name holds something other than blanks. -/
  named : ¬ Text.IsBlank name
  deriving DecidableEq

namespace Role

/-- A new role, at version zero. -/
def create (id : RoleId) (name : String) (accessRights : AccessRights) (now : Instant) :
    Except AuthorizationError Role :=
  if named : ¬ Text.IsBlank name then
    .ok { id, name, accessRights, createdAt := now, updatedAt := now, version := 0, named }
  else .error (.invalidRequest .blankRoleName)

/-- The next snapshot, with other rights. -/
def revise (role : Role) (accessRights : AccessRights) (now : Instant) : Role :=
  { role with accessRights, updatedAt := now, version := role.version + 1 }

/-- A role in JSON. -/
def toJson (role : Role) : Json.Value :=
  .object [
    ("id", role.id.toJson),
    ("name", .string role.name),
    ("accessRights", role.accessRights.toValue),
    ("createdAt", role.createdAt.toJson),
    ("updatedAt", role.updatedAt.toJson),
    ("version", .whole role.version.toNat)]

end Role

end AccessControl
