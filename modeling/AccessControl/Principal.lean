/-
# Principals

A principal is an account with a login.  It holds its role by reference, so that
every decision is made on the role as it is then.
-/
import AccessControl.Json.Scalars

namespace AccessControl

/-- An account. -/
structure Principal where
  id : PrincipalId
  login : String
  roleId : RoleId
  deriving DecidableEq, Repr

namespace Principal

/-- A principal that is being read. -/
structure Draft where
  id : Option PrincipalId
  login : Option String
  roleId : Option RoleId

/-- How a principal is laid out in JSON. -/
def layout : Json.Record Draft Principal where
  name := "Principal"
  fields := [
    .required "principalId" Draft.id (fun d id => { d with id }) PrincipalId.reader,
    .required "login" Draft.login (fun d login => { d with login }) Json.Reader.text,
    .required "roleId" Draft.roleId (fun d roleId => { d with roleId }) RoleId.reader]
  strict := false
  blank := ⟨none, none, none⟩
  finish draft := do
    let id ← Json.require "principalId" draft.id
    let login ← Json.require "login" draft.login
    let roleId ← Json.require "roleId" draft.roleId
    return { id, login, roleId }

/-- The principal that a text denotes. -/
def ofText (text : String) : Json.Reading Principal := layout.ofText text

/-- A principal in JSON. -/
def toJson (principal : Principal) : Json.Value :=
  .object [
    ("principalId", principal.id.toJson),
    ("login", .string principal.login),
    ("roleId", principal.roleId.toJson)]

end Principal

end AccessControl
