/-
# Policy documents

A policy document declares roles with their matrices, and principals with the
names of their roles.  It is checked as a whole before anything is made of it.
-/
import AccessControl.Role.Record

namespace AccessControl

/-! ## Declared roles -/

/-- A declared role; its matrix is kept as it was written. -/
structure DeclaredRole where
  name : String
  accessRights : Json.Value
  deriving DecidableEq, Repr

namespace DeclaredRole

/-- A declared role that is being read. -/
structure Draft where
  name : Option String
  accessRights : Option Json.Value

/-- How a declared role is laid out in JSON. -/
def layout : Json.Record Draft DeclaredRole where
  name := "SeedRole"
  fields := [
    .required "name" Draft.name (fun d name => { d with name }) Json.Reader.text,
    .required "accessRights" Draft.accessRights (fun d accessRights => { d with accessRights })
      Json.Reader.value]
  strict := true
  blank := ⟨none, none⟩
  finish draft := do
    let name ← Json.require "name" draft.name
    let accessRights ← Json.require "accessRights" draft.accessRights
    return { name, accessRights }

/-- A declared role in JSON. -/
def toJson (role : DeclaredRole) : Json.Value :=
  .object [("name", .string role.name), ("accessRights", role.accessRights)]

/-- The record of a declared role, made at an instant. -/
def record (role : DeclaredRole) (now : Instant) : RoleRecord where
  name := role.name
  accessRights := role.accessRights
  createdAt := now
  updatedAt := some now

end DeclaredRole

/-! ## Declared principals -/

/-- A declared principal, with the name of its role. -/
structure DeclaredPrincipal where
  login : String
  role : String
  deriving DecidableEq, Repr

namespace DeclaredPrincipal

/-- A declared principal that is being read. -/
structure Draft where
  login : Option String
  role : Option String

/-- How a declared principal is laid out in JSON. -/
def layout : Json.Record Draft DeclaredPrincipal where
  name := "SeedPrincipal"
  fields := [
    .required "login" Draft.login (fun d login => { d with login }) Json.Reader.text,
    .required "role" Draft.role (fun d role => { d with role }) Json.Reader.text]
  strict := true
  blank := ⟨none, none⟩
  finish draft := do
    let login ← Json.require "login" draft.login
    let role ← Json.require "role" draft.role
    return { login, role }

/-- A declared principal in JSON. -/
def toJson (principal : DeclaredPrincipal) : Json.Value :=
  .object [("login", .string principal.login), ("role", .string principal.role)]

end DeclaredPrincipal

/-! ## Documents -/

/-- A policy document. -/
structure PolicyDocument where
  roles : List DeclaredRole
  principals : List DeclaredPrincipal
  deriving DecidableEq, Repr

namespace PolicyDocument

/-- A document that is being read. -/
structure Draft where
  roles : Option (List DeclaredRole)
  principals : Option (List DeclaredPrincipal)

/-- How a document is laid out in JSON. -/
def layout : Json.Record Draft PolicyDocument where
  name := "PolicyDocument"
  fields := [
    .required "roles" Draft.roles (fun d roles => { d with roles })
      (Json.Reader.list DeclaredRole.layout.reader),
    .trailing "principals" Draft.principals (fun d principals => { d with principals })
      (Json.Reader.list DeclaredPrincipal.layout.reader)]
  strict := true
  blank := ⟨none, none⟩
  finish draft := do
    let roles ← Json.require "roles" draft.roles
    return { roles, principals := draft.principals.getD [] }

/-- The document that a text denotes, or why it cannot be read. -/
def readText (text : String) : Json.Reading PolicyDocument := layout.ofText text

/-- The document that a text denotes. -/
def ofText (text : String) : Except AuthorizationError PolicyDocument :=
  (readText text).mapError fun cause => .malformedPolicy (.unreadable cause)

/-- A document in JSON. -/
def toJson (document : PolicyDocument) : Json.Value :=
  .object [
    ("roles", .array (document.roles.map DeclaredRole.toJson)),
    ("principals", .array (document.principals.map DeclaredPrincipal.toJson))]

/-! ## The standard policy -/

/-- The rights of those who make barriers. -/
def manufacturerRights : AccessRights :=
  .ofCells fun resource action => resource = .openers && action = .create

/-- The rights of everybody else. -/
def normalRights : AccessRights := .ofCells fun resource action =>
  match resource with
  | .openers => action = .list || action = .view || action = .edit
  | .barrierManufacturers => action = .list || action = .view
  | .barrierModels => action = .list || action = .view
  | _ => false

/-- The policy that is used when no other is given. -/
def standard : PolicyDocument where
  roles := [
    ⟨"admin", AccessRights.full.toValue⟩,
    ⟨"manufacturer", manufacturerRights.toValue⟩,
    ⟨"normal", normalRights.toValue⟩]
  principals := [⟨"localadmin", "admin"⟩, ⟨"manufacturer", "manufacturer"⟩, ⟨"vasya", "normal"⟩]

/-! ## Checking -/

/-- The role of the declaration at a place; its name must not have been declared before. -/
def buildRole (document : PolicyDocument) (ids : Nat → RoleId) (now : Instant)
    (place : DeclaredRole × Nat) : Except AuthorizationError Role :=
  if (document.roles.take place.2).any fun earlier => earlier.name = place.1.name then
    .error (.malformedPolicy (.duplicateRole place.1.name))
  else Role.load (ids place.2) (place.1.record now)

/-- The declared roles; the one at each place gets the identifier of that place. -/
def buildRoles (document : PolicyDocument) (ids : Nat → RoleId) (now : Instant) :
    Except AuthorizationError (List Role) :=
  document.roles.zipIdx.mapM (document.buildRole ids now)

/-- The first principal whose role is not declared. -/
def orphan? (document : PolicyDocument) : Option DeclaredPrincipal :=
  document.principals.find? fun p => !document.roles.any fun r => r.name = p.role

/-- The first principal whose login has been declared before. -/
def duplicateLogin? (document : PolicyDocument) : Option DeclaredPrincipal :=
  (document.principals.zipIdx.find? fun place =>
    (document.principals.take place.2).any fun earlier => earlier.login = place.1.login).map (·.1)

/-- The declared roles of a document that is valid as a whole. -/
def validate (document : PolicyDocument) (ids : Nat → RoleId) (now : Instant) :
    Except AuthorizationError (List Role) := do
  let roles ← document.buildRoles ids now
  if let some p := document.orphan? then
    throw (.malformedPolicy (.undefinedRole p.login p.role))
  if let some p := document.duplicateLogin? then
    throw (.malformedPolicy (.duplicateLogin p.login))
  return roles

end PolicyDocument

end AccessControl
