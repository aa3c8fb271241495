/-
# The registry

A view of a set of roles for an audit: what each role grants, by name, and what
each permission means.  Of two roles with one name the later counts.
-/
import AccessControl.Explanation

namespace AccessControl

/-- A role and what it grants. -/
structure RoleDefinition where
  name : String
  permissions : List Permission
  deriving DecidableEq, Repr

/-- A permission and what it means. -/
structure PermissionDefinition where
  name : String
  description : String
  category : Resource
  deriving DecidableEq, Repr

/-- Roles and permissions by name, in the order of their names. -/
structure Registry where
  roles : List (String × RoleDefinition)
  permissions : List (String × PermissionDefinition)
  deriving DecidableEq, Repr

namespace Registry

/-- What a role grants. -/
def definition (role : Role) : RoleDefinition := ⟨role.name, role.accessRights.granted⟩

/-- What every permission means. -/
def catalogue : List (String × PermissionDefinition) :=
  Keyed.ofList (Permission.all.map fun p => (p.name, ⟨p.name, p.description, p.resource⟩))

/-- The registry of a sequence of roles. -/
def ofRoles (roles : List Role) : Registry where
  roles := Keyed.ofList (roles.map fun role => (role.name, definition role))
  permissions := catalogue

/-- The names of the roles that grant a permission. -/
def rolesGranting (registry : Registry) (permission : Permission) : List String :=
  (registry.roles.filter fun entry => permission ∈ entry.2.permissions).map fun entry =>
    entry.2.name

end Registry

/-! ## JSON -/

/-- A role definition in JSON. -/
def RoleDefinition.toJson (definition : RoleDefinition) : Json.Value :=
  .object [
    ("name", .string definition.name),
    ("permissions", .array (definition.permissions.map Permission.toJson))]

/-- A permission definition in JSON. -/
def PermissionDefinition.toJson (definition : PermissionDefinition) : Json.Value :=
  .object [
    ("name", .string definition.name),
    ("description", .string definition.description),
    ("category", .string definition.category.name)]

end AccessControl
