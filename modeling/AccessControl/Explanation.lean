/-
# Explanations

Why a request is allowed or denied, for an audit: what the role may do on the
resource, and for a denial what it may do at all and what would help.
-/
import AccessControl.Decision

namespace AccessControl

/-- Something that would turn a denial into an allowance, or explain it. -/
inductive Suggestion where
  | assignRole (permission : Permission)
  | extendRole (permission : Permission) (role : String)
  | checkAssignment (role : String) (resource : Resource)
  deriving DecidableEq, Repr

/-- The wording of each suggestion. -/
def Suggestion.message : Suggestion → String
  | .assignRole permission => "Assign a role that grants '" ++ permission.name ++ "'"
  | .extendRole permission role =>
    "Have a principal with 'roles.edit' grant '" ++ permission.name ++ "' to role '" ++ role ++ "'"
  | .checkAssignment role resource =>
    "Role '" ++ role ++ "' has no access to " ++ resource.label ++
      " at all; check that the intended role was assigned"

/-- What is said about a denial. -/
structure DenialReason where
  message : String
  /-- Everything that the role may do. -/
  effectivePermissions : List Permission
  suggestions : List Suggestion
  deriving DecidableEq, Repr

/-- Why a request is allowed or denied. -/
structure Explanation where
  permission : Permission
  decision : Decision
  reason : String
  /-- The name of the role. -/
  role : String
  /-- What the role may do on the requested resource. -/
  grantedOnResource : List Action
  denialReason : Option DenialReason
  deriving DecidableEq, Repr

namespace Role

/-- What is said when a role does not have a permission. -/
def denial (role : Role) (permission : Permission) : DenialReason where
  message := "Missing required permission: '" ++ permission.name ++ "'"
  effectivePermissions := role.accessRights.granted
  suggestions :=
    [.assignRole permission, .extendRole permission role.name] ++
      if (role.accessRights.row permission.resource).granted = [] then
        [.checkAssignment role.name permission.resource]
      else []

/-- The explanation of the decision for a permission. -/
def explanation (role : Role) (permission : Permission) : Explanation :=
  let decision := role.check permission
  let granted := (role.accessRights.row permission.resource).granted
  match decision with
  | .allow =>
    ⟨permission, decision, "role '" ++ role.name ++ "' grants '" ++ permission.name ++ "'",
      role.name, granted, none⟩
  | .deny =>
    ⟨permission, decision, "role '" ++ role.name ++ "' does not grant '" ++ permission.name ++ "'",
      role.name, granted, some (role.denial permission)⟩

/-- The explanation of the decision for a named resource and a named action. -/
def explain (role : Role) (resource action : String) : Except AuthorizationError Explanation := do
  return role.explanation (← Permission.ofNames resource action)

end Role

/-! ## JSON -/

/-- The denial in JSON. -/
def DenialReason.toJson (denial : DenialReason) : Json.Value :=
  .object [
    ("message", .string denial.message),
    ("effective_permissions", .array (denial.effectivePermissions.map Permission.toJson)),
    ("suggestions", .array (denial.suggestions.map fun s => .string s.message))]

/-- An explanation in JSON. -/
def Explanation.toJson (e : Explanation) : Json.Value :=
  .object [
    ("permission", e.permission.toJson),
    ("decision", .string e.decision.name),
    ("reason", .string e.reason),
    ("role", .string e.role),
    ("granted_on_resource", .array (e.grantedOnResource.map fun a => .string a.name)),
    ("denial_reason", e.denialReason.elim .null DenialReason.toJson)]

end AccessControl
