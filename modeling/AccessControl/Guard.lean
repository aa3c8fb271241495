/-
# The guard

The check at the boundary of a request.  Credentials are looked at first, then
the names in the request, then the store, and at last the matrix of the role; the
first thing wrong is the answer, and anything but a grant is an error.
-/
import AccessControl.Claims
import AccessControl.Decision
import AccessControl.Store

namespace AccessControl

/-- The proof that a request has passed the guard. -/
structure Grant where
  principalId : PrincipalId
  roleId : RoleId
  roleName : String
  resource : Resource
  action : Action
  deriving DecidableEq, Repr

/-- A grant in JSON. -/
def Grant.toJson (grant : Grant) : Json.Value :=
  .object [
    ("principal_id", grant.principalId.toJson),
    ("role_id", grant.roleId.toJson),
    ("role_name", .string grant.roleName),
    ("resource", .string grant.resource.name),
    ("action", .string grant.action.name)]

namespace Guard

variable {σ : Type} [IdentityStore σ]

/-- The grant that a role gives to a principal. -/
def grant (principalId : PrincipalId) (role : Role) (permission : Permission) :
    Except AccessError Grant :=
  match role.check permission with
  | .allow => .ok ⟨principalId, role.id, role.name, permission.resource, permission.action⟩
  | .deny => .error (.authorization (.permissionDenied permission))

/-- Checks a request that bears claims. -/
def require (store : σ) (claims : AccessClaims) (now : Instant) (resource action : String) :
    Except AccessError Grant := do
  (claims.validate now).mapError .token
  let permission ← (Permission.ofNames resource action).mapError .authorization
  let role ← (IdentityStore.resolveRole store claims.roleId).mapError .authorization
  grant claims.subject role permission

/-- Checks a request that may come without claims. -/
def requireClaims (store : σ) (claims : Option AccessClaims) (now : Instant)
    (resource action : String) : Except AccessError Grant :=
  match claims with
  | none => .error (.unauthorized .accessToken)
  | some claims => require store claims now resource action

/-- Checks a request of a known principal, with the role that it has now. -/
def requirePrincipal (store : σ) (principalId : PrincipalId) (resource action : String) :
    Except AccessError Grant := do
  let permission ← (Permission.ofNames resource action).mapError .authorization
  let principal ← (IdentityStore.resolvePrincipal store principalId).mapError .authorization
  let role ← (IdentityStore.resolveRole store principal.roleId).mapError .authorization
  grant principal.id role permission

end Guard

end AccessControl
