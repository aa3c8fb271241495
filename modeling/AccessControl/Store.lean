/-
# Stores

What the rest of the library asks of a store of roles and principals, and of a
store of refresh clients.  A store is a value: a call that changes it gives the
store afterwards, and a call that fails leaves it as it was.
-/
import AccessControl.Principal
import AccessControl.RefreshClient
import AccessControl.Role
import AccessControl.Version

namespace AccessControl

/-- A store from which roles and principals can be resolved. -/
class IdentityStore (σ : Type) where
  resolveRole : σ → RoleId → Except AuthorizationError Role
  resolvePrincipal : σ → PrincipalId → Except AuthorizationError Principal

/-- A store in which roles and principals are registered. -/
class RoleStore (σ : Type) extends IdentityStore σ where
  /-- Registers a role. -/
  insertRole : σ → Role → Except AuthorizationError (Role × σ)
  /-- Replaces the rights of a role whose version is the expected one. -/
  updateRole : σ → RoleId → ExpectedVersion → AccessRights → Instant →
    Except AuthorizationError (Role × σ)
  /-- Removes a role that no principal has. -/
  removeRole : σ → RoleId → Except AuthorizationError (Role × σ)
  findRole : σ → String → Except AuthorizationError Role
  listRoles : σ → Except AuthorizationError (List Role)
  /-- Registers a principal. -/
  insertPrincipal : σ → Principal → Except AuthorizationError σ

/-- A store of refresh clients. -/
class ClientStore (σ : Type) where
  insertClient : σ → RefreshClient → Except AuthorizationError σ
  findClient : σ → String → Except AuthorizationError (Option RefreshClient)
  /--
  Puts a client in the place of the one with a given token and gives the latter;
  nothing is stored when there is none.
  -/
  rotateClient : σ → String → RefreshClient →
    Except AuthorizationError (Option (RefreshClient × σ))
  /-- Removes the clients that have expired, and says how many there were. -/
  removeExpired : σ → Instant → Except AuthorizationError (Nat × σ)

end AccessControl
