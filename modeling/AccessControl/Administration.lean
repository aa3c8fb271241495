/-
# Role administration

Operations on roles by an acting role.  Each asks for the permission of its name
on roles before it looks at its arguments or at the store.
-/
import AccessControl.Decision
import AccessControl.Store

namespace AccessControl.Administration

variable {σ : Type} [RoleStore σ]

/-- Refuses an actor without the permission for an action on roles. -/
def require (actor : Role) (action : Action) : Except AuthorizationError Unit :=
  match actor.check ⟨.roles, action⟩ with
  | .allow => .ok ()
  | .deny => .error (.permissionDenied ⟨.roles, action⟩)

theorem require_eq_ok_iff {actor : Role} {action : Action} :
    require actor action = .ok () ↔ actor.check ⟨.roles, action⟩ = .allow := by
  unfold require
  cases actor.check ⟨.roles, action⟩ <;> simp

/-- Registers a new role. -/
def createRole (store : σ) (actor : Role) (id : RoleId) (name : String)
    (accessRights : AccessRights) (now : Instant) : Except AuthorizationError (Role × σ) := do
  require actor .create
  RoleStore.insertRole store (← Role.create id name accessRights now)

/-- Replaces the rights of a role whose version is the expected one. -/
def editRole (store : σ) (actor : Role) (roleId : RoleId) (expected : ExpectedVersion)
    (accessRights : AccessRights) (now : Instant) : Except AuthorizationError (Role × σ) := do
  require actor .edit
  RoleStore.updateRole store roleId expected accessRights now

/-- Removes a role that no principal has. -/
def deleteRole (store : σ) (actor : Role) (roleId : RoleId) :
    Except AuthorizationError (Role × σ) := do
  require actor .delete
  RoleStore.removeRole store roleId

/-- The role with an identifier. -/
def viewRole (store : σ) (actor : Role) (roleId : RoleId) : Except AuthorizationError Role := do
  require actor .view
  IdentityStore.resolveRole store roleId

/-- All roles. -/
def listRoles (store : σ) (actor : Role) : Except AuthorizationError (List Role) := do
  require actor .list
  RoleStore.listRoles store

end AccessControl.Administration
