/-
# Decisions

Whether a role may perform an action on a resource.
-/
import AccessControl.Role

namespace AccessControl

/-- The outcome of an authorization. -/
inductive Decision where
  | allow
  | deny
  deriving DecidableEq, Repr

/-- The decision that allows when a flag is set. -/
def Decision.ofBool : Bool → Decision
  | true => .allow
  | false => .deny

/-- The name of a decision. -/
def Decision.name : Decision → String
  | .allow => "allow"
  | .deny => "deny"

namespace Role

/-- The decision for a permission. -/
def check (role : Role) (permission : Permission) : Decision :=
  .ofBool (role.accessRights.allows permission.resource permission.action)

/-- The decision for a named resource and a named action. -/
def authorize (role : Role) (resource action : String) : Except AuthorizationError Decision := do
  return role.check (← Permission.ofNames resource action)

/-- A role allows what its matrix grants. -/
theorem check_eq_allow_iff {role : Role} {p : Permission} :
    role.check p = .allow ↔ p ∈ role.accessRights.granted := by
  rw [AccessRights.mem_granted, check]
  cases role.accessRights.allows p.resource p.action <;> simp [Decision.ofBool]

end Role

end AccessControl
