/-
# Calls of a store of roles

The eight calls of a store of roles and principals as data, so that a law can speak of
all of them: what a call answers, its errors included, and the store that it leaves.  In
the directory a call is one of the operations, or leaves the directory as it is.
-/
import AccessControl.Proofs.Directory.Consistency

namespace AccessControl

namespace RoleStore

/-- A call of a store of roles, with what it is given. -/
inductive Call where
  | resolveRole (roleId : RoleId)
  | resolvePrincipal (principalId : PrincipalId)
  | findRole (name : String)
  | listRoles
  | insertRole (role : Role)
  | updateRole (roleId : RoleId) (expected : ExpectedVersion) (accessRights : AccessRights)
      (now : Instant)
  | removeRole (roleId : RoleId)
  | insertPrincipal (principal : Principal)
  deriving DecidableEq

/-- What a call that succeeds answers. -/
inductive Answer where
  | role (role : Role)
  | roles (roles : List Role)
  | principal (principal : Principal)
  | done
  deriving DecidableEq

variable {σ α : Type}

/-- The outcome of a read; the store stays as it is. -/
def afterRead (store : σ) (answer : α → Answer) (result : Except AuthorizationError α) :
    Except AuthorizationError Answer × σ :=
  (result.map answer, store)

/-- The outcome of a write; the store stays as it is when the write fails. -/
def afterWrite (store : σ) (answer : α → Answer) :
    Except AuthorizationError (α × σ) → Except AuthorizationError Answer × σ
  | .error error => (.error error, store)
  | .ok (value, store) => (.ok (answer value), store)

/-- What a store answers to a call, and the store afterwards. -/
def perform [RoleStore σ] (store : σ) : Call → Except AuthorizationError Answer × σ
  | .resolveRole roleId => afterRead store .role (IdentityStore.resolveRole store roleId)
  | .resolvePrincipal principalId =>
    afterRead store .principal (IdentityStore.resolvePrincipal store principalId)
  | .findRole name => afterRead store .role (RoleStore.findRole store name)
  | .listRoles => afterRead store .roles (RoleStore.listRoles store)
  | .insertRole role => afterWrite store .role (RoleStore.insertRole store role)
  | .updateRole roleId expected accessRights now =>
    afterWrite store .role (RoleStore.updateRole store roleId expected accessRights now)
  | .removeRole roleId => afterWrite store .role (RoleStore.removeRole store roleId)
  | .insertPrincipal principal =>
    afterWrite store (fun () => .done)
      ((RoleStore.insertPrincipal store principal).map fun store => ((), store))

/-- What a store answers to calls one after the other, and the store afterwards. -/
def performAll [RoleStore σ] (store : σ) :
    List Call → List (Except AuthorizationError Answer) × σ
  | [] => ([], store)
  | call :: rest =>
    let outcome := perform store call
    let outcomes := performAll outcome.2 rest
    (outcome.1 :: outcomes.1, outcomes.2)

end RoleStore

namespace Directory

/-! ## The calls of the directory -/

open RoleStore (perform afterWrite)

variable {d : Directory}

theorem snd_afterWrite {α : Type} (answer : α → RoleStore.Answer)
    (result : Except AuthorizationError (α × Directory)) :
    (afterWrite d answer result).2 = d.after result := by
  cases result <;> rfl

/-- What holds of the directory as it was, and of whatever a write leaves, holds after the call. -/
theorem afterWrite_induction {α : Type} {P : Directory → Prop} {answer : α → RoleStore.Answer}
    {result : Except AuthorizationError (α × Directory)} (hkept : P d)
    (hwritten : ∀ value d', result = .ok (value, d') → P d') :
    P (afterWrite d answer result).2 := by
  rw [snd_afterWrite]
  exact after_induction hkept hwritten

/-- A call leaves the directory that one of the operations leaves, or the directory itself. -/
theorem perform_eq_apply (d : Directory) (call : RoleStore.Call) :
    (perform d call).2 = d ∨ ∃ operation, (perform d call).2 = d.apply operation := by
  cases call with
  | resolveRole _ => exact .inl rfl
  | resolvePrincipal _ => exact .inl rfl
  | findRole _ => exact .inl rfl
  | listRoles => exact .inl rfl
  | insertRole role => exact .inr ⟨.insertRole role, snd_afterWrite _ _⟩
  | updateRole roleId expected accessRights now =>
    exact .inr ⟨.updateRole roleId expected accessRights now, snd_afterWrite _ _⟩
  | removeRole roleId => exact .inr ⟨.removeRole roleId, snd_afterWrite _ _⟩
  | insertPrincipal principal => exact .inr ⟨.insertPrincipal principal, snd_afterWrite _ _⟩

/-- A call keeps a directory consistent. -/
theorem Consistent.perform (hd : d.Consistent) (call : RoleStore.Call) :
    (RoleStore.perform d call).2.Consistent := by
  rcases perform_eq_apply d call with hsame | ⟨operation, happly⟩
  · rwa [hsame]
  · rw [happly]
    exact hd.apply operation

end Directory

end AccessControl
