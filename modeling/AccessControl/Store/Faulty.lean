/-
# Stores with faults

A store together with the calls of it that fail.  A failing call changes nothing
and reports a storage failure; two further faults make a call answer wrongly.
-/
import AccessControl.Store

namespace AccessControl

/-- The calls of the stores. -/
inductive StoreCall where
  | resolveRole
  | resolvePrincipal
  | insertRole
  | updateRole
  | removeRole
  | findRole
  | listRoles
  | insertPrincipal
  | insertClient
  | findClient
  | rotateClient
  | removeExpired
  deriving DecidableEq, Repr

/-- The name of a call in the report of its failure. -/
def StoreCall.name : StoreCall → String
  | .resolveRole => "resolve_role"
  | .resolvePrincipal => "resolve_principal"
  | .insertRole => "insert_role"
  | .updateRole => "update_role"
  | .removeRole => "remove_role"
  | .findRole => "find_role_by_name"
  | .listRoles => "list_roles"
  | .insertPrincipal => "insert_principal"
  | .insertClient => "insert_client"
  | .findClient => "find_client"
  | .rotateClient => "rotate_client"
  | .removeExpired => "remove_expired_clients"

/-- The calls of the stores, in order of declaration. -/
def StoreCall.all : List StoreCall :=
  [.resolveRole, .resolvePrincipal, .insertRole, .updateRole, .removeRole, .findRole, .listRoles,
    .insertPrincipal, .insertClient, .findClient, .rotateClient, .removeExpired]

/-- What can go wrong with a store. -/
inductive Fault where
  /-- The call reports a storage failure. -/
  | failing (call : StoreCall)
  /-- No role can be resolved. -/
  | roleGone
  /-- Every token to be replaced is gone. -/
  | rotationLost
  deriving DecidableEq, Repr

/-- The name of a fault. -/
def Fault.name : Fault → String
  | .failing call => call.name
  | .roleGone => "role_gone"
  | .rotationLost => "rotate_lost"

/-- All faults. -/
def Fault.all : List Fault := StoreCall.all.map Fault.failing ++ [roleGone, rotationLost]

/-- The fault with a given name. -/
def Fault.ofName? (name : String) : Option Fault := all.find? fun fault => fault.name = name

/-- A store with faults. -/
structure Faulty (σ : Type) where
  base : σ
  faults : List Fault

namespace Faulty

variable {σ α β : Type}

/-- The result of a call, unless the call fails. -/
def answer (store : Faulty σ) (call : StoreCall) (result : Except AuthorizationError α) :
    Except AuthorizationError α :=
  if .failing call ∈ store.faults then .error (.storage ("injected " ++ call.name)) else result

/-- The store afterwards, with the same faults. -/
def become (store : Faulty σ) (result : Except AuthorizationError (β × σ)) :
    Except AuthorizationError (β × Faulty σ) :=
  result.map fun (value, base) => (value, { store with base })

instance [IdentityStore σ] : IdentityStore (Faulty σ) where
  resolveRole store roleId := store.answer .resolveRole
    (if .roleGone ∈ store.faults then .error (.roleNotFound roleId)
      else IdentityStore.resolveRole store.base roleId)
  resolvePrincipal store principalId := store.answer .resolvePrincipal
    (IdentityStore.resolvePrincipal store.base principalId)

instance [RoleStore σ] : RoleStore (Faulty σ) where
  insertRole store role := store.answer .insertRole
    (store.become (RoleStore.insertRole store.base role))
  updateRole store roleId expected accessRights now := store.answer .updateRole
    (store.become (RoleStore.updateRole store.base roleId expected accessRights now))
  removeRole store roleId := store.answer .removeRole
    (store.become (RoleStore.removeRole store.base roleId))
  findRole store name := store.answer .findRole (RoleStore.findRole store.base name)
  listRoles store := store.answer .listRoles (RoleStore.listRoles store.base)
  insertPrincipal store principal := store.answer .insertPrincipal
    ((RoleStore.insertPrincipal store.base principal).map fun base => { store with base })

instance [ClientStore σ] : ClientStore (Faulty σ) where
  insertClient store client := store.answer .insertClient
    ((ClientStore.insertClient store.base client).map fun base => { store with base })
  findClient store token := store.answer .findClient (ClientStore.findClient store.base token)
  rotateClient store token replacement := store.answer .rotateClient
    (if .rotationLost ∈ store.faults then .ok none
      else (ClientStore.rotateClient store.base token replacement).map fun rotated =>
        rotated.map fun (retired, base) => (retired, { store with base }))
  removeExpired store now := store.answer .removeExpired
    (store.become (ClientStore.removeExpired store.base now))

end Faulty

end AccessControl
