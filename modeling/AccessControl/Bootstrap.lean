/-
# Bootstrap

Installing a policy document in a store: the document is checked as a whole, then
its roles and its principals are registered one by one.  A failure on the way
leaves what has been registered so far.
-/
import AccessControl.Policy
import AccessControl.Store

namespace AccessControl

/-- Identifiers for what a document declares, by place. -/
structure Supply where
  roleId : Nat → RoleId
  principalId : Nat → PrincipalId

/-- The identifiers under which a document was installed, in the order of names and logins. -/
structure Installation where
  roles : List (String × RoleId)
  principals : List (String × PrincipalId)
  deriving DecidableEq, Repr

namespace Installation

/-- The identifier of the role with a name. -/
def roleId? (installed : Installation) (name : String) : Option RoleId :=
  Keyed.find? installed.roles name

/-- The identifier of the principal with a login. -/
def principalId? (installed : Installation) (login : String) : Option PrincipalId :=
  Keyed.find? installed.principals login

end Installation

namespace Bootstrap

variable {σ : Type} [RoleStore σ]

/-- Registers roles one by one. -/
def insertRoles : List Role → Installation → σ →
    Except AuthorizationError Installation × σ
  | [], installed, store => (.ok installed, store)
  | role :: rest, installed, store =>
    match RoleStore.insertRole store role with
    | .error error => (.error error, store)
    | .ok (stored, store) =>
      insertRoles rest
        { installed with roles := Keyed.insert stored.name stored.id installed.roles } store

/-- Registers principals one by one, each with the identifier beside it. -/
def insertPrincipals : List (DeclaredPrincipal × PrincipalId) → Installation → σ →
    Except AuthorizationError Installation × σ
  | [], installed, store => (.ok installed, store)
  | (declared, id) :: rest, installed, store =>
    match installed.roleId? declared.role with
    | none => (.error (.unknownRoleName declared.role), store)
    | some roleId =>
      match RoleStore.insertPrincipal store ⟨id, declared.login, roleId⟩ with
      | .error error => (.error error, store)
      | .ok store =>
        insertPrincipals rest
          { installed with principals := Keyed.insert declared.login id installed.principals } store

end Bootstrap

/-- Installs a document in a store. -/
def bootstrap {σ : Type} [RoleStore σ] (store : σ) (document : PolicyDocument)
    (supply : Supply) (now : Instant) : Except AuthorizationError Installation × σ :=
  match document.validate supply.roleId now with
  | .error error => (.error error, store)
  | .ok roles =>
    match Bootstrap.insertRoles roles ⟨[], []⟩ store with
    | (.error error, store) => (.error error, store)
    | (.ok installed, store) =>
      Bootstrap.insertPrincipals
        (document.principals.zipIdx.map fun (declared, place) =>
          (declared, supply.principalId place))
        installed store

end AccessControl
