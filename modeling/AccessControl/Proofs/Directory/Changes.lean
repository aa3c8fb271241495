/-
# Changes of a directory

What calls do to a directory.  A write that succeeds makes one of four changes: a
role is added, revised or removed, or a principal is stored.  Every call, also a
bootstrap that stops midway, makes a chain of such changes
(`changes_apply`), so that whatever each change keeps holds after every run of
calls from the empty directory (`run_induction`).
-/
import AccessControl.Administration
import AccessControl.Bootstrap
import AccessControl.Directory
import Mathlib.Data.List.Induction
import Mathlib.Logic.Relation

open Relation

namespace AccessControl.Directory

/-! ## Single changes -/

/-- One change of a directory, with what the writing call has checked before it. -/
inductive Change : Directory → Directory → Prop
  /-- A role whose identifier and name are new is added. -/
  | addRole {d : Directory} {role : Role} :
      d.roles.find? role.id = none → d.hasRoleName role.name = false →
      Change d { d with roles := d.roles.insert role.id role }
  /-- A stored role gets other rights. -/
  | reviseRole {d : Directory} {id : RoleId} {current : Role} (accessRights : AccessRights)
      (now : Instant) :
      d.roles.find? id = some current →
      Change d { d with roles := d.roles.insert id (current.revise accessRights now) }
  /-- A role that no principal has is removed. -/
  | removeRole {d : Directory} {id : RoleId} :
      d.isReferenced id = false → Change d { d with roles := d.roles.erase id }
  /-- A principal whose role exists and whose login is new is stored. -/
  | storePrincipal {d : Directory} {p : Principal} :
      d.roles.contains p.roleId = true → d.hasLogin p.login = false →
      Change d { d with principals := d.principals.insert p.id p }

variable {d d' : Directory}

theorem change_of_insertRole {role stored : Role} (h : d.insertRole role = .ok (stored, d')) :
    Change d d' := by
  obtain ⟨hid, hname, -, rfl⟩ := insertRole_eq_ok_iff.1 h
  exact .addRole hid hname

theorem change_of_updateRole {roleId : RoleId} {expected : ExpectedVersion}
    {accessRights : AccessRights} {now : Instant} {stored : Role}
    (h : d.updateRole roleId expected accessRights now = .ok (stored, d')) : Change d d' := by
  obtain ⟨current, hfind, -, rfl, rfl⟩ := updateRole_eq_ok_iff.1 h
  exact .reviseRole accessRights now hfind

theorem change_of_removeRole {roleId : RoleId} {removed : Role}
    (h : d.removeRole roleId = .ok (removed, d')) : Change d d' := by
  obtain ⟨-, hfree, rfl⟩ := removeRole_eq_ok_iff.1 h
  exact .removeRole hfree

theorem change_of_insertPrincipal {p : Principal} (h : d.insertPrincipal p = .ok d') :
    Change d d' := by
  obtain ⟨hrole, hlogin, rfl⟩ := insertPrincipal_eq_ok_iff.1 h
  exact .storePrincipal hrole hlogin

/-! ## Calls -/

/-- A call on a directory with all that it is given; the reads that take no actor are left out. -/
inductive Operation where
  | insertRole (role : Role)
  | updateRole (roleId : RoleId) (expected : ExpectedVersion) (accessRights : AccessRights)
      (now : Instant)
  | removeRole (roleId : RoleId)
  | insertPrincipal (principal : Principal)
  | bootstrap (document : PolicyDocument) (supply : Supply) (now : Instant)
  | createRole (actor : Role) (id : RoleId) (name : String) (accessRights : AccessRights)
      (now : Instant)
  | editRole (actor : Role) (roleId : RoleId) (expected : ExpectedVersion)
      (accessRights : AccessRights) (now : Instant)
  | deleteRole (actor : Role) (roleId : RoleId)
  | viewRole (actor : Role) (roleId : RoleId)
  | listRoles (actor : Role)

/-- The directory after a write: as it was, when the write fails. -/
def after (d : Directory) {α : Type} : Except AuthorizationError (α × Directory) → Directory
  | .ok (_, d') => d'
  | .error _ => d

/-- The directory after a call. -/
def apply (d : Directory) : Operation → Directory
  | .insertRole role => d.after (d.insertRole role)
  | .updateRole roleId expected accessRights now =>
    d.after (d.updateRole roleId expected accessRights now)
  | .removeRole roleId => d.after (d.removeRole roleId)
  | .insertPrincipal principal => d.after ((d.insertPrincipal principal).map fun d' => ((), d'))
  | .bootstrap document supply now => (AccessControl.bootstrap d document supply now).2
  | .createRole actor id name accessRights now =>
    d.after (Administration.createRole d actor id name accessRights now)
  | .editRole actor roleId expected accessRights now =>
    d.after (Administration.editRole d actor roleId expected accessRights now)
  | .deleteRole actor roleId => d.after (Administration.deleteRole d actor roleId)
  | .viewRole _ _ => d
  | .listRoles _ => d

/-- The directory after calls one after the other, from the empty one. -/
def run (operations : List Operation) : Directory := operations.foldl apply empty

theorem run_concat (operations : List Operation) (operation : Operation) :
    run (operations ++ [operation]) = (run operations).apply operation := by
  rw [run, List.foldl_append]
  rfl

/-- What holds of the directory as it was, and of whatever a write leaves, holds afterwards. -/
theorem after_induction {α : Type} {P : Directory → Prop}
    {result : Except AuthorizationError (α × Directory)} (hkept : P d)
    (hwritten : ∀ value d', result = .ok (value, d') → P d') : P (d.after result) := by
  cases result with
  | error error => exact hkept
  | ok written => exact hwritten written.1 written.2 rfl

/-! ## Role administration writes as the store does -/

theorem createRole_eq_ok_iff {actor stored : Role} {id : RoleId} {name : String}
    {accessRights : AccessRights} {now : Instant} :
    Administration.createRole d actor id name accessRights now = .ok (stored, d') ↔
      Administration.require actor .create = .ok () ∧
        ∃ role, Role.create id name accessRights now = .ok role ∧
          d.insertRole role = .ok (stored, d') := by
  unfold Administration.createRole
  cases Administration.require actor .create with
  | error error => simp [bind, Except.bind]
  | ok _ =>
    cases Role.create id name accessRights now with
    | error error => simp [bind, Except.bind]
    | ok role => simp [bind, Except.bind, RoleStore.insertRole]

theorem editRole_eq_ok_iff {actor stored : Role} {roleId : RoleId} {expected : ExpectedVersion}
    {accessRights : AccessRights} {now : Instant} :
    Administration.editRole d actor roleId expected accessRights now = .ok (stored, d') ↔
      Administration.require actor .edit = .ok () ∧
        d.updateRole roleId expected accessRights now = .ok (stored, d') := by
  unfold Administration.editRole
  cases Administration.require actor .edit <;> simp [bind, Except.bind, RoleStore.updateRole]

theorem deleteRole_eq_ok_iff {actor removed : Role} {roleId : RoleId} :
    Administration.deleteRole d actor roleId = .ok (removed, d') ↔
      Administration.require actor .delete = .ok () ∧
        d.removeRole roleId = .ok (removed, d') := by
  unfold Administration.deleteRole
  cases Administration.require actor .delete <;> simp [bind, Except.bind, RoleStore.removeRole]

/-! ## What every registration keeps -/

/-- What the registration of a role keeps, that of many roles keeps, however far it comes. -/
theorem insertRoles_induction {P : Directory → Prop}
    (hrole : ∀ d role stored d', P d → d.insertRole role = .ok (stored, d') → P d')
    (roles : List Role) (installed : Installation) (hd : P d) :
    P (Bootstrap.insertRoles roles installed d).2 := by
  induction roles generalizing installed d with
  | nil => exact hd
  | cons role rest ih =>
    rw [Bootstrap.insertRoles]
    cases hinsert : RoleStore.insertRole d role with
    -- the first failure is the end; what has been registered so far stays
    | error error => exact hd
    | ok written => exact ih _ (hrole d role written.1 written.2 hd hinsert)

/-- What the registration of a principal with one of the given identifiers keeps, that of all of
them keeps, however far it comes. -/
theorem insertPrincipals_induction {P : Directory → Prop}
    (declared : List (DeclaredPrincipal × PrincipalId))
    (hprincipal : ∀ d p d', p.id ∈ declared.map Prod.snd → P d →
      d.insertPrincipal p = .ok d' → P d')
    (installed : Installation) (hd : P d) :
    P (Bootstrap.insertPrincipals declared installed d).2 := by
  induction declared generalizing installed d with
  | nil => exact hd
  | cons place rest ih =>
    obtain ⟨p, id⟩ := place
    rw [Bootstrap.insertPrincipals]
    cases installed.roleId? p.role with
    | none => exact hd
    | some roleId =>
      dsimp only
      cases hinsert : RoleStore.insertPrincipal d ⟨id, p.login, roleId⟩ with
      | error error => exact hd
      | ok written =>
        refine ih (fun d q d' hmem => hprincipal d q d' (List.mem_cons_of_mem _ hmem)) _ ?_
        exact hprincipal d _ written List.mem_cons_self hd hinsert

/-- What every registration keeps, a bootstrap keeps, also when it stops midway. -/
theorem bootstrap_induction {P : Directory → Prop} (document : PolicyDocument) (supply : Supply)
    (now : Instant)
    (hrole : ∀ d role stored d', P d → d.insertRole role = .ok (stored, d') → P d')
    (hprincipal : ∀ d p d', (∃ place, supply.principalId place = p.id) → P d →
      d.insertPrincipal p = .ok d' → P d')
    (hd : P d) : P (bootstrap d document supply now).2 := by
  unfold bootstrap
  cases document.validate supply.roleId now with
  | error error => exact hd
  | ok roles =>
    have hroles := insertRoles_induction hrole roles ⟨[], []⟩ hd
    dsimp only
    cases hinsert : Bootstrap.insertRoles roles ⟨[], []⟩ d with
    | mk answer written =>
      rw [hinsert] at hroles
      cases answer with
      | error error => exact hroles
      | ok installed =>
        refine insertPrincipals_induction _ (fun d p d' hmem => hprincipal d p d' ?_) installed
          hroles
        rw [List.map_map, List.mem_map] at hmem
        obtain ⟨⟨declared, place⟩, -, hid⟩ := hmem
        exact ⟨place, hid⟩

theorem roles_of_insertPrincipal {p : Principal} (h : d.insertPrincipal p = .ok d') :
    d'.roles = d.roles := by
  obtain ⟨-, -, rfl⟩ := insertPrincipal_eq_ok_iff.1 h
  rfl

/-- Registering principals leaves the roles. -/
theorem roles_insertPrincipals (declared : List (DeclaredPrincipal × PrincipalId))
    (installed : Installation) (d : Directory) :
    (Bootstrap.insertPrincipals declared installed d).2.roles = d.roles :=
  insertPrincipals_induction (P := fun d' => d'.roles = d.roles) declared
    (fun _ _ _ _ hsame h => (roles_of_insertPrincipal h).trans hsame) installed rfl

/-! ## Every call makes a chain of changes -/

theorem changes_bootstrap (d : Directory) (document : PolicyDocument) (supply : Supply)
    (now : Instant) : ReflTransGen Change d (bootstrap d document supply now).2 :=
  bootstrap_induction document supply now
    (fun _ _ _ _ hchain h => hchain.tail (change_of_insertRole h))
    (fun _ _ _ _ hchain h => hchain.tail (change_of_insertPrincipal h)) .refl

/-- **Every call makes a chain of changes**, whether it succeeds, fails or stops midway. -/
theorem changes_apply (d : Directory) (operation : Operation) :
    ReflTransGen Change d (d.apply operation) := by
  cases operation with
  | insertRole role => exact after_induction .refl fun _ _ h => .single (change_of_insertRole h)
  | updateRole roleId expected accessRights now =>
    exact after_induction .refl fun _ _ h => .single (change_of_updateRole h)
  | removeRole roleId => exact after_induction .refl fun _ _ h => .single (change_of_removeRole h)
  | insertPrincipal p =>
    rw [apply]
    cases hinsert : d.insertPrincipal p with
    | error error => exact .refl
    | ok written => exact .single (change_of_insertPrincipal hinsert)
  | bootstrap document supply now => exact changes_bootstrap d document supply now
  | createRole actor id name accessRights now =>
    apply after_induction .refl
    intro stored d' h
    obtain ⟨-, role, -, hinsert⟩ := createRole_eq_ok_iff.1 h
    exact .single (change_of_insertRole hinsert)
  | editRole actor roleId expected accessRights now =>
    apply after_induction .refl
    intro stored d' h
    exact .single (change_of_updateRole (editRole_eq_ok_iff.1 h).2)
  | deleteRole actor roleId =>
    apply after_induction .refl
    intro removed d' h
    exact .single (change_of_removeRole (deleteRole_eq_ok_iff.1 h).2)
  | viewRole actor roleId => exact .refl
  | listRoles actor => exact .refl

/-- What every change keeps, a call keeps. -/
theorem apply_induction {P : Directory → Prop} (hchange : ∀ d d', Change d d' → P d → P d')
    {d : Directory} (hd : P d) (operation : Operation) : P (d.apply operation) := by
  have hchain := changes_apply d operation
  generalize d.apply operation = d' at hchain ⊢
  induction hchain with
  | refl => exact hd
  | tail _ hlast ih => exact hchange _ _ hlast ih

/-- What the empty directory has and every change keeps holds after every run of calls. -/
theorem run_induction {P : Directory → Prop} (hempty : P empty)
    (hchange : ∀ d d', Change d d' → P d → P d') (operations : List Operation) :
    P (run operations) := by
  induction operations using List.reverseRecOn with
  | nil => exact hempty
  | append_singleton operations operation ih =>
    rw [run_concat]
    exact apply_induction hchange ih operation

end AccessControl.Directory
