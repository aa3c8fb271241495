/-
# The directory

The store of roles and principals.  Names and logins are unique, a principal's
role exists, and a role that a principal has cannot be removed; each call checks
its part of this before it changes anything.
-/
import AccessControl.Store
import AccessControl.Table

namespace AccessControl

/-- Roles and principals by their identifiers. -/
structure Directory where
  roles : Table RoleId Role
  principals : Table PrincipalId Principal

namespace Directory

/-- The directory without roles and principals. -/
def empty : Directory := ⟨.empty, .empty⟩

/-- Whether some role has a given name. -/
def hasRoleName (d : Directory) (name : String) : Bool := d.roles.values.any fun r => r.name = name

/-- Whether some principal has a given login. -/
def hasLogin (d : Directory) (login : String) : Bool :=
  d.principals.values.any fun p => p.login = login

/-- Whether some principal has a given role. -/
def isReferenced (d : Directory) (roleId : RoleId) : Bool :=
  d.principals.values.any fun p => p.roleId = roleId

/-! ## Reading -/

/-- The role with an identifier. -/
def resolveRole (d : Directory) (roleId : RoleId) : Except AuthorizationError Role :=
  (d.roles.find? roleId).elim (.error (.roleNotFound roleId)) .ok

/-- The principal with an identifier. -/
def resolvePrincipal (d : Directory) (principalId : PrincipalId) :
    Except AuthorizationError Principal :=
  (d.principals.find? principalId).elim (.error (.unknownPrincipal principalId)) .ok

/-- The role with a name. -/
def findRole (d : Directory) (name : String) : Except AuthorizationError Role :=
  (d.roles.values.find? fun r => r.name = name).elim (.error (.unknownRoleName name)) .ok

/-- The roles in the order of their names. -/
def listRoles (d : Directory) : List Role :=
  d.roles.values.mergeSort fun a b => a.name ≤ b.name

/-! ## Writing -/

/-- Registers a role whose identifier and name are new. -/
def insertRole (d : Directory) (role : Role) : Except AuthorizationError (Role × Directory) :=
  if d.roles.contains role.id then .error (.conflict (.roleExists role.id))
  else if d.hasRoleName role.name then .error (.conflict (.roleNameTaken role.name))
  else .ok (role, { d with roles := d.roles.insert role.id role })

/-- Replaces the rights of a role whose version is the expected one. -/
def updateRole (d : Directory) (roleId : RoleId) (expected : ExpectedVersion)
    (accessRights : AccessRights) (now : Instant) :
    Except AuthorizationError (Role × Directory) :=
  match d.roles.find? roleId with
  | none => .error (.roleNotFound roleId)
  | some current =>
    match expected.check current.version with
    | .error error => .error error.toAuthorization
    | .ok () =>
      let next := current.revise accessRights now
      .ok (next, { d with roles := d.roles.insert roleId next })

/-- Removes a role that no principal has. -/
def removeRole (d : Directory) (roleId : RoleId) : Except AuthorizationError (Role × Directory) :=
  match d.roles.find? roleId with
  | none => .error (.roleNotFound roleId)
  | some role =>
    if d.isReferenced roleId then .error (.roleInUse roleId)
    else .ok (role, { d with roles := d.roles.erase roleId })

/--
Registers a principal whose role exists and whose login is new; it takes the
place of a principal with the same identifier.
-/
def insertPrincipal (d : Directory) (principal : Principal) : Except AuthorizationError Directory :=
  if !d.roles.contains principal.roleId then .error (.roleNotFound principal.roleId)
  else if d.hasLogin principal.login then .error (.conflict (.loginTaken principal.login))
  else .ok { d with principals := d.principals.insert principal.id principal }

instance : RoleStore Directory where
  resolveRole := resolveRole
  resolvePrincipal := resolvePrincipal
  insertRole := insertRole
  updateRole := updateRole
  removeRole := removeRole
  findRole := findRole
  listRoles d := .ok d.listRoles
  insertPrincipal := insertPrincipal

/-! ## What the calls find -/

variable {d d' : Directory}

theorem hasRoleName_eq_true_iff {name : String} :
    d.hasRoleName name = true ↔ ∃ id role, d.roles.find? id = some role ∧ role.name = name := by
  simp only [hasRoleName, List.any_eq_true, decide_eq_true_eq, Table.mem_values_iff]
  constructor
  · rintro ⟨role, ⟨id, hfind⟩, hname⟩
    exact ⟨id, role, hfind, hname⟩
  · rintro ⟨id, role, hfind, hname⟩
    exact ⟨role, ⟨id, hfind⟩, hname⟩

theorem hasLogin_eq_true_iff {login : String} :
    d.hasLogin login = true ↔ ∃ id p, d.principals.find? id = some p ∧ p.login = login := by
  simp only [hasLogin, List.any_eq_true, decide_eq_true_eq, Table.mem_values_iff]
  constructor
  · rintro ⟨p, ⟨id, hfind⟩, hlogin⟩
    exact ⟨id, p, hfind, hlogin⟩
  · rintro ⟨id, p, hfind, hlogin⟩
    exact ⟨p, ⟨id, hfind⟩, hlogin⟩

theorem isReferenced_eq_true_iff {roleId : RoleId} :
    d.isReferenced roleId = true ↔ ∃ id p, d.principals.find? id = some p ∧ p.roleId = roleId := by
  simp only [isReferenced, List.any_eq_true, decide_eq_true_eq, Table.mem_values_iff]
  constructor
  · rintro ⟨p, ⟨id, hfind⟩, hrole⟩
    exact ⟨id, p, hfind, hrole⟩
  · rintro ⟨id, p, hfind, hrole⟩
    exact ⟨p, ⟨id, hfind⟩, hrole⟩

/-- No stored role has a name that is not taken. -/
theorem name_ne_of_hasRoleName_eq_false {name : String} (h : d.hasRoleName name = false)
    {id : RoleId} {role : Role} (hfind : d.roles.find? id = some role) : role.name ≠ name := by
  intro hname
  have htaken := hasRoleName_eq_true_iff.2 ⟨id, role, hfind, hname⟩
  simp [h] at htaken

/-- No stored principal has a login that is not taken. -/
theorem login_ne_of_hasLogin_eq_false {login : String} (h : d.hasLogin login = false)
    {id : PrincipalId} {p : Principal} (hfind : d.principals.find? id = some p) :
    p.login ≠ login := by
  intro hlogin
  have htaken := hasLogin_eq_true_iff.2 ⟨id, p, hfind, hlogin⟩
  simp [h] at htaken

/-- No stored principal has a role that is not referenced. -/
theorem roleId_ne_of_isReferenced_eq_false {roleId : RoleId} (h : d.isReferenced roleId = false)
    {id : PrincipalId} {p : Principal} (hfind : d.principals.find? id = some p) :
    p.roleId ≠ roleId := by
  intro hrole
  have hused := isReferenced_eq_true_iff.2 ⟨id, p, hfind, hrole⟩
  simp [h] at hused

/-- A role is resolved exactly when it is stored under the identifier. -/
theorem resolveRole_eq_ok_iff {id : RoleId} {role : Role} :
    d.resolveRole id = .ok role ↔ d.roles.find? id = some role := elim_eq_ok_iff

/-- A principal is resolved exactly when it is stored under the identifier. -/
theorem resolvePrincipal_eq_ok_iff {id : PrincipalId} {p : Principal} :
    d.resolvePrincipal id = .ok p ↔ d.principals.find? id = some p := elim_eq_ok_iff

/-! ## When a write succeeds, and what it leaves -/

/-- A role is registered when its identifier and its name are new. -/
theorem insertRole_eq_ok_iff {role stored : Role} :
    d.insertRole role = .ok (stored, d') ↔
      d.roles.find? role.id = none ∧ d.hasRoleName role.name = false ∧
        stored = role ∧ d' = { d with roles := d.roles.insert role.id role } := by
  unfold insertRole
  rw [← Table.contains_eq_false_iff]
  cases d.roles.contains role.id <;> cases d.hasRoleName role.name <;> simp [eq_comm]

/-- A role is revised when it is stored at an expected version. -/
theorem updateRole_eq_ok_iff {roleId : RoleId} {expected : ExpectedVersion}
    {accessRights : AccessRights} {now : Instant} {stored : Role} :
    d.updateRole roleId expected accessRights now = .ok (stored, d') ↔
      ∃ current, d.roles.find? roleId = some current ∧ expected.accepts current.version = true ∧
        stored = current.revise accessRights now ∧
        d' = { d with roles := d.roles.insert roleId stored } := by
  unfold updateRole
  cases hfind : d.roles.find? roleId with
  | none => simp
  | some current =>
    dsimp only
    cases hcheck : expected.check current.version with
    | error error =>
      have hno : ¬ expected.accepts current.version = true := by
        rw [← ExpectedVersion.check_eq_ok_iff, hcheck]
        simp
      simp [hno]
    | ok _ =>
      have hyes := ExpectedVersion.check_eq_ok_iff.1 hcheck
      simp only [Except.ok.injEq, Prod.mk.injEq, Option.some.injEq, exists_eq_left', hyes,
        true_and]
      constructor
      · rintro ⟨rfl, rfl⟩
        exact ⟨rfl, rfl⟩
      · rintro ⟨rfl, rfl⟩
        exact ⟨rfl, rfl⟩

/-- After an update the role is the one that was given as the answer, with the new rights. -/
theorem resolveRole_of_updateRole {roleId : RoleId} {expected : ExpectedVersion}
    {accessRights : AccessRights} {now : Instant} {stored : Role}
    (h : d.updateRole roleId expected accessRights now = .ok (stored, d')) :
    d'.resolveRole roleId = .ok stored ∧ stored.accessRights = accessRights := by
  obtain ⟨current, -, -, rfl, rfl⟩ := updateRole_eq_ok_iff.1 h
  exact ⟨resolveRole_eq_ok_iff.2 (Table.find?_insert_eq_some_iff.2 (.inl ⟨rfl, rfl⟩)), rfl⟩

/-- A role is removed when it is stored and no principal has it. -/
theorem removeRole_eq_ok_iff {roleId : RoleId} {removed : Role} :
    d.removeRole roleId = .ok (removed, d') ↔
      d.roles.find? roleId = some removed ∧ d.isReferenced roleId = false ∧
        d' = { d with roles := d.roles.erase roleId } := by
  unfold removeRole
  cases d.roles.find? roleId with
  | none => simp
  | some role => cases d.isReferenced roleId <;> simp [eq_comm]

/-- A principal is registered when its role is stored and its login is new. -/
theorem insertPrincipal_eq_ok_iff {p : Principal} :
    d.insertPrincipal p = .ok d' ↔
      d.roles.contains p.roleId = true ∧ d.hasLogin p.login = false ∧
        d' = { d with principals := d.principals.insert p.id p } := by
  unfold insertPrincipal
  cases d.roles.contains p.roleId <;> cases d.hasLogin p.login <;> simp [eq_comm]

end Directory

end AccessControl
