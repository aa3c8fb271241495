/-
# Permanence of principals

A principal that is registered stays registered: no call removes one.  What it is
registered as can change in one way only.  A registration is refused for a login
that is taken, not for an identifier that is, so that storing a principal with a
new login under an identifier in use binds the identifier to that login and to
its role.
-/
import AccessControl.Proofs.Directory.Changes

namespace AccessControl.Directory

variable {d d' : Directory}

/-! ## Principals stay registered -/

/-- No change takes the last principal from an identifier. -/
theorem Change.registered (h : Change d d') {id : PrincipalId}
    (hid : ∃ p, d.principals.find? id = some p) : ∃ p, d'.principals.find? id = some p := by
  cases h with
  | addRole _ _ => exact hid
  | reviseRole _ _ _ => exact hid
  | removeRole _ => exact hid
  | @storePrincipal p _ _ =>
    obtain ⟨old, hold⟩ := hid
    by_cases h : id = p.id
    · exact ⟨p, Table.find?_insert_eq_some_iff.2 (.inl ⟨h, rfl⟩)⟩
    · exact ⟨old, Table.find?_insert_eq_some_iff.2 (.inr ⟨h, hold⟩)⟩

/-- An identifier that is in use is in use after every call. -/
theorem registered_apply {id : PrincipalId} (hid : ∃ p, d.principals.find? id = some p)
    (operation : Operation) : ∃ p, (d.apply operation).principals.find? id = some p :=
  apply_induction (P := fun d => ∃ p, d.principals.find? id = some p)
    (fun _ _ h hid => h.registered hid) hid operation

/-! ## What each call does to the principals -/

theorem principals_of_insertRole {role stored : Role} (h : d.insertRole role = .ok (stored, d')) :
    d'.principals = d.principals := by
  obtain ⟨-, -, -, rfl⟩ := insertRole_eq_ok_iff.1 h
  rfl

theorem principals_of_updateRole {roleId : RoleId} {expected : ExpectedVersion}
    {accessRights : AccessRights} {now : Instant} {stored : Role}
    (h : d.updateRole roleId expected accessRights now = .ok (stored, d')) :
    d'.principals = d.principals := by
  obtain ⟨-, -, -, -, rfl⟩ := updateRole_eq_ok_iff.1 h
  rfl

theorem principals_of_removeRole {roleId : RoleId} {removed : Role}
    (h : d.removeRole roleId = .ok (removed, d')) : d'.principals = d.principals := by
  obtain ⟨-, -, rfl⟩ := removeRole_eq_ok_iff.1 h
  rfl

/-- Writes that leave the principals when they succeed leave them in any case. -/
theorem principals_after {α : Type} {result : Except AuthorizationError (α × Directory)}
    (h : ∀ value d', result = .ok (value, d') → d'.principals = d.principals) :
    (d.after result).principals = d.principals :=
  after_induction (P := fun d' => d'.principals = d.principals) rfl h

/-- A bootstrap leaves what stands under the identifiers that it is not supplied with. -/
theorem find?_bootstrap (d : Directory) (document : PolicyDocument) (supply : Supply)
    (now : Instant) {id : PrincipalId} (hid : ∀ place, supply.principalId place ≠ id) :
    (bootstrap d document supply now).2.principals.find? id = d.principals.find? id := by
  refine bootstrap_induction (P := fun d' => d'.principals.find? id = d.principals.find? id)
    document supply now (fun middle _ _ d' hsame h => ?_) (fun middle p d' hp hsame h => ?_) rfl
  · rw [principals_of_insertRole h, hsame]
  · obtain ⟨place, hplace⟩ := hp
    obtain ⟨-, -, rfl⟩ := insertPrincipal_eq_ok_iff.1 h
    rw [Table.find?_insert, if_neg fun heq => hid place (hplace.trans heq.symm), hsame]

/-! ## When a principal stays what it is -/

/-- The calls that store another principal under an identifier. -/
def Rebinds (d : Directory) (id : PrincipalId) : Operation → Prop
  | .insertPrincipal p =>
    p.id = id ∧ d.roles.contains p.roleId = true ∧ d.hasLogin p.login = false
  | _ => False

/-- The principals that a bootstrap registers get identifiers that are not in use. -/
def SuppliesNew (d : Directory) : Operation → Prop
  | .bootstrap _ supply _ => ∀ place, d.principals.find? (supply.principalId place) = none
  | _ => True

/-- A call that does not rebind an identifier in use leaves what stands under it. -/
theorem find?_apply_of_not_rebinds {id : PrincipalId} {x : Principal}
    (hx : d.principals.find? id = some x) {operation : Operation}
    (hnew : d.SuppliesNew operation) (hkeep : ¬ d.Rebinds id operation) :
    (d.apply operation).principals.find? id = some x := by
  cases operation with
  | insertRole role => rw [apply, principals_after fun _ _ h => principals_of_insertRole h, hx]
  | updateRole roleId expected accessRights now =>
    rw [apply, principals_after fun _ _ h => principals_of_updateRole h, hx]
  | removeRole roleId => rw [apply, principals_after fun _ _ h => principals_of_removeRole h, hx]
  | insertPrincipal p =>
    rw [apply]
    cases hinsert : d.insertPrincipal p with
    | error error => exact hx
    | ok written =>
      obtain ⟨hrole, hlogin, rfl⟩ := insertPrincipal_eq_ok_iff.1 hinsert
      have hne : id ≠ p.id := fun heq => hkeep ⟨heq.symm, hrole, hlogin⟩
      exact Table.find?_insert_eq_some_iff.2 (.inr ⟨hne, hx⟩)
  | bootstrap document supply now =>
    -- the identifier is in use, so the bootstrap is not supplied with it
    have hid : ∀ place, supply.principalId place ≠ id := by
      intro place heq
      have hnone := hnew place
      rw [heq, hx] at hnone
      cases hnone
    exact (find?_bootstrap d document supply now hid).trans hx
  | createRole actor id name accessRights now =>
    rw [apply, principals_after, hx]
    intro stored d' h
    obtain ⟨-, role, -, hinsert⟩ := createRole_eq_ok_iff.1 h
    exact principals_of_insertRole hinsert
  | editRole actor roleId expected accessRights now =>
    rw [apply, principals_after, hx]
    intro stored d' h
    exact principals_of_updateRole (editRole_eq_ok_iff.1 h).2
  | deleteRole actor roleId =>
    rw [apply, principals_after, hx]
    intro removed d' h
    exact principals_of_removeRole (deleteRole_eq_ok_iff.1 h).2
  | viewRole actor roleId => exact hx
  | listRoles actor => exact hx

/-- A registration that is accepted stores the principal that it is given. -/
theorem find?_apply_insertPrincipal {p : Principal} (hrole : d.roles.contains p.roleId = true)
    (hlogin : d.hasLogin p.login = false) :
    (d.apply (.insertPrincipal p)).principals.find? p.id = some p := by
  rw [apply, insertPrincipal_eq_ok_iff.2 ⟨hrole, hlogin, rfl⟩]
  exact Table.find?_insert_eq_some_iff.2 (.inl ⟨rfl, rfl⟩)

/-- A registration is refused for a clash exactly when its role exists and its login is taken. -/
theorem insertPrincipal_conflict_iff {p : Principal} :
    (∃ cause, d.insertPrincipal p = .error (.conflict cause)) ↔
      d.roles.contains p.roleId = true ∧ d.hasLogin p.login = true := by
  unfold insertPrincipal
  cases d.roles.contains p.roleId <;> cases d.hasLogin p.login <;> simp

/--
**When a registered principal stays what it is.**  A call changes what stands under an
identifier in use exactly when it is a registration under that identifier with a role
that exists and a login that is new; such a registration stores the newcomer.  A
registration under an identifier in use clashes, and leaves the directory, exactly
when its role exists and its login is taken.
-/
theorem resolvePrincipal_apply_iff {id : PrincipalId} {x : Principal}
    (hx : d.resolvePrincipal id = .ok x) :
    (∀ operation, d.SuppliesNew operation →
      ((d.apply operation).resolvePrincipal id = .ok x ↔ ¬ d.Rebinds id operation)) ∧
    ∀ p, p.id = id →
      (d.Rebinds id (.insertPrincipal p) →
        (d.apply (.insertPrincipal p)).resolvePrincipal id = .ok p ∧ p ≠ x) ∧
      (((∃ cause, d.insertPrincipal p = .error (.conflict cause)) ∧
          d.apply (.insertPrincipal p) = d) ↔
        d.roles.contains p.roleId = true ∧ d.hasLogin p.login = true) := by
  rw [resolvePrincipal_eq_ok_iff] at hx
  have hrebound : ∀ p, d.Rebinds id (.insertPrincipal p) →
      (d.apply (.insertPrincipal p)).resolvePrincipal id = .ok p ∧ p ≠ x := by
    rintro p ⟨rfl, hrole, hlogin⟩
    refine ⟨resolvePrincipal_eq_ok_iff.2 (find?_apply_insertPrincipal hrole hlogin), ?_⟩
    -- the login of the newcomer is new, while that of the old principal is taken
    rintro rfl
    exact login_ne_of_hasLogin_eq_false hlogin hx rfl
  refine ⟨?_, fun p hp => ⟨hrebound p, ?_⟩⟩
  · intro operation hnew
    constructor
    · intro hkept hrebinds
      cases operation with
      | insertPrincipal p =>
        obtain ⟨hstored, hne⟩ := hrebound p hrebinds
        rw [hstored] at hkept
        exact hne (Except.ok.inj hkept)
      | _ => exact hrebinds
    · intro hkeep
      rw [resolvePrincipal_eq_ok_iff]
      exact find?_apply_of_not_rebinds hx hnew hkeep
  · rw [insertPrincipal_conflict_iff.symm]
    constructor
    · rintro ⟨hclash, -⟩
      exact hclash
    · rintro ⟨cause, hclash⟩
      exact ⟨⟨cause, hclash⟩, by rw [apply, hclash]; rfl⟩

/-! ## A principal that is bound to another role -/

/-- A role without rights. -/
def normalRole : Role := ⟨⟨.ofNat 1⟩, "normal", .empty, .epoch, .epoch, 0, by decide⟩

/-- A role with all rights. -/
def adminRole : Role := ⟨⟨.ofNat 2⟩, "admin", .full, .epoch, .epoch, 0, by decide⟩

/-- A principal with the role without rights. -/
def vasya : Principal := ⟨⟨.ofNat 7⟩, "vasya", normalRole.id⟩

/-- A principal with the identifier of `vasya`, another login and the role with all rights. -/
def intruder : Principal := ⟨vasya.id, "intruder", adminRole.id⟩

/-- The directory in which `vasya` is registered with the role without rights. -/
def registered : Directory :=
  run [.insertRole normalRole, .insertRole adminRole, .insertPrincipal vasya]

/-- The law where `intruder` is registered under the identifier of `vasya`. -/
theorem resolvePrincipal_apply_registered :
    registered.resolvePrincipal vasya.id = .ok vasya ∧
      registered.Rebinds vasya.id (.insertPrincipal intruder) ∧
      ¬ (registered.apply (.insertPrincipal intruder)).resolvePrincipal vasya.id = .ok vasya := by
  have hx : registered.resolvePrincipal vasya.id = .ok vasya := rfl
  have hrebinds : registered.Rebinds vasya.id (.insertPrincipal intruder) :=
    ⟨rfl, by decide, by decide⟩
  have hlaw := (resolvePrincipal_apply_iff hx).1 (.insertPrincipal intruder) trivial
  exact ⟨hx, hrebinds, fun hkept => hlaw.1 hkept hrebinds⟩

/-- **A registered principal can be bound to another login and another role.** -/
theorem registered_principal_rebound :
    registered.resolvePrincipal vasya.id = .ok vasya ∧
      (registered.apply (.insertPrincipal intruder)).resolvePrincipal vasya.id = .ok intruder ∧
      intruder.login ≠ vasya.login ∧ intruder.roleId ≠ vasya.roleId :=
  ⟨rfl, rfl, by decide, by decide⟩

end AccessControl.Directory
