/-
# Consistency of a directory

In every directory that calls lead to from the empty one, roles and principals
stand under their own identifiers, no two roles share a name and no two
principals a login, every name holds more than blanks, and every principal has a
role that is stored.

No single write enforces all of this.  A revision checks no name and a removal
scans the principals only; each of them keeps the six parts because all six held
before it.
-/
import AccessControl.Proofs.Directory.Changes

namespace AccessControl.Directory

/-- What holds of a directory between any two calls. -/
structure Consistent (d : Directory) : Prop where
  /-- A role is stored under its own identifier. -/
  role_id : d.roles.KeyedBy Role.id
  /-- No two stored roles have the same name. -/
  role_name : d.roles.Distinct Role.name
  /-- The name of a stored role holds something other than blanks. -/
  role_named : ∀ id role, d.roles.find? id = some role →
    ∃ c ∈ role.name.toList, Text.isBlank c = false
  /-- A principal is stored under its own identifier. -/
  principal_id : d.principals.KeyedBy Principal.id
  /-- No two stored principals have the same login. -/
  principal_login : d.principals.Distinct Principal.login
  /-- The role of a stored principal is stored. -/
  principal_role : ∀ id p, d.principals.find? id = some p →
    ∃ role, d.roles.find? p.roleId = some role ∧ role.id = p.roleId

variable {d d' : Directory}

/-- The name of a role holds something other than blanks. -/
theorem exists_isBlank_eq_false (role : Role) :
    ∃ c ∈ role.name.toList, Text.isBlank c = false := by
  have hnamed := role.named
  unfold Text.IsBlank at hnamed
  push Not at hnamed
  obtain ⟨c, hmem, hc⟩ := hnamed
  exact ⟨c, hmem, by simpa using hc⟩

theorem consistent_empty : empty.Consistent where
  role_id := Table.keyedBy_empty _
  role_name := Table.distinct_empty _
  role_named := fun _ role _ => exists_isBlank_eq_false role
  principal_id := Table.keyedBy_empty _
  principal_login := Table.distinct_empty _
  principal_role := by
    intro id p hfind
    simp [empty] at hfind

/-! ## Each change keeps it -/

/-- Adding a role keeps a directory consistent, as its identifier and its name are new. -/
theorem Consistent.addRole (hd : d.Consistent) {role : Role}
    (hid : d.roles.find? role.id = none) (hname : d.hasRoleName role.name = false) :
    Consistent { d with roles := d.roles.insert role.id role } where
  role_id := hd.role_id.insert rfl
  role_name := by
    apply hd.role_name.insert
    intro i other hfind hsame
    exact absurd hsame (name_ne_of_hasRoleName_eq_false hname hfind)
  role_named := fun _ found _ => exists_isBlank_eq_false found
  principal_id := hd.principal_id
  principal_login := hd.principal_login
  principal_role := by
    intro id p hfind
    obtain ⟨found, hfound, hfoundId⟩ := hd.principal_role id p hfind
    refine ⟨found, Table.find?_insert_eq_some_iff.2 (.inr ⟨?_, hfound⟩), hfoundId⟩
    -- the added role is not the one that the principal has: nothing was stored under its id
    intro heq
    rw [heq, hid] at hfound
    cases hfound

/-- Revising a role keeps a directory consistent, as neither identifier nor name changes. -/
theorem Consistent.reviseRole (hd : d.Consistent) {id : RoleId} {current : Role}
    (accessRights : AccessRights) (now : Instant) (hcurrent : d.roles.find? id = some current) :
    Consistent { d with roles := d.roles.insert id (current.revise accessRights now) } where
  role_id := hd.role_id.insert (hd.role_id id current hcurrent)
  role_name := by
    apply hd.role_name.insert
    intro i other hfind hsame
    exact hd.role_name i id other current hfind hcurrent hsame
  role_named := fun _ found _ => exists_isBlank_eq_false found
  principal_id := hd.principal_id
  principal_login := hd.principal_login
  principal_role := by
    intro pid p hfind
    obtain ⟨found, hfound, hfoundId⟩ := hd.principal_role pid p hfind
    -- the role of a principal may be the revised one, which is stored under the same id
    by_cases h : p.roleId = id
    · refine ⟨current.revise accessRights now, ?_, ?_⟩
      · exact Table.find?_insert_eq_some_iff.2 (.inl ⟨h, rfl⟩)
      · rw [h]
        exact hd.role_id id current hcurrent
    · exact ⟨found, Table.find?_insert_eq_some_iff.2 (.inr ⟨h, hfound⟩), hfoundId⟩

/-- Removing a role keeps a directory consistent, as no principal has it. -/
theorem Consistent.removeRole (hd : d.Consistent) {id : RoleId}
    (hfree : d.isReferenced id = false) :
    Consistent { d with roles := d.roles.erase id } where
  role_id := hd.role_id.erase id
  role_name := hd.role_name.erase id
  role_named := fun _ found _ => exists_isBlank_eq_false found
  principal_id := hd.principal_id
  principal_login := hd.principal_login
  principal_role := by
    intro pid p hfind
    obtain ⟨found, hfound, hfoundId⟩ := hd.principal_role pid p hfind
    have hne := roleId_ne_of_isReferenced_eq_false hfree hfind
    exact ⟨found, Table.find?_erase_eq_some_iff.2 ⟨hne, hfound⟩, hfoundId⟩

/--
Storing a principal keeps a directory consistent, also in the place of another one:
its login is not that of any principal stored before.
-/
theorem Consistent.storePrincipal (hd : d.Consistent) {p : Principal}
    (hrole : d.roles.contains p.roleId = true) (hlogin : d.hasLogin p.login = false) :
    Consistent { d with principals := d.principals.insert p.id p } where
  role_id := hd.role_id
  role_name := hd.role_name
  role_named := hd.role_named
  principal_id := hd.principal_id.insert rfl
  principal_login := by
    apply hd.principal_login.insert
    intro i other hfind hsame
    exact absurd hsame (login_ne_of_hasLogin_eq_false hlogin hfind)
  principal_role := by
    intro id found hfind
    rcases Table.find?_insert_eq_some_iff.1 hfind with ⟨-, rfl⟩ | ⟨-, hold⟩
    · obtain ⟨role, hfound⟩ := Table.contains_eq_true_iff.1 hrole
      exact ⟨role, hfound, hd.role_id found.roleId role hfound⟩
    · exact hd.principal_role id found hold

theorem Consistent.change (hd : d.Consistent) (h : Change d d') : d'.Consistent := by
  cases h with
  | addRole hid hname => exact hd.addRole hid hname
  | reviseRole accessRights now hcurrent => exact hd.reviseRole accessRights now hcurrent
  | removeRole hfree => exact hd.removeRole hfree
  | storePrincipal hrole hlogin => exact hd.storePrincipal hrole hlogin

/-! ## Every run keeps it -/

/-- A call keeps a directory consistent, whatever it is given and however it ends. -/
theorem Consistent.apply (hd : d.Consistent) (operation : Operation) :
    (d.apply operation).Consistent :=
  apply_induction (fun _ _ h hd => hd.change h) hd operation

/-- **Every directory that calls lead to is consistent.** -/
theorem consistent_run (operations : List Operation) : (run operations).Consistent :=
  run_induction consistent_empty (fun _ _ h hd => hd.change h) operations

end AccessControl.Directory
