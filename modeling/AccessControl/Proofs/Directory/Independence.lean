/-
# Edits of one role leave the rest alone

An edit of a role changes its rights, its version and the time of the edit.  No other
call asks about these unless it is about the role: a registration asks for identifiers,
names and logins, a removal for the principals that have the role.  Two directories
that differ only in what an edit can change therefore answer alike to every call that
is not about the role, and such a call leaves the role, so that the edit is answered
alike before it and after it.
-/
import AccessControl.Proofs.Directory.Growth
import AccessControl.Proofs.Directory.Order

namespace AccessControl

/-- Tables that look up the same have the same entries. -/
theorem Table.perm_of_find?_eq {κ α : Type} [DecidableEq κ] {s t : Table κ α}
    (h : ∀ key, s.find? key = t.find? key) : s.entries.Perm t.entries := by
  refine (List.perm_ext_iff_of_nodup (.of_map _ s.nodup) (.of_map _ t.nodup)).2 ?_
  rintro ⟨key, value⟩
  rw [Table.mem_entries_iff, Table.mem_entries_iff, h]

namespace Directory

open RoleStore (perform performAll afterWrite)

variable {d e : Directory} {id : RoleId}

/-- Directories that hold the same have the same entries, maybe in another order. -/
theorem SameAs.reordered (h : d.SameAs e) : d.Reordered e :=
  ⟨Table.perm_of_find?_eq fun id => (h.1 id).symm, Table.perm_of_find?_eq fun id => (h.2 id).symm⟩

/-! ## What an edit of a role cannot change -/

/-- Two directories that differ in one role at most, and not in its name. -/
structure AgreeBut (id : RoleId) (d e : Directory) : Prop where
  /-- Every other role is the same. -/
  roles : ∀ other, other ≠ id → e.roles.find? other = d.roles.find? other
  /-- The role is stored under one name in both, or in neither. -/
  name : (e.roles.find? id).map Role.name = (d.roles.find? id).map Role.name
  principals : e.principals = d.principals

namespace AgreeBut

theorem refl (id : RoleId) (d : Directory) : AgreeBut id d d := ⟨fun _ _ => rfl, rfl, rfl⟩

theorem names (h : AgreeBut id d e) (other : RoleId) :
    (e.roles.find? other).map Role.name = (d.roles.find? other).map Role.name := by
  by_cases hother : other = id
  · rw [hother, h.name]
  · rw [h.roles other hother]

/-- The same identifiers are in use. -/
theorem contains (h : AgreeBut id d e) (other : RoleId) :
    e.roles.contains other = d.roles.contains other := by
  have hnames := congrArg Option.isSome (h.names other)
  rwa [Option.isSome_map, Option.isSome_map] at hnames

/-- The same names are taken. -/
theorem hasRoleName (h : AgreeBut id d e) (name : String) :
    e.hasRoleName name = d.hasRoleName name := by
  rw [Bool.eq_iff_iff, hasRoleName_eq_true_iff, hasRoleName_eq_true_iff]
  simp only [← Option.map_eq_some_iff, h.names]

theorem hasLogin (h : AgreeBut id d e) (login : String) : e.hasLogin login = d.hasLogin login := by
  rw [Directory.hasLogin, h.principals, Directory.hasLogin]

theorem isReferenced (h : AgreeBut id d e) (roleId : RoleId) :
    e.isReferenced roleId = d.isReferenced roleId := by
  rw [Directory.isReferenced, h.principals, Directory.isReferenced]

/-! ## Storing in both what is not the role -/

theorem storeRole (h : AgreeBut id d e) {other : RoleId} (hne : other ≠ id) (role : Role) :
    AgreeBut id { d with roles := d.roles.insert other role }
      { e with roles := e.roles.insert other role } where
  roles key hkey := by rw [Table.find?_insert, Table.find?_insert, h.roles key hkey]
  name := by rw [Table.find?_insert, Table.find?_insert, if_neg hne.symm, if_neg hne.symm, h.name]
  principals := h.principals

theorem dropRole (h : AgreeBut id d e) {other : RoleId} (hne : other ≠ id) :
    AgreeBut id { d with roles := d.roles.erase other }
      { e with roles := e.roles.erase other } where
  roles key hkey := by rw [Table.find?_erase, Table.find?_erase, h.roles key hkey]
  name := by rw [Table.find?_erase, Table.find?_erase, if_neg hne.symm, if_neg hne.symm, h.name]
  principals := h.principals

theorem storePrincipal (h : AgreeBut id d e) (p : Principal) :
    AgreeBut id { d with principals := d.principals.insert p.id p }
      { e with principals := e.principals.insert p.id p } where
  roles := h.roles
  name := h.name
  principals := congrArg (fun principals => principals.insert p.id p) h.principals

end AgreeBut

/-! ## Calls that are not about the role -/

/--
A call that is not about a role: it neither reads nor writes it.  A search by name and
the list of roles may show every role, so they are about each of them.
-/
def Spares (id : RoleId) : RoleStore.Call → Prop
  | .resolveRole roleId => roleId ≠ id
  | .resolvePrincipal _ => True
  | .findRole _ => False
  | .listRoles => False
  | .insertRole role => role.id ≠ id
  | .updateRole roleId _ _ _ => roleId ≠ id
  | .removeRole roleId => roleId ≠ id
  | .insertPrincipal _ => True

/-- Two results of a write: the same error, or the same value and directories that agree. -/
inductive ResultsAgree (id : RoleId) {α : Type} :
    Except AuthorizationError (α × Directory) → Except AuthorizationError (α × Directory) → Prop
  | error (error : AuthorizationError) : ResultsAgree id (.error error) (.error error)
  | ok (value : α) {d e : Directory} (h : AgreeBut id d e) :
    ResultsAgree id (.ok (value, d)) (.ok (value, e))

namespace AgreeBut

theorem insertRole (h : AgreeBut id d e) {role : Role} (hne : role.id ≠ id) :
    ResultsAgree id (d.insertRole role) (e.insertRole role) := by
  unfold Directory.insertRole
  rw [h.contains, h.hasRoleName]
  split
  · exact .error _
  · split
    · exact .error _
    · exact .ok role (h.storeRole hne role)

theorem updateRole (h : AgreeBut id d e) {roleId : RoleId} (hne : roleId ≠ id)
    (expected : ExpectedVersion) (accessRights : AccessRights) (now : Instant) :
    ResultsAgree id (d.updateRole roleId expected accessRights now)
      (e.updateRole roleId expected accessRights now) := by
  unfold Directory.updateRole
  rw [h.roles roleId hne]
  cases d.roles.find? roleId with
  | none => exact .error _
  | some current =>
    dsimp only
    cases expected.check current.version with
    | error error => exact .error _
    | ok _ => exact .ok _ (h.storeRole hne _)

theorem removeRole (h : AgreeBut id d e) {roleId : RoleId} (hne : roleId ≠ id) :
    ResultsAgree id (d.removeRole roleId) (e.removeRole roleId) := by
  unfold Directory.removeRole
  rw [h.roles roleId hne, h.isReferenced]
  cases d.roles.find? roleId with
  | none => exact .error _
  | some role =>
    dsimp only
    split
    · exact .error _
    · exact .ok role (h.dropRole hne)

theorem insertPrincipal (h : AgreeBut id d e) (p : Principal) :
    ResultsAgree id ((d.insertPrincipal p).map fun d => ((), d))
      ((e.insertPrincipal p).map fun e => ((), e)) := by
  unfold Directory.insertPrincipal
  rw [h.contains, h.hasLogin]
  split
  · exact .error _
  · split
    · exact .error _
    · exact .ok () (h.storePrincipal p)

end AgreeBut

theorem ResultsAgree.afterWrite {α : Type} {x y : Except AuthorizationError (α × Directory)}
    (hresult : ResultsAgree id x y) (h : AgreeBut id d e) (answer : α → RoleStore.Answer) :
    (RoleStore.afterWrite e answer y).1 = (RoleStore.afterWrite d answer x).1 ∧
      AgreeBut id (RoleStore.afterWrite d answer x).2 (RoleStore.afterWrite e answer y).2 := by
  cases hresult with
  | error error => exact ⟨rfl, h⟩
  | ok value hafter => exact ⟨rfl, hafter⟩

theorem AgreeBut.afterRead {α : Type} {x y : Except AuthorizationError α} (h : AgreeBut id d e)
    (hresult : y = x) (answer : α → RoleStore.Answer) :
    (RoleStore.afterRead e answer y).1 = (RoleStore.afterRead d answer x).1 ∧
      AgreeBut id (RoleStore.afterRead d answer x).2 (RoleStore.afterRead e answer y).2 :=
  ⟨congrArg (Except.map answer) hresult, h⟩

/-- Directories that differ in one role at most answer alike to a call that is not about it. -/
theorem AgreeBut.perform (h : AgreeBut id d e) {call : RoleStore.Call} (hcall : Spares id call) :
    (RoleStore.perform e call).1 = (RoleStore.perform d call).1 ∧
      AgreeBut id (RoleStore.perform d call).2 (RoleStore.perform e call).2 := by
  cases call with
  | resolveRole roleId =>
    refine h.afterRead ?_ _
    show e.resolveRole roleId = d.resolveRole roleId
    rw [Directory.resolveRole, h.roles roleId hcall, Directory.resolveRole]
  | resolvePrincipal principalId =>
    refine h.afterRead ?_ _
    show e.resolvePrincipal principalId = d.resolvePrincipal principalId
    rw [Directory.resolvePrincipal, h.principals, Directory.resolvePrincipal]
  | findRole name => exact hcall.elim
  | listRoles => exact hcall.elim
  | insertRole role => exact (h.insertRole hcall).afterWrite h _
  | updateRole roleId expected accessRights now =>
    exact (h.updateRole hcall expected accessRights now).afterWrite h _
  | removeRole roleId => exact (h.removeRole hcall).afterWrite h _
  | insertPrincipal principal => exact (h.insertPrincipal principal).afterWrite h _

/-- A write that leaves what stands under an identifier when it succeeds leaves it in any case. -/
theorem find?_afterWrite {α : Type} {answer : α → RoleStore.Answer}
    {result : Except AuthorizationError (α × Directory)}
    (h : ∀ value d', result = .ok (value, d') → d'.roles.find? id = d.roles.find? id) :
    (afterWrite d answer result).2.roles.find? id = d.roles.find? id :=
  afterWrite_induction (P := fun d' => d'.roles.find? id = d.roles.find? id) rfl h

/-- A call that is not about a role leaves it, or its absence. -/
theorem find?_perform_of_spares {call : RoleStore.Call} (hcall : Spares id call) :
    (perform d call).2.roles.find? id = d.roles.find? id := by
  cases call with
  | insertRole role =>
    apply find?_afterWrite
    intro stored d' h
    obtain ⟨-, -, -, rfl⟩ := insertRole_eq_ok_iff.1 h
    exact (Table.find?_insert _ _ _ _).trans (if_neg (Ne.symm hcall))
  | updateRole roleId expected accessRights now =>
    apply find?_afterWrite
    intro stored d' h
    obtain ⟨-, -, -, -, rfl⟩ := updateRole_eq_ok_iff.1 h
    exact (Table.find?_insert _ _ _ _).trans (if_neg (Ne.symm hcall))
  | removeRole roleId =>
    apply find?_afterWrite
    intro removed d' h
    obtain ⟨-, -, rfl⟩ := removeRole_eq_ok_iff.1 h
    exact (Table.find?_erase _ _ _).trans (if_neg (Ne.symm hcall))
  | insertPrincipal principal =>
    apply find?_afterWrite
    intro _ d' h
    cases hinsert : d.insertPrincipal principal with
    | error error =>
      rw [show RoleStore.insertPrincipal d principal = .error error from hinsert] at h
      cases h
    | ok written =>
      rw [show RoleStore.insertPrincipal d principal = .ok written from hinsert] at h
      cases h
      rw [roles_of_insertPrincipal hinsert]
  -- the other calls only read
  | _ => rfl

/-! ## The edit -/

/-- An edit leaves a directory that agrees with the one before but for the role. -/
theorem agreeBut_edit (d : Directory) (id : RoleId) (expected : ExpectedVersion)
    (accessRights : AccessRights) (now : Instant) :
    AgreeBut id d (perform d (.updateRole id expected accessRights now)).2 := by
  apply afterWrite_induction (.refl id d)
  intro stored d' h
  obtain ⟨current, hfind, -, rfl, rfl⟩ := updateRole_eq_ok_iff.1 h
  refine ⟨fun other hne => ?_, ?_, rfl⟩
  · rw [Table.find?_insert, if_neg hne]
  · rw [Table.find?_insert, if_pos rfl, hfind]
    rfl

/-- An edit looks at its role only: where the role is the same, the edit is answered alike and
leaves the same role. -/
theorem perform_edit_of_find?_eq (h : e.roles.find? id = d.roles.find? id)
    (expected : ExpectedVersion) (accessRights : AccessRights) (now : Instant) :
    (perform e (.updateRole id expected accessRights now)).1
        = (perform d (.updateRole id expected accessRights now)).1 ∧
      (perform e (.updateRole id expected accessRights now)).2.roles.find? id
        = (perform d (.updateRole id expected accessRights now)).2.roles.find? id := by
  simp only [perform, RoleStore.updateRole, updateRole, h]
  cases d.roles.find? id with
  | none => exact ⟨rfl, h⟩
  | some current =>
    dsimp only
    cases expected.check current.version with
    | error error => exact ⟨rfl, h⟩
    | ok _ =>
      refine ⟨rfl, ?_⟩
      show (e.roles.insert id _).find? id = (d.roles.insert id _).find? id
      rw [Table.find?_insert, Table.find?_insert, if_pos rfl, if_pos rfl]

/--
**Edits of one role commute with everything that is not about that role.**  In a
directory that calls lead to, an edit of a role and a call that is not about the role are
answered the same in both orders, errors included, and lead to the same roles and
principals, so that no calls afterwards tell the two orders apart.
-/
theorem edit_commutes (operations : List Operation) (id : RoleId) (expected : ExpectedVersion)
    (accessRights : AccessRights) (now : Instant) (call : RoleStore.Call)
    (hcall : Spares id call) :
    let d := run operations
    let edit := .updateRole id expected accessRights now
    let editFirst := perform (perform d edit).2 call
    let editLast := perform (perform d call).2 edit
    editLast.1 = (perform d edit).1 ∧ editFirst.1 = (perform d call).1 ∧
      editFirst.2.SameAs editLast.2 ∧
      ∀ calls, (performAll editFirst.2 calls).1 = (performAll editLast.2 calls).1 := by
  intro d edit editFirst editLast
  have hedited : AgreeBut id d (perform d edit).2 := agreeBut_edit d id expected accessRights now
  obtain ⟨hfirst, hagree⟩ := hedited.perform hcall
  have hlast : AgreeBut id (perform d call).2 editLast.2 :=
    agreeBut_edit (perform d call).2 id expected accessRights now
  obtain ⟨hanswer, hrole⟩ : editLast.1 = (perform d edit).1 ∧
      editLast.2.roles.find? id = (perform d edit).2.roles.find? id :=
    perform_edit_of_find?_eq (find?_perform_of_spares hcall) expected accessRights now
  have hsame : editFirst.2.SameAs editLast.2 := by
    refine ⟨fun other => ?_, fun other => ?_⟩
    · by_cases hother : other = id
      · -- the edit has come to the same, and the other call has left what it came to
        rw [hother, hrole]
        exact (find?_perform_of_spares hcall).symm
      · rw [hlast.roles other hother, hagree.roles other hother]
    · rw [hlast.principals, hagree.principals]
  have hconsistent : editFirst.2.Consistent :=
    ((consistent_run operations).perform edit).perform call
  exact ⟨hanswer, hfirst, hsame, fun calls => (hsame.reordered.performAll hconsistent calls).1⟩

/-- The law for edits of two roles that are accepted in both orders: the entries come to stand
in another order. -/
theorem edit_commutes_registered :
    let edit := .updateRole normalRole.id (.exactly 0) .full .epoch
    let call := .updateRole adminRole.id (.exactly 0) .empty .epoch
    let editFirst := perform (perform registered edit).2 call
    let editLast := perform (perform registered call).2 edit
    Spares normalRole.id call ∧
      (perform registered edit).1 = .ok (.role (normalRole.revise .full .epoch)) ∧
      editLast.1 = (perform registered edit).1 ∧
      editFirst.2.roles.entries ≠ editLast.2.roles.entries ∧
      editFirst.2.SameAs editLast.2 := by
  intro edit call editFirst editLast
  have hcall : Spares normalRole.id call := by
    show adminRole.id ≠ normalRole.id
    decide
  obtain ⟨hanswer, -, hsame, -⟩ := edit_commutes
    [.insertRole normalRole, .insertRole adminRole, .insertPrincipal vasya] normalRole.id
    (.exactly 0) .full .epoch call hcall
  exact ⟨hcall, rfl, hanswer, by decide, hsame⟩

end Directory

end AccessControl
