/-
# The order of entries is never seen

A table keeps its entries in an order without meaning, and three of the calls of a
directory go through them all: one looks for a role by its name, one lists the roles and
the tests for a taken name, a taken login and a role in use stop at the first hit.  None
of them lets the order be seen.  The tests only ask whether there is a hit, and a name
belongs to one role at most in every directory that calls lead to, so that the search has
one hit and the list has no ties.
-/
import AccessControl.Proofs.Directory.Calls
import AccessControl.Proofs.Directory.Permanence
import AccessControl.Proofs.Text.Bytes
import Mathlib.Data.List.Nodup

namespace AccessControl

/-! ## Tables in another order -/

namespace Table

variable {κ α β : Type} {s t : Table κ α}

/-- Values that differ in a trait have their traits once each. -/
theorem Distinct.nodup_map_values [DecidableEq κ] {trait : α → β} (ht : t.Distinct trait) :
    (t.values.map trait).Nodup := by
  have hkeys := List.pairwise_map.1 t.nodup
  rw [values, List.map_map, List.Nodup, List.pairwise_map]
  refine hkeys.imp_of_mem ?_
  rintro ⟨i, a⟩ ⟨j, b⟩ ha hb hne hsame
  exact hne (ht i j a b (mem_entries_iff.1 ha) (mem_entries_iff.1 hb) hsame)

theorem values_perm (h : s.entries.Perm t.entries) : s.values.Perm t.values := h.map Prod.snd

theorem erase_perm [DecidableEq κ] (h : s.entries.Perm t.entries) (key : κ) :
    (s.erase key).entries.Perm (t.erase key).entries := h.filter _

theorem insert_perm [DecidableEq κ] (h : s.entries.Perm t.entries) (key : κ) (value : α) :
    (s.insert key value).entries.Perm (t.insert key value).entries := (erase_perm h key).cons _

theorem contains_eq_of_perm [DecidableEq κ] (h : s.entries.Perm t.entries) (key : κ) :
    s.contains key = t.contains key := by
  rw [contains, contains, find?_eq_of_perm h]

/-- Traits that differ in one order differ in every other. -/
theorem Distinct.of_perm [DecidableEq κ] {trait : α → β} (hs : s.Distinct trait)
    (h : s.entries.Perm t.entries) : t.Distinct trait := by
  intro i j a b hi hj
  rw [← find?_eq_of_perm h] at hi hj
  exact hs i j a b hi hj

end Table

namespace Directory

/-- Two directories have the same entries, maybe in another order. -/
structure Reordered (d e : Directory) : Prop where
  roles : d.roles.entries.Perm e.roles.entries
  principals : d.principals.entries.Perm e.principals.entries

variable {d e : Directory}

/-! ## Finding and listing roles -/

/-- A role that is found by a name is stored and has the name. -/
theorem mem_of_findRole {name : String} {role : Role} (h : d.findRole name = .ok role) :
    role ∈ d.roles.values ∧ role.name = name := by
  have hfind := elim_eq_ok_iff.1 h
  exact ⟨List.mem_of_find?_eq_some hfind, by simpa using List.find?_some hfind⟩

/-- A search by name fails exactly when no role has the name, and then for the name. -/
theorem findRole_eq_error_iff {name : String} {error : AuthorizationError} :
    d.findRole name = .error error ↔
      (∀ role ∈ d.roles.values, role.name ≠ name) ∧ error = .unknownRoleName name := by
  rw [findRole, elim_eq_error_iff, List.find?_eq_none]
  simp

/-- Where no two roles share a name, a search by name finds the role that has it. -/
theorem findRole_eq_ok_iff (hd : d.roles.Distinct Role.name) {name : String} {role : Role} :
    d.findRole name = .ok role ↔ role ∈ d.roles.values ∧ role.name = name := by
  refine ⟨mem_of_findRole, fun ⟨hmem, hname⟩ => ?_⟩
  cases hfind : d.findRole name with
  | error error => exact absurd hname ((findRole_eq_error_iff.1 hfind).1 role hmem)
  | ok found =>
    obtain ⟨hfound, hsame⟩ := mem_of_findRole hfind
    have hinj := List.inj_on_of_nodup_map hd.nodup_map_values
    rw [hinj hfound hmem (hsame.trans hname.symm)]

theorem listRoles_perm (d : Directory) : d.listRoles.Perm d.roles.values :=
  List.mergeSort_perm _ _

/-- Where no two roles share a name, the list of roles increases strictly in their names. -/
theorem listRoles_pairwise (hd : d.roles.Distinct Role.name) :
    d.listRoles.Pairwise fun a b => a.name < b.name := by
  have hle : d.listRoles.Pairwise fun a b => a.name ≤ b.name := by
    refine (List.pairwise_mergeSort ?_ ?_ d.roles.values).imp of_decide_eq_true
    · intro a b c hab hbc
      rw [decide_eq_true_eq] at hab hbc ⊢
      exact String.le_trans hab hbc
    · intro a b
      rw [Bool.or_eq_true, decide_eq_true_eq, decide_eq_true_eq]
      exact String.le_total a.name b.name
  have hne : d.listRoles.Pairwise fun a b => a.name ≠ b.name :=
    List.pairwise_map.1 (((listRoles_perm d).map Role.name).nodup_iff.2 hd.nodup_map_values)
  exact hle.imp₂ (fun _ _ hle hne => Std.lt_of_le_of_ne hle hne) hne

/-! ## Calls on directories in another order -/

namespace Reordered

theorem find?_roles (h : d.Reordered e) (id : RoleId) :
    d.roles.find? id = e.roles.find? id := Table.find?_eq_of_perm h.roles id

theorem find?_principals (h : d.Reordered e) (id : PrincipalId) :
    d.principals.find? id = e.principals.find? id := Table.find?_eq_of_perm h.principals id

theorem hasRoleName (h : d.Reordered e) (name : String) :
    d.hasRoleName name = e.hasRoleName name := (Table.values_perm h.roles).any_eq

theorem hasLogin (h : d.Reordered e) (login : String) :
    d.hasLogin login = e.hasLogin login := (Table.values_perm h.principals).any_eq

theorem isReferenced (h : d.Reordered e) (roleId : RoleId) :
    d.isReferenced roleId = e.isReferenced roleId := (Table.values_perm h.principals).any_eq

/-- A name belongs to one role at most, so it does not matter which one is met first. -/
theorem findRole (h : d.Reordered e) (hd : d.roles.Distinct Role.name) (name : String) :
    d.findRole name = e.findRole name := by
  have hperm := Table.values_perm h.roles
  cases hfind : d.findRole name with
  | error error =>
    rw [findRole_eq_error_iff] at hfind
    exact (findRole_eq_error_iff.2 ⟨fun role hmem => hfind.1 role (hperm.mem_iff.2 hmem),
      hfind.2⟩).symm
  | ok role =>
    rw [findRole_eq_ok_iff hd, hperm.mem_iff] at hfind
    exact ((findRole_eq_ok_iff (hd.of_perm h.roles)).2 hfind).symm

/-- Sorting by names leaves one order only, as no two of them are equal. -/
theorem listRoles (h : d.Reordered e) (hd : d.roles.Distinct Role.name) :
    d.listRoles = e.listRoles := by
  have hperm : d.listRoles.Perm e.listRoles :=
    (listRoles_perm d).trans ((Table.values_perm h.roles).trans (listRoles_perm e).symm)
  exact hperm.eq_of_pairwise (fun a b _ _ hab hba => absurd hab (String.lt_asymm hba))
    (listRoles_pairwise hd) (listRoles_pairwise (hd.of_perm h.roles))

end Reordered

/-- Two results of a write: the same error, or the same value and the same entries. -/
inductive SameResult {α : Type} :
    Except AuthorizationError (α × Directory) → Except AuthorizationError (α × Directory) → Prop
  | error (error : AuthorizationError) : SameResult (.error error) (.error error)
  | ok (value : α) {d e : Directory} (h : d.Reordered e) :
    SameResult (.ok (value, d)) (.ok (value, e))

namespace Reordered

theorem insertRole (h : d.Reordered e) (role : Role) :
    SameResult (d.insertRole role) (e.insertRole role) := by
  unfold Directory.insertRole
  rw [Table.contains_eq_of_perm h.roles, h.hasRoleName]
  split
  · exact .error _
  · split
    · exact .error _
    · exact .ok role ⟨Table.insert_perm h.roles _ _, h.principals⟩

theorem updateRole (h : d.Reordered e) (roleId : RoleId) (expected : ExpectedVersion)
    (accessRights : AccessRights) (now : Instant) :
    SameResult (d.updateRole roleId expected accessRights now)
      (e.updateRole roleId expected accessRights now) := by
  unfold Directory.updateRole
  rw [h.find?_roles]
  cases e.roles.find? roleId with
  | none => exact .error _
  | some current =>
    dsimp only
    cases expected.check current.version with
    | error error => exact .error _
    | ok _ => exact .ok _ ⟨Table.insert_perm h.roles _ _, h.principals⟩

theorem removeRole (h : d.Reordered e) (roleId : RoleId) :
    SameResult (d.removeRole roleId) (e.removeRole roleId) := by
  unfold Directory.removeRole
  rw [h.find?_roles, h.isReferenced]
  cases e.roles.find? roleId with
  | none => exact .error _
  | some role =>
    dsimp only
    split
    · exact .error _
    · exact .ok role ⟨Table.erase_perm h.roles _, h.principals⟩

theorem insertPrincipal (h : d.Reordered e) (p : Principal) :
    SameResult ((d.insertPrincipal p).map fun d => ((), d))
      ((e.insertPrincipal p).map fun e => ((), e)) := by
  unfold Directory.insertPrincipal
  rw [Table.contains_eq_of_perm h.roles, h.hasLogin]
  split
  · exact .error _
  · split
    · exact .error _
    · exact .ok () ⟨h.roles, Table.insert_perm h.principals _ _⟩

end Reordered

/-- A write is answered the same when its results are the same. -/
theorem SameResult.afterWrite {α : Type} {x y : Except AuthorizationError (α × Directory)}
    (hresult : SameResult x y) (h : d.Reordered e) (answer : α → RoleStore.Answer) :
    (RoleStore.afterWrite d answer x).1 = (RoleStore.afterWrite e answer y).1 ∧
      (RoleStore.afterWrite d answer x).2.Reordered (RoleStore.afterWrite e answer y).2 := by
  cases hresult with
  | error error => exact ⟨rfl, h⟩
  | ok value hafter => exact ⟨rfl, hafter⟩

/-- A read is answered the same when its results are the same. -/
theorem Reordered.afterRead {α : Type} {x y : Except AuthorizationError α}
    (h : d.Reordered e) (hresult : x = y) (answer : α → RoleStore.Answer) :
    (RoleStore.afterRead d answer x).1 = (RoleStore.afterRead e answer y).1 ∧
      (RoleStore.afterRead d answer x).2.Reordered (RoleStore.afterRead e answer y).2 :=
  ⟨congrArg (Except.map answer) hresult, h⟩

/-- **A call answers the same in every order**, and leaves the same entries. -/
theorem Reordered.perform (h : d.Reordered e) (hd : d.roles.Distinct Role.name)
    (call : RoleStore.Call) :
    (RoleStore.perform d call).1 = (RoleStore.perform e call).1 ∧
      (RoleStore.perform d call).2.Reordered (RoleStore.perform e call).2 := by
  cases call with
  | resolveRole roleId =>
    refine h.afterRead ?_ _
    show d.resolveRole roleId = e.resolveRole roleId
    rw [Directory.resolveRole, h.find?_roles, Directory.resolveRole]
  | resolvePrincipal principalId =>
    refine h.afterRead ?_ _
    show d.resolvePrincipal principalId = e.resolvePrincipal principalId
    rw [Directory.resolvePrincipal, h.find?_principals, Directory.resolvePrincipal]
  | findRole name => exact h.afterRead (h.findRole hd name) _
  | listRoles => exact h.afterRead (congrArg Except.ok (h.listRoles hd)) _
  | insertRole role => exact (h.insertRole role).afterWrite h _
  | updateRole roleId expected accessRights now =>
    exact (h.updateRole roleId expected accessRights now).afterWrite h _
  | removeRole roleId => exact (h.removeRole roleId).afterWrite h _
  | insertPrincipal principal => exact (h.insertPrincipal principal).afterWrite h _

/-- Calls one after the other answer the same in every order. -/
theorem Reordered.performAll (h : d.Reordered e) (hd : d.Consistent)
    (calls : List RoleStore.Call) :
    (RoleStore.performAll d calls).1 = (RoleStore.performAll e calls).1 ∧
      (RoleStore.performAll d calls).2.Reordered (RoleStore.performAll e calls).2 := by
  induction calls generalizing d e with
  | nil => exact ⟨rfl, h⟩
  | cons call rest ih =>
    obtain ⟨hanswer, hafter⟩ := h.perform hd.role_name call
    obtain ⟨hanswers, hlast⟩ := ih hafter (hd.perform call)
    exact ⟨congrArg₂ List.cons hanswer hanswers, hlast⟩

/-- The values of the table of roles are the roles that can be resolved. -/
theorem mem_values_iff_resolveRole (hd : d.Consistent) {role : Role} :
    role ∈ d.roles.values ↔ d.resolveRole role.id = .ok role := by
  rw [Table.mem_values_iff, resolveRole_eq_ok_iff]
  constructor
  · rintro ⟨id, hfind⟩
    rwa [hd.role_id id role hfind]
  · exact fun hfind => ⟨role.id, hfind⟩

/--
**The order of entries is never seen.**  A directory that calls lead to and any directory
with the same entries in another order answer every sequence of calls alike, errors
included, and have the same entries after it.  The list of roles holds the roles that can
be resolved, as many as there are, and increases strictly in the bytes of their names; a
search by name finds the one role that can be resolved and has the name, and fails for
the name when there is none.
-/
theorem calls_reordered (operations : List Operation) {other : Directory}
    (h : (run operations).Reordered other) :
    (∀ calls,
      (RoleStore.performAll (run operations) calls).1 = (RoleStore.performAll other calls).1 ∧
      (RoleStore.performAll (run operations) calls).2.Reordered
        (RoleStore.performAll other calls).2) ∧
    (∀ role, role ∈ (run operations).listRoles ↔
      (run operations).resolveRole role.id = .ok role) ∧
    (run operations).listRoles.length = (run operations).roles.size ∧
    (run operations).listRoles.Pairwise (fun a b => Text.bytes a.name < Text.bytes b.name) ∧
    (∀ name role, (run operations).findRole name = .ok role ↔
      (run operations).resolveRole role.id = .ok role ∧ role.name = name) ∧
    ∀ name error, (run operations).findRole name = .error error ↔
      (∀ role, (run operations).resolveRole role.id = .ok role → role.name ≠ name) ∧
        error = .unknownRoleName name := by
  have hd := consistent_run operations
  refine ⟨h.performAll hd, fun role => ?_, ?_, ?_, fun name role => ?_, fun name error => ?_⟩
  · rw [(listRoles_perm _).mem_iff, mem_values_iff_resolveRole hd]
  · rw [(listRoles_perm _).length_eq, Table.values, List.length_map, Table.size]
  · exact (listRoles_pairwise hd.role_name).imp Text.bytes_lt_bytes_iff.2
  · rw [findRole_eq_ok_iff hd.role_name, mem_values_iff_resolveRole hd]
  · simp only [findRole_eq_error_iff, mem_values_iff_resolveRole hd]

/-- The law for two roles that are registered in one order and in the other. -/
theorem calls_reordered_two_roles :
    let d := run [.insertRole normalRole, .insertRole adminRole]
    let e := run [.insertRole adminRole, .insertRole normalRole]
    d.Reordered e ∧ d.roles.entries ≠ e.roles.entries ∧
      (RoleStore.performAll e [.listRoles, .removeRole adminRole.id, .listRoles]).1
        = (RoleStore.performAll d [.listRoles, .removeRole adminRole.id, .listRoles]).1 := by
  intro d e
  have h : d.Reordered e := ⟨by decide, by decide⟩
  exact ⟨h, by decide, ((calls_reordered _ h).1 _).1.symm⟩

end Directory

end AccessControl
