/-
# Explanations and decisions

An explanation is made on three paths: the decision reads one cell of the matrix, what the
role may do on the resource reads one row, and what it may do at all reads every row.  The
three describe one matrix.  What each list holds is stated through decisions alone, so that
an explanation says nothing that requests could not find out one by one.
-/
import AccessControl.Explanation
import AccessControl.Proofs.Guard.Mediation
import Mathlib.Data.List.Basic
import Mathlib.Data.List.Nodup

namespace AccessControl

/-! ## Permissions on one resource -/

namespace Permission

/-- The permissions on a resource are in the order of their actions. -/
theorem filter_all_resource (r : Resource) :
    (all.filter fun p => p.resource = r) = Action.all.map fun a => ⟨r, a⟩ := by
  cases r <;> rfl

/-- A choice of permissions is on each resource a choice of actions. -/
theorem map_action_filter (P : Permission → Prop) [DecidablePred P] (r : Resource) :
    ((all.filter P).filter fun p => p.resource = r).map (·.action)
      = Action.all.filter fun a => P ⟨r, a⟩ := by
  rw [List.filter_comm, filter_all_resource, List.filter_map, List.map_map]
  exact List.map_id _

theorem nodup_all : all.Nodup := by decide

end Permission

namespace Role

variable {role : Role} {resource action : String} {p : Permission} {decision : Decision}

/-! ## What decisions tell -/

theorem authorize_eq_ok_iff :
    role.authorize resource action = .ok decision ↔
      ∃ p, p.Named resource action ∧ role.check p = decision := by
  unfold authorize
  simp only [bind_eq_ok_iff, Permission.ofNames_eq_ok_iff, pure, Except.pure, Except.ok.injEq]

theorem authorize_eq_ok_of_named (h : p.Named resource action) :
    role.authorize resource action = .ok (role.check p) :=
  authorize_eq_ok_iff.2 ⟨p, h, rfl⟩

/-- The role may do what two names say. -/
def Allows (role : Role) (resource action : String) : Prop :=
  role.authorize resource action = .ok .allow

instance : Decidable (role.Allows resource action) :=
  match h : role.authorize resource action with
  | .ok .allow => .isTrue h
  | .ok .deny => .isFalse fun hallow => by cases h.symm.trans hallow
  | .error _ => .isFalse fun hallow => by cases h.symm.trans hallow

/-- Names that a permission has are allowed when its cell is. -/
theorem allows_iff_of_named (h : p.Named resource action) :
    role.Allows resource action ↔ role.accessRights.allows p.resource p.action = true := by
  rw [Allows, authorize_eq_ok_of_named h, Except.ok.injEq, check_eq_allow_iff,
    AccessRights.mem_granted]

/-- A row of the matrix has what is allowed on its resource. -/
theorem granted_row_eq_filter (role : Role) (r : Resource) :
    (role.accessRights.row r).granted = Action.all.filter fun a => role.Allows r.name a.name := by
  refine List.filter_congr fun a _ => Bool.eq_iff_iff.2 ?_
  rw [decide_eq_true_eq]
  exact (allows_iff_of_named (p := ⟨r, a⟩) ⟨rfl, rfl⟩).symm

/-- All rows together have what is allowed at all. -/
theorem granted_eq_filter (role : Role) :
    role.accessRights.granted
      = Permission.all.filter fun p => role.Allows p.resource.name p.action.name := by
  rw [AccessRights.granted_eq_filter]
  refine List.filter_congr fun p _ => Bool.eq_iff_iff.2 ?_
  rw [decide_eq_true_eq]
  exact (allows_iff_of_named ⟨rfl, rfl⟩).symm

end Role

/-! ## What an explanation says -/

namespace DenialReason

/-- What is said about the denial of a permission, as decisions tell it. -/
structure AgreesWith (denial : DenialReason) (role : Role) (p : Permission)
    (grantedOnResource : List Action) : Prop where
  effective : denial.effectivePermissions
    = Permission.all.filter fun q => role.Allows q.resource.name q.action.name
  nodup : denial.effectivePermissions.Nodup
  lacking : p ∉ denial.effectivePermissions
  /-- What is allowed on the resource is a part of what is allowed at all. -/
  onResource : (denial.effectivePermissions.filter fun q => q.resource = p.resource).map (·.action)
    = grantedOnResource
  suggestions : denial.suggestions.take 2 = [.assignRole p, .extendRole p role.name]
  /-- A third suggestion is made when the role has no access to the resource at all. -/
  third : ∀ s, denial.suggestions[2]? = some s ↔
    (∀ q ∈ denial.effectivePermissions, q.resource ≠ p.resource) ∧
      s = .checkAssignment role.name p.resource
  noMore : denial.suggestions.length ≤ 3

end DenialReason

namespace Explanation

/-- What an explanation says about two names, as decisions tell it. -/
structure AgreesWith (e : Explanation) (role : Role) (resource action : String) : Prop where
  decision : role.authorize resource action = .ok e.decision
  permission : e.permission.Named resource action
  roleName : e.role = role.name
  onResource : e.grantedOnResource = Action.all.filter fun a => role.Allows resource a.name
  denied : e.denialReason.isSome = true ↔ e.decision = .deny
  denial : ∀ denial, e.denialReason = some denial →
    denial.AgreesWith role e.permission e.grantedOnResource

end Explanation

namespace Role

variable {role : Role} {resource action : String} {p : Permission} {e : Explanation}
  {error : AuthorizationError}

/-! ## The reason for a denial -/

/-- The third suggestion looks at a row, and the row is empty when no permission is on it. -/
theorem granted_row_eq_nil_iff {r : Resource} :
    (role.accessRights.row r).granted = [] ↔
      ∀ q ∈ role.accessRights.granted, q.resource ≠ r := by
  rw [granted_row_eq_filter, granted_eq_filter,
    ← Permission.map_action_filter fun q => role.Allows q.resource.name q.action.name,
    List.map_eq_nil_iff, List.filter_eq_nil_iff]
  simp only [decide_eq_true_eq, Ne]

theorem suggestions_denial (role : Role) (p : Permission) :
    (role.denial p).suggestions = .assignRole p :: .extendRole p role.name ::
      if (role.accessRights.row p.resource).granted = [] then
        [.checkAssignment role.name p.resource]
      else [] := rfl

theorem denial_agreesWith (h : role.check p = .deny) :
    (role.denial p).AgreesWith role p (role.accessRights.row p.resource).granted where
  effective := role.granted_eq_filter
  nodup := by
    show role.accessRights.granted.Nodup
    rw [granted_eq_filter]
    exact Permission.nodup_all.filter _
  lacking := by
    show p ∉ role.accessRights.granted
    rw [← check_eq_allow_iff, h]
    nofun
  onResource := by
    show (role.accessRights.granted.filter _).map _ = _
    rw [granted_eq_filter, granted_row_eq_filter, Permission.map_action_filter]
  suggestions := by
    rw [suggestions_denial]
    rfl
  third := fun s => by
    show _ ↔ (∀ q ∈ role.accessRights.granted, _) ∧ _
    rw [suggestions_denial, ← granted_row_eq_nil_iff]
    split_ifs with hempty
    · simp [hempty, eq_comm]
    · simp [hempty]
  noMore := by
    rw [suggestions_denial]
    split_ifs
    · exact Nat.le_refl 3
    · exact Nat.le_succ 2

/-! ## The parts of an explanation -/

section Parts

variable (role : Role) (p : Permission)

theorem explanation_permission : (role.explanation p).permission = p := by
  unfold explanation
  cases role.check p <;> rfl

theorem explanation_decision : (role.explanation p).decision = role.check p := by
  unfold explanation
  cases role.check p <;> rfl

theorem explanation_role : (role.explanation p).role = role.name := by
  unfold explanation
  cases role.check p <;> rfl

theorem explanation_grantedOnResource :
    (role.explanation p).grantedOnResource = (role.accessRights.row p.resource).granted := by
  unfold explanation
  cases role.check p <;> rfl

end Parts

/-- A reason for a denial is given on a denial only. -/
theorem explanation_denialReason_eq_some_iff {denial : DenialReason} :
    (role.explanation p).denialReason = some denial ↔
      role.check p = .deny ∧ role.denial p = denial := by
  unfold explanation
  cases role.check p with
  | allow => simp
  | deny => simp

theorem explanation_agreesWith (h : p.Named resource action) :
    (role.explanation p).AgreesWith role resource action where
  decision := by rw [explanation_decision, authorize_eq_ok_of_named h]
  permission := by rwa [explanation_permission]
  roleName := explanation_role role p
  onResource := by rw [explanation_grantedOnResource, granted_row_eq_filter, h.1]
  denied := by
    rw [Option.isSome_iff_exists, explanation_decision]
    simp only [explanation_denialReason_eq_some_iff, exists_and_left, exists_eq', and_true]
  denial := by
    rintro _ hdenial
    obtain ⟨hdeny, rfl⟩ := explanation_denialReason_eq_some_iff.1 hdenial
    rw [explanation_permission, explanation_grantedOnResource]
    exact denial_agreesWith hdeny

theorem agreesWith_of_explain (h : role.explain resource action = .ok e) :
    e.AgreesWith role resource action := by
  obtain ⟨p, hnames, ⟨⟩⟩ := bind_eq_ok_iff.1 h
  exact explanation_agreesWith (Permission.ofNames_eq_ok_iff.1 hnames)

theorem explain_eq_error_iff :
    role.explain resource action = .error error ↔
      role.authorize resource action = .error error := by
  unfold explain authorize
  rw [bind_eq_error_iff, bind_eq_error_iff]
  simp only [pure, Except.pure, reduceCtorEq, and_false, exists_false, or_false]

/--
**An explanation never disagrees with the decision.**  Explaining fails exactly when
deciding does, and with the same error.  Else the explanation has the decision for the
requested permission and the allowed actions on its resource, and it has a reason for a
denial exactly when it denies.  The reason has everything that is allowed, in order and
once, which the requested permission is not and of which the part on the resource is the
allowed actions; a third suggestion is made when there is nothing in this part.
-/
theorem explain_agrees_with_authorize (role : Role) (resource action : String) :
    (∀ error, role.explain resource action = .error error ↔
      role.authorize resource action = .error error) ∧
    ∀ e, role.explain resource action = .ok e → e.AgreesWith role resource action :=
  ⟨fun _ => explain_eq_error_iff, fun _ => agreesWith_of_explain⟩

/-- The law for a role that may list users and view roles: deleting users and creating openers
is denied, one with and one without access to the resource. -/
theorem explain_agrees_with_authorize_lister :
    let rights := (AccessRights.empty.update .users .list true).update .roles .view true
    let role : Role := ⟨⟨.ofNat 1⟩, "lister", rights, .epoch, .epoch, 0, by decide⟩
    let users := role.explanation ⟨.users, .delete⟩
    let openers := role.explanation ⟨.openers, .create⟩
    role.explain "users" "delete" = .ok users ∧ users.AgreesWith role "users" "delete" ∧
    users.grantedOnResource = [.list] ∧
    role.explain "openers" "create" = .ok openers ∧
    openers.AgreesWith role "openers" "create" ∧
    (role.denial ⟨.openers, .create⟩).suggestions[2]? = some (.checkAssignment "lister" .openers) ∧
    role.explain "Users" "delete" = .error (.invalidRequest (.unknownResource "Users")) := by
  intro rights role users openers
  have husers := (explain_agrees_with_authorize role "users" "delete").2 users rfl
  have hopeners := (explain_agrees_with_authorize role "openers" "create").2 openers rfl
  have hdenial := hopeners.denial (role.denial ⟨.openers, .create⟩) rfl
  refine ⟨rfl, husers, ?_, rfl, hopeners, (hdenial.third _).2 ⟨by decide, rfl⟩,
    ((explain_agrees_with_authorize role "Users" "delete").1 _).2 rfl⟩
  rw [husers.onResource]
  decide

end Role

end AccessControl
