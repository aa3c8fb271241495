/-
# Authority over roles

Role administration asks for a permission before anything else, one for each of its five
operations.  An actor without it is refused for exactly that permission, by every store
and with every argument, and an actor with it gets what the store itself does.  So along
a run of requests a role appears only where a holder of the right to create asks for it,
disappears only where a holder of the right to delete does, and changes only where a
holder of the right to edit does, while principals never change and keep their roles.
-/
import AccessControl.Proofs.Directory.Calls
import AccessControl.Proofs.Directory.Permanence

namespace AccessControl.Administration

/-! ## Requests -/

/-- An operation on roles, with what it is given. -/
inductive Request where
  | create (id : RoleId) (name : String) (accessRights : AccessRights) (now : Instant)
  | edit (roleId : RoleId) (expected : ExpectedVersion) (accessRights : AccessRights)
      (now : Instant)
  | delete (roleId : RoleId)
  | view (roleId : RoleId)
  | list

/-- The action on roles that a request takes. -/
def Request.action : Request → Action
  | .create _ _ _ _ => .create
  | .edit _ _ _ _ => .edit
  | .delete _ => .delete
  | .view _ => .view
  | .list => .list

/-- The call of the store that a request is for; a new role is made before it is registered. -/
def Request.call : Request → Except AuthorizationError RoleStore.Call
  | .create id name accessRights now =>
    (Role.create id name accessRights now).map RoleStore.Call.insertRole
  | .edit roleId expected accessRights now => .ok (.updateRole roleId expected accessRights now)
  | .delete roleId => .ok (.removeRole roleId)
  | .view roleId => .ok (.resolveRole roleId)
  | .list => .ok .listRoles

variable {σ : Type} [RoleStore σ]

/-- What the store does with a request of anybody, and the store afterwards. -/
def Request.direct (store : σ) (request : Request) :
    Except AuthorizationError RoleStore.Answer × σ :=
  match request.call with
  | .error error => (.error error, store)
  | .ok call => RoleStore.perform store call

/-- What is answered to a request of an actor, and the store afterwards. -/
def perform (store : σ) (actor : Role) :
    Request → Except AuthorizationError RoleStore.Answer × σ
  | .create id name accessRights now =>
    RoleStore.afterWrite store .role (createRole store actor id name accessRights now)
  | .edit roleId expected accessRights now =>
    RoleStore.afterWrite store .role (editRole store actor roleId expected accessRights now)
  | .delete roleId => RoleStore.afterWrite store .role (deleteRole store actor roleId)
  | .view roleId => RoleStore.afterRead store .role (viewRole store actor roleId)
  | .list => RoleStore.afterRead store .roles (listRoles store actor)

/-! ## Every request is mediated -/

/-- The permission that is asked for is the cell of the action in the row of roles. -/
theorem require_eq (actor : Role) (action : Action) :
    require actor action =
      if actor.accessRights.allows .roles action = true then .ok ()
      else .error (.permissionDenied ⟨.roles, action⟩) := by
  rw [require, Role.check]
  cases actor.accessRights.allows .roles action <;> rfl

/-- A request is what the store does with it, once the permission of its action is there. -/
theorem perform_eq (store : σ) (actor : Role) (request : Request) :
    perform store actor request =
      match require actor request.action with
      | .error error => (.error error, store)
      | .ok () => request.direct store := by
  cases request with
  | create id name accessRights now =>
    rw [perform, createRole, Request.action]
    cases require actor .create with
    | error error => rfl
    | ok _ =>
      rw [Request.direct, Request.call]
      -- a blank name is refused before the store is asked
      cases Role.create id name accessRights now <;> rfl
  | edit roleId expected accessRights now =>
    rw [perform, editRole, Request.action]
    cases require actor .edit <;> rfl
  | delete roleId =>
    rw [perform, deleteRole, Request.action]
    cases require actor .delete <;> rfl
  | view roleId =>
    rw [perform, viewRole, Request.action]
    cases require actor .view <;> rfl
  | list =>
    rw [perform, listRoles, Request.action]
    cases require actor .list <;> rfl

/-- An actor without the permission is refused, and the store is not asked. -/
theorem perform_of_not_allows (store : σ) {actor : Role} {request : Request}
    (h : actor.accessRights.allows .roles request.action = false) :
    perform store actor request
      = (.error (.permissionDenied ⟨.roles, request.action⟩), store) := by
  rw [perform_eq, require_eq, if_neg (by simp [h])]

/-- An actor with the permission gets what the store does. -/
theorem perform_of_allows (store : σ) {actor : Role} {request : Request}
    (h : actor.accessRights.allows .roles request.action = true) :
    perform store actor request = request.direct store := by
  rw [perform_eq, require_eq, if_pos h]

/-! ## Runs of requests -/

/-- A request of an actor. -/
structure Act where
  actor : Role
  request : Request

namespace Act

/-- The actor may take an action on roles. -/
def Holds (act : Act) (action : Action) : Prop :=
  act.actor.accessRights.allows .roles action = true

/-- A holder of the right to create asks for a role with an identifier. -/
def Creates (act : Act) (id : RoleId) : Prop :=
  act.Holds .create ∧ ∃ name accessRights now, act.request = .create id name accessRights now

/-- A holder of the right to edit asks for other rights of a role. -/
def Edits (act : Act) (id : RoleId) : Prop :=
  act.Holds .edit ∧ ∃ expected accessRights now, act.request = .edit id expected accessRights now

/-- A holder of the right to delete asks for the removal of a role. -/
def Deletes (act : Act) (id : RoleId) : Prop :=
  act.Holds .delete ∧ act.request = .delete id

/-- The operation on a directory that an act is. -/
def operation (act : Act) : Directory.Operation :=
  match act.request with
  | .create id name accessRights now => .createRole act.actor id name accessRights now
  | .edit roleId expected accessRights now => .editRole act.actor roleId expected accessRights now
  | .delete roleId => .deleteRole act.actor roleId
  | .view roleId => .viewRole act.actor roleId
  | .list => .listRoles act.actor

end Act

/-- The directory after acts one after the other. -/
def administer (d : Directory) (acts : List Act) : Directory :=
  acts.foldl (fun d act => (perform d act.actor act.request).2) d

/-- What may have changed in a directory by acts. -/
structure Permitted (acts : List Act) (d d' : Directory) : Prop where
  /-- A role has appeared only if a holder of the right to create asked for it. -/
  appeared : ∀ id, d.roles.find? id = none → ∀ role, d'.roles.find? id = some role →
    ∃ act ∈ acts, act.Creates id
  /-- A role has disappeared only if a holder of the right to delete asked for it. -/
  disappeared : ∀ id role, d.roles.find? id = some role → d'.roles.find? id = none →
    ∃ act ∈ acts, act.Deletes id
  /-- A role has changed only if a holder of the right to edit asked for it, unless it was
  removed and its identifier was given out again. -/
  changed : ∀ id role role', d.roles.find? id = some role → d'.roles.find? id = some role' →
    role' ≠ role → (∃ act ∈ acts, act.Edits id) ∨
      (∃ act ∈ acts, act.Deletes id) ∧ ∃ act ∈ acts, act.Creates id
  principals : d'.principals = d.principals

namespace Permitted

variable {d d' d'' : Directory} {acts more : List Act} {act : Act} {id : RoleId}

theorem refl (acts : List Act) (d : Directory) : Permitted acts d d where
  appeared _ hnone role hsome := by
    rw [hnone] at hsome
    cases hsome
  disappeared _ role hsome hnone := by
    rw [hnone] at hsome
    cases hsome
  changed _ role role' hsome hsome' hne := by
    rw [hsome, Option.some.injEq] at hsome'
    exact absurd hsome'.symm hne
  principals := rfl

/-- What one of some acts did, one of more acts did. -/
theorem exists_mem_append_of_left {P : Act → Prop} (h : ∃ act ∈ acts, P act) :
    ∃ act ∈ acts ++ more, P act := by
  obtain ⟨act, hmem, hact⟩ := h
  exact ⟨act, List.mem_append_left _ hmem, hact⟩

theorem exists_mem_append_of_right {P : Act → Prop} (h : ∃ act ∈ more, P act) :
    ∃ act ∈ acts ++ more, P act := by
  obtain ⟨act, hmem, hact⟩ := h
  exact ⟨act, List.mem_append_right _ hmem, hact⟩

/-- Acts after others may do what either may. -/
theorem trans (h : Permitted acts d d') (h' : Permitted more d' d'') :
    Permitted (acts ++ more) d d'' where
  appeared id hnone role hsome := by
    cases hmiddle : d'.roles.find? id with
    | none => exact exists_mem_append_of_right (h'.appeared id hmiddle role hsome)
    | some middle => exact exists_mem_append_of_left (h.appeared id hnone middle hmiddle)
  disappeared id role hsome hnone := by
    cases hmiddle : d'.roles.find? id with
    | none => exact exists_mem_append_of_left (h.disappeared id role hsome hmiddle)
    | some middle => exact exists_mem_append_of_right (h'.disappeared id middle hmiddle hnone)
  changed id role role'' hsome hsome' hne := by
    cases hmiddle : d'.roles.find? id with
    | none =>
      exact .inr ⟨exists_mem_append_of_left (h.disappeared id role hsome hmiddle),
        exists_mem_append_of_right (h'.appeared id hmiddle role'' hsome')⟩
    | some middle =>
      -- one of the two halves has changed the role
      by_cases hsame : middle = role
      · rcases h'.changed id middle role'' hmiddle hsome' (hsame ▸ hne) with hedit | ⟨hdel, hnew⟩
        · exact .inl (exists_mem_append_of_right hedit)
        · exact .inr ⟨exists_mem_append_of_right hdel, exists_mem_append_of_right hnew⟩
      · rcases h.changed id role middle hsome hmiddle hsame with hedit | ⟨hdel, hnew⟩
        · exact .inl (exists_mem_append_of_left hedit)
        · exact .inr ⟨exists_mem_append_of_left hdel, exists_mem_append_of_left hnew⟩
  principals := h'.principals.trans h.principals

/-- A single act changes a role only as an edit. -/
theorem edits_of_single (h : Permitted [act] d d') {role role' : Role}
    (hsome : d.roles.find? id = some role) (hsome' : d'.roles.find? id = some role')
    (hne : role' ≠ role) : act.Edits id := by
  rcases h.changed id role role' hsome hsome' hne with hedit | ⟨hdelete, hcreate⟩
  · simpa using hedit
  · simp only [List.mem_singleton, exists_eq_left] at hdelete hcreate
    obtain ⟨-, hdelete⟩ := hdelete
    obtain ⟨-, name, accessRights, now, hcreate⟩ := hcreate
    rw [hdelete] at hcreate
    cases hcreate

end Permitted

/-! ## What one act may change -/

section

variable {d d' : Directory} {act : Act} {id : RoleId}

/-- An act that reaches one role only is permitted when what it does to that role is. -/
theorem permitted_of_others_eq (id : RoleId) (hprincipals : d'.principals = d.principals)
    (hothers : ∀ other, other ≠ id → d'.roles.find? other = d.roles.find? other)
    (happeared : d.roles.find? id = none → act.Creates id)
    (hdisappeared : d'.roles.find? id = none → act.Deletes id)
    (hchanged : d.roles.find? id ≠ none → d'.roles.find? id ≠ none → act.Edits id) :
    Permitted [act] d d' where
  appeared other hnone role hsome := by
    by_cases hid : other = id
    · subst hid
      exact ⟨act, List.mem_singleton_self act, happeared hnone⟩
    · rw [hothers other hid, hnone] at hsome
      cases hsome
  disappeared other role hsome hnone := by
    by_cases hid : other = id
    · subst hid
      exact ⟨act, List.mem_singleton_self act, hdisappeared hnone⟩
    · rw [hothers other hid, hsome] at hnone
      cases hnone
  changed other role role' hsome hsome' hne := by
    by_cases hid : other = id
    · subst hid
      exact .inl ⟨act, List.mem_singleton_self act, hchanged (by simp [hsome]) (by simp [hsome'])⟩
    · rw [hothers other hid, hsome, Option.some.injEq] at hsome'
      exact absurd hsome'.symm hne
  principals := hprincipals

theorem permitted_of_insertRole {role stored : Role} (hact : act.Creates role.id)
    (h : d.insertRole role = .ok (stored, d')) : Permitted [act] d d' := by
  obtain ⟨hnew, -, -, rfl⟩ := Directory.insertRole_eq_ok_iff.1 h
  refine permitted_of_others_eq role.id rfl ?_ (fun _ => hact) ?_ ?_
  · intro other hne
    rw [Table.find?_insert, if_neg hne]
  · intro hnone
    rw [Table.find?_insert, if_pos rfl] at hnone
    cases hnone
  · intro hsome
    exact absurd hnew hsome

theorem permitted_of_updateRole (hact : act.Edits id) {expected : ExpectedVersion}
    {accessRights : AccessRights} {now : Instant} {stored : Role}
    (h : d.updateRole id expected accessRights now = .ok (stored, d')) : Permitted [act] d d' := by
  obtain ⟨current, hcurrent, -, -, rfl⟩ := Directory.updateRole_eq_ok_iff.1 h
  refine permitted_of_others_eq id rfl ?_ ?_ ?_ (fun _ _ => hact)
  · intro other hne
    rw [Table.find?_insert, if_neg hne]
  · intro hnone
    rw [hcurrent] at hnone
    cases hnone
  · intro hnone
    rw [Table.find?_insert, if_pos rfl] at hnone
    cases hnone

theorem permitted_of_removeRole (hact : act.Deletes id) {removed : Role}
    (h : d.removeRole id = .ok (removed, d')) : Permitted [act] d d' := by
  obtain ⟨hstored, -, rfl⟩ := Directory.removeRole_eq_ok_iff.1 h
  refine permitted_of_others_eq id rfl ?_ ?_ (fun _ => hact) ?_
  · intro other hne
    rw [Table.find?_erase, if_neg hne]
  · intro hnone
    rw [hstored] at hnone
    cases hnone
  · intro _ hsome
    rw [Table.find?_erase, if_pos rfl] at hsome
    exact absurd rfl hsome

/-- **One act changes no more than it is permitted to.** -/
theorem permitted_perform (d : Directory) (act : Act) :
    Permitted [act] d (perform d act.actor act.request).2 := by
  obtain ⟨actor, request⟩ := act
  cases hallows : actor.accessRights.allows .roles request.action with
  | false =>
    rw [perform_of_not_allows d hallows]
    exact .refl _ d
  | true =>
    rw [perform_of_allows d hallows, Request.direct]
    cases request with
    | create id name accessRights now =>
      rw [Request.call]
      cases hcreate : Role.create id name accessRights now with
      | error error => exact .refl _ d
      | ok role =>
        have hid : role.id = id := by
          unfold Role.create at hcreate
          split at hcreate <;> cases hcreate
          rfl
        show Permitted _ d (RoleStore.afterWrite d _ (d.insertRole role)).2
        rw [Directory.snd_afterWrite]
        refine Directory.after_induction (.refl _ d) fun stored d' h => permitted_of_insertRole ?_ h
        exact ⟨hallows, name, accessRights, now, by rw [hid]⟩
    | edit roleId expected accessRights now =>
      show Permitted _ d (RoleStore.afterWrite d _ (d.updateRole _ _ _ _)).2
      rw [Directory.snd_afterWrite]
      refine Directory.after_induction (.refl _ d) fun stored d' h => permitted_of_updateRole ?_ h
      exact ⟨hallows, expected, accessRights, now, rfl⟩
    | delete roleId =>
      show Permitted _ d (RoleStore.afterWrite d _ (d.removeRole roleId)).2
      rw [Directory.snd_afterWrite]
      exact Directory.after_induction (.refl _ d) fun removed d' h =>
        permitted_of_removeRole ⟨hallows, rfl⟩ h
    | view roleId => exact .refl _ d
    | list => exact .refl _ d

end

/-! ## What a run may change -/

theorem administer_concat (d : Directory) (acts : List Act) (act : Act) :
    administer d (acts ++ [act])
      = (perform (administer d acts) act.actor act.request).2 := by
  rw [administer, List.foldl_append]
  rfl

/-- **A run changes no more than its acts are permitted to.** -/
theorem permitted_administer (d : Directory) (acts : List Act) :
    Permitted acts d (administer d acts) := by
  induction acts using List.reverseRecOn with
  | nil => exact .refl [] d
  | append_singleton acts act ih =>
    rw [administer_concat]
    exact ih.trans (permitted_perform _ act)

/-- An act leaves the directory that its operation leaves. -/
theorem perform_eq_apply (d : Directory) (act : Act) :
    (perform d act.actor act.request).2 = d.apply act.operation := by
  obtain ⟨actor, request⟩ := act
  cases request with
  | create id name accessRights now => exact Directory.snd_afterWrite _ _
  | edit roleId expected accessRights now => exact Directory.snd_afterWrite _ _
  | delete roleId => exact Directory.snd_afterWrite _ _
  | view roleId => rfl
  | list => rfl

theorem consistent_administer {d : Directory} (hd : d.Consistent) (acts : List Act) :
    (administer d acts).Consistent := by
  induction acts using List.reverseRecOn with
  | nil => exact hd
  | append_singleton acts act ih =>
    rw [administer_concat, perform_eq_apply]
    exact ih.apply act.operation

/-- The role of a principal is stored after every run. -/
theorem exists_role_administer {d : Directory} (hd : d.Consistent) (acts : List Act)
    {id : PrincipalId} {p : Principal} (hp : d.principals.find? id = some p) :
    ∃ role, (administer d acts).roles.find? p.roleId = some role := by
  rw [← (permitted_administer d acts).principals] at hp
  obtain ⟨role, hrole, -⟩ := (consistent_administer hd acts).principal_role id p hp
  exact ⟨role, hrole⟩

/--
**Nothing changes without the matching right.**  A request of an actor whose matrix does
not allow its action on roles is refused for exactly that permission, by every store and
with every argument, and changes nothing; with the permission it is what the store itself
does.  So along every run of requests from a directory that calls lead to, whoever makes
them, a role appears only by a holder of the right to create, disappears only by a holder
of the right to delete and changes only by a holder of the right to edit, each asking for
just that, while principals never change and their roles stay.
-/
theorem administration_mediated (operations : List Directory.Operation) :
    (∀ (τ : Type) [RoleStore τ] (store : τ) (actor : Role) (request : Request),
      (actor.accessRights.allows .roles request.action = false →
        perform store actor request
          = (.error (.permissionDenied ⟨.roles, request.action⟩), store)) ∧
      (actor.accessRights.allows .roles request.action = true →
        perform store actor request = request.direct store)) ∧
    ∀ acts,
      Permitted acts (.run operations) (administer (.run operations) acts) ∧
      (∀ id p, (Directory.run operations).principals.find? id = some p →
        ∃ role, (administer (.run operations) acts).roles.find? p.roleId = some role) ∧
      ∀ act,
        Permitted [act] (administer (.run operations) acts)
          (administer (.run operations) (acts ++ [act])) ∧
        ∀ id role role', (administer (.run operations) acts).roles.find? id = some role →
          (administer (.run operations) (acts ++ [act])).roles.find? id = some role' →
          role' ≠ role → act.Edits id := by
  refine ⟨fun τ _ store actor request => ⟨?_, ?_⟩, fun acts => ⟨?_, ?_, fun act => ?_⟩⟩
  · exact perform_of_not_allows store
  · exact perform_of_allows store
  · exact permitted_administer _ acts
  · intro id p hp
    exact exists_role_administer (Directory.consistent_run operations) acts hp
  · have hstep : Permitted [act] (administer (.run operations) acts)
        (administer (.run operations) (acts ++ [act])) := by
      rw [administer_concat]
      exact permitted_perform _ act
    exact ⟨hstep, fun id role role' => hstep.edits_of_single⟩

/-- An actor who may edit roles and nothing else. -/
def editorRole : Role :=
  ⟨⟨.ofNat 3⟩, "editor", AccessRights.empty.update .roles .edit true, .epoch, .epoch, 0, by decide⟩

/-- The law for an editor: no role without a name is created, and the one that changes is edited. -/
theorem administration_mediated_editor :
    let d := Directory.run [.insertRole Directory.normalRole]
    let edit := Request.edit Directory.normalRole.id .any .full .epoch
    perform d editorRole (.create Directory.adminRole.id "" .full .epoch)
        = (.error (.permissionDenied ⟨.roles, .create⟩), d) ∧
      (perform d editorRole edit).2.roles.find? Directory.normalRole.id
        = some (Directory.normalRole.revise .full .epoch) ∧
      Act.Edits ⟨editorRole, edit⟩ Directory.normalRole.id := by
  intro d edit
  obtain ⟨hmediated, hruns⟩ := administration_mediated [.insertRole Directory.normalRole]
  obtain ⟨-, -, hsteps⟩ := hruns []
  have hafter : (perform d editorRole edit).2.roles.find? Directory.normalRole.id
      = some (Directory.normalRole.revise .full .epoch) := by decide
  refine ⟨?_, hafter, ?_⟩
  · exact (hmediated Directory d editorRole (.create Directory.adminRole.id "" .full .epoch)).1
      (by decide)
  · exact (hsteps ⟨editorRole, edit⟩).2 Directory.normalRole.id Directory.normalRole _ rfl hafter
      (by decide)

end AccessControl.Administration
