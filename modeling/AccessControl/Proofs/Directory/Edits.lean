/-
# Optimistic edits of a role

From the call that stores a role to the next one that removes it, the role is
what its accepted edits have made of it: its version counts them, and its rights
are those of the last.  An edit that expects a version is accepted exactly at that
version, and the version grows with every accepted edit, so that of all edits that
expect one version at most one is accepted, and what it replaces is the snapshot
that could be read at that version.  No accepted edit is lost unseen.
-/
import AccessControl.Proofs.Directory.Changes

namespace AccessControl.Directory

/-! ## Edits -/

/-- What an edit asks for. -/
structure Edit where
  expected : ExpectedVersion
  accessRights : AccessRights
  now : Instant
  deriving DecidableEq

/-- The answer to an edit of a role, and the directory that it leaves. -/
def edit (d : Directory) (id : RoleId) (e : Edit) : Except AuthorizationError (Role × Directory) :=
  d.updateRole id e.expected e.accessRights e.now

/-- The edit of a role that a call makes; a call by an actor who may not edit roles makes none. -/
def Operation.edit? (id : RoleId) : Operation → Option Edit
  | .updateRole roleId expected accessRights now =>
    if roleId = id then some ⟨expected, accessRights, now⟩ else none
  | .editRole actor roleId expected accessRights now =>
    if roleId = id ∧ actor.check ⟨.roles, .edit⟩ = .allow then some ⟨expected, accessRights, now⟩
    else none
  | _ => none

/-- The edit of a role that a call makes, if it is accepted. -/
def accepted? (d : Directory) (id : RoleId) (operation : Operation) : Option Edit :=
  (operation.edit? id).filter fun e => (d.edit id e).isOk

/-- The accepted edits of a role in calls one after the other. -/
def edits (id : RoleId) : Directory → List Operation → List Edit
  | _, [] => []
  | d, operation :: rest => (d.accepted? id operation).toList ++ edits id (d.apply operation) rest

/-- A role after edits one after the other. -/
def revised (role : Role) (es : List Edit) : Role :=
  es.foldl (fun role e => role.revise e.accessRights e.now) role

/-! ## What edits make of a role -/

/-- What a role is after edits one after the other. -/
structure EditedBy (role : Role) (es : List Edit) (current : Role) : Prop where
  /-- The version counts the edits. -/
  version : current.version.toNat = role.version.toNat + es.length
  /-- The rights are those of the last edit. -/
  accessRights : current.accessRights = (es.getLast?.map Edit.accessRights).getD role.accessRights
  /-- The time is that of the last edit. -/
  updatedAt : current.updatedAt = (es.getLast?.map Edit.now).getD role.updatedAt
  id : current.id = role.id
  name : current.name = role.name
  createdAt : current.createdAt = role.createdAt

theorem revised_append (role : Role) (es fs : List Edit) :
    revised role (es ++ fs) = revised (revised role es) fs := List.foldl_append

/-- A version below the largest one grows by one with a revision. -/
theorem version_revise {role : Role} (accessRights : AccessRights) (now : Instant)
    (h : role.version.toNat + 1 < UInt64.size) :
    (role.revise accessRights now).version.toNat = role.version.toNat + 1 := by
  show (role.version + 1).toNat = role.version.toNat + 1
  rw [UInt64.toNat_add]
  exact Nat.mod_eq_of_lt h

/-- Edits leave what they should, as long as versions are not used up. -/
theorem editedBy_revised {role : Role} {es : List Edit}
    (h : role.version.toNat + es.length < UInt64.size) : EditedBy role es (revised role es) := by
  induction es using List.reverseRecOn with
  | nil => exact ⟨rfl, rfl, rfl, rfl, rfl, rfl⟩
  | append_singleton es e ih =>
    rw [List.length_append, List.length_singleton] at h
    have hes := ih (by omega)
    have hversion : (revised role es).version.toNat + 1 < UInt64.size := by
      rw [hes.version]
      omega
    have hlast : (es ++ [e]).getLast? = some e := List.getLast?_concat
    rw [revised_append]
    refine ⟨?_, ?_, ?_, hes.id, hes.name, hes.createdAt⟩
    · rw [List.length_append, List.length_singleton, ← Nat.add_assoc, ← hes.version]
      exact version_revise e.accessRights e.now hversion
    · rw [hlast]
      rfl
    · rw [hlast]
      rfl

/-! ## When an edit is accepted -/

variable {d d' : Directory} {id : RoleId} {role current : Role} {e : Edit}

/-- An edit at an expected version is accepted, and stores the next snapshot. -/
theorem edit_of_accepts (hfind : d.roles.find? id = some current)
    (h : e.expected.accepts current.version = true) :
    d.edit id e = .ok (current.revise e.accessRights e.now,
      { d with roles := d.roles.insert id (current.revise e.accessRights e.now) }) :=
  updateRole_eq_ok_iff.2 ⟨current, hfind, h, rfl, rfl⟩

/-- An edit at another version than it expects clashes. -/
theorem edit_of_ne (hfind : d.roles.find? id = some current) {version : UInt64}
    (hexpected : e.expected = .exactly version) (hne : version ≠ current.version) :
    d.edit id e = .error (.conflict (.staleVersion version current.version)) := by
  rw [edit, updateRole, hfind, hexpected]
  simp only [ExpectedVersion.check, if_neg hne, DomainError.toAuthorization]

/-- A stored role accepts the edits that expect its version. -/
theorem isOk_edit (hfind : d.roles.find? id = some current) :
    (d.edit id e).isOk = e.expected.accepts current.version := by
  cases haccepts : e.expected.accepts current.version with
  | true =>
    rw [edit_of_accepts hfind haccepts]
    rfl
  | false =>
    cases hexpected : e.expected with
    | any =>
      rw [hexpected] at haccepts
      cases haccepts
    | exactly version =>
      have hne : version ≠ current.version := by
        rw [hexpected] at haccepts
        exact of_decide_eq_false haccepts
      rw [edit_of_ne hfind hexpected hne]
      rfl

/-- The call makes an edit that is accepted, and then the edit expects the stored version. -/
theorem accepted?_eq_some_iff (hfind : d.roles.find? id = some current) {operation : Operation} :
    d.accepted? id operation = some e ↔
      operation.edit? id = some e ∧ e.expected.accepts current.version = true := by
  rw [accepted?, Option.filter_eq_some_iff, isOk_edit hfind]

/-! ## What a call leaves of a stored role -/

/-- A call that removes a role. -/
def Removes (d : Directory) (id : RoleId) : Operation → Prop
  | .removeRole roleId => roleId = id ∧ ∃ answer, d.removeRole roleId = .ok answer
  | .deleteRole actor roleId =>
    roleId = id ∧ ∃ answer, Administration.deleteRole d actor roleId = .ok answer
  | _ => False

/-- A write that leaves a stored role when it succeeds leaves it in any case. -/
theorem find?_after {α : Type} {result : Except AuthorizationError (α × Directory)}
    (hfind : d.roles.find? id = some current)
    (h : ∀ value d', result = .ok (value, d') → d'.roles.find? id = some current) :
    (d.after result).roles.find? id = some current :=
  after_induction (P := fun d => d.roles.find? id = some current) hfind h

/-- A new role does not take the place of a stored one. -/
theorem find?_of_insertRole (hfind : d.roles.find? id = some current) {added stored : Role}
    (h : d.insertRole added = .ok (stored, d')) : d'.roles.find? id = some current := by
  obtain ⟨hnew, -, -, rfl⟩ := insertRole_eq_ok_iff.1 h
  refine Table.find?_insert_eq_some_iff.2 (.inr ⟨?_, hfind⟩)
  rintro rfl
  rw [hnew] at hfind
  cases hfind

/-- An edit of another role leaves the role. -/
theorem find?_of_updateRole (hfind : d.roles.find? id = some current) {roleId : RoleId}
    (hne : roleId ≠ id) {expected : ExpectedVersion} {accessRights : AccessRights} {now : Instant}
    {stored : Role} (h : d.updateRole roleId expected accessRights now = .ok (stored, d')) :
    d'.roles.find? id = some current := by
  obtain ⟨-, -, -, -, rfl⟩ := updateRole_eq_ok_iff.1 h
  exact Table.find?_insert_eq_some_iff.2 (.inr ⟨hne.symm, hfind⟩)

/-- A removal of another role leaves the role. -/
theorem find?_of_removeRole (hfind : d.roles.find? id = some current) {roleId : RoleId}
    (hne : roleId ≠ id) {removed : Role} (h : d.removeRole roleId = .ok (removed, d')) :
    d'.roles.find? id = some current := by
  obtain ⟨-, -, rfl⟩ := removeRole_eq_ok_iff.1 h
  exact Table.find?_erase_eq_some_iff.2 ⟨hne.symm, hfind⟩

/-- A bootstrap leaves a role that is stored. -/
theorem find?_roles_bootstrap (hfind : d.roles.find? id = some current) (document : PolicyDocument)
    (supply : Supply) (now : Instant) :
    (bootstrap d document supply now).2.roles.find? id = some current := by
  refine bootstrap_induction (P := fun d => d.roles.find? id = some current) document supply now
    (fun _ _ _ _ hfind h => find?_of_insertRole hfind h) (fun d p d' _ hfind h => ?_) hfind
  rw [roles_of_insertPrincipal h, hfind]

/-- After an edit, the role is the next snapshot, or what it was when the edit is refused. -/
theorem find?_after_edit (hfind : d.roles.find? id = some current) :
    (d.after (d.edit id e)).roles.find? id
      = some (if e.expected.accepts current.version then current.revise e.accessRights e.now
          else current) := by
  by_cases haccepts : e.expected.accepts current.version = true
  · rw [edit_of_accepts hfind haccepts, if_pos haccepts]
    exact Table.find?_insert_eq_some_iff.2 (.inl ⟨rfl, rfl⟩)
  · rw [if_neg haccepts]
    apply find?_after hfind
    intro stored d' h
    rw [← isOk_edit hfind, h] at haccepts
    exact absurd rfl haccepts

/-- Role administration edits as the store does, for an actor who may edit roles. -/
theorem editRole_eq_edit {actor : Role} (h : actor.check ⟨.roles, .edit⟩ = .allow) :
    Administration.editRole d actor id e.expected e.accessRights e.now = d.edit id e := by
  rw [Administration.editRole, Administration.require, h]
  rfl

/-- Whatever a call is that makes an edit, it leaves what the edit leaves. -/
theorem apply_of_edit? {operation : Operation} (h : operation.edit? id = some e) :
    d.apply operation = d.after (d.edit id e) := by
  cases operation with
  | updateRole roleId expected accessRights now =>
    simp only [Operation.edit?, Option.ite_none_right_eq_some, Option.some.injEq] at h
    obtain ⟨rfl, rfl⟩ := h
    rfl
  | editRole actor roleId expected accessRights now =>
    simp only [Operation.edit?, Option.ite_none_right_eq_some, Option.some.injEq] at h
    obtain ⟨⟨rfl, hactor⟩, rfl⟩ := h
    rw [apply, ← editRole_eq_edit hactor]
  | _ => cases h

/-- A call that makes no edit of a role and does not remove it leaves it as it is. -/
theorem find?_apply_of_edit?_eq_none (hfind : d.roles.find? id = some current)
    {operation : Operation} (hedit : operation.edit? id = none)
    (hkeep : ¬ d.Removes id operation) : (d.apply operation).roles.find? id = some current := by
  cases operation with
  | insertRole added => exact find?_after hfind fun _ _ h => find?_of_insertRole hfind h
  | updateRole roleId expected accessRights now =>
    have hne : roleId ≠ id := by simpa [Operation.edit?] using hedit
    exact find?_after hfind fun _ _ h => find?_of_updateRole hfind hne h
  | removeRole roleId =>
    apply find?_after hfind
    intro removed d' h
    have hne : roleId ≠ id := fun heq => hkeep ⟨heq, _, h⟩
    exact find?_of_removeRole hfind hne h
  | insertPrincipal p =>
    rw [apply]
    cases hinsert : d.insertPrincipal p with
    | error error => exact hfind
    | ok written =>
      obtain ⟨-, -, rfl⟩ := insertPrincipal_eq_ok_iff.1 hinsert
      exact hfind
  | bootstrap document supply now => exact find?_roles_bootstrap hfind document supply now
  | createRole actor roleId name accessRights now =>
    apply find?_after hfind
    intro stored d' h
    obtain ⟨-, added, -, hinsert⟩ := createRole_eq_ok_iff.1 h
    exact find?_of_insertRole hfind hinsert
  | editRole actor roleId expected accessRights now =>
    apply find?_after hfind
    intro stored d' h
    obtain ⟨hactor, hupdate⟩ := editRole_eq_ok_iff.1 h
    -- the actor may edit roles, so it is another role that was edited
    have hne : roleId ≠ id := by
      rintro rfl
      simp [Operation.edit?, Administration.require_eq_ok_iff.1 hactor] at hedit
    exact find?_of_updateRole hfind hne hupdate
  | deleteRole actor roleId =>
    apply find?_after hfind
    intro removed d' h
    have hne : roleId ≠ id := fun heq => hkeep ⟨heq, _, h⟩
    exact find?_of_removeRole hfind hne (deleteRole_eq_ok_iff.1 h).2
  | viewRole actor roleId => exact hfind
  | listRoles actor => exact hfind

/-- **What a call leaves of a stored role**: the snapshot that the accepted edit makes of it. -/
theorem find?_apply (hfind : d.roles.find? id = some current) {operation : Operation}
    (hkeep : ¬ d.Removes id operation) :
    (d.apply operation).roles.find? id
      = some (revised current (d.accepted? id operation).toList) := by
  cases hedit : operation.edit? id with
  | none =>
    rw [accepted?, hedit]
    exact find?_apply_of_edit?_eq_none hfind hedit hkeep
  | some e =>
    rw [apply_of_edit? hedit, find?_after_edit hfind, accepted?, hedit, Option.filter_some,
      isOk_edit hfind]
    split <;> rfl

/-! ## What calls one after the other leave of it -/

/-- No call removes the role. -/
def Unremoved (id : RoleId) : Directory → List Operation → Prop
  | _, [] => True
  | d, operation :: rest => ¬ d.Removes id operation ∧ Unremoved id (d.apply operation) rest

theorem edits_append (done rest : List Operation) :
    edits id d (done ++ rest) = edits id d done ++ edits id (done.foldl apply d) rest := by
  induction done generalizing d with
  | nil => rfl
  | cons operation done ih =>
    rw [List.cons_append, edits, edits, ih, List.append_assoc]
    rfl

theorem Unremoved.of_append {done rest : List Operation} (h : Unremoved id d (done ++ rest)) :
    Unremoved id d done := by
  induction done generalizing d with
  | nil => trivial
  | cons operation done ih => exact ⟨h.1, ih h.2⟩

/-- A role that no call removes is what the accepted edits have made of it. -/
theorem find?_foldl_apply (hfind : d.roles.find? id = some current) {operations : List Operation}
    (hkeep : Unremoved id d operations) :
    (operations.foldl apply d).roles.find? id = some (revised current (edits id d operations)) := by
  induction operations generalizing d current with
  | nil => exact hfind
  | cons operation rest ih =>
    rw [List.foldl_cons, edits, revised_append]
    exact ih (find?_apply hfind hkeep.1) hkeep.2

/-! ## Versions that accepted edits expect -/

/-- The versions that edits expect, as far as they expect one, stand in increasing order. -/
def ExpectIncreasing (es : List Edit) : Prop :=
  es.Pairwise fun e f => ∀ v w, e.expected = .exactly v → f.expected = .exactly w →
    v.toNat < w.toNat

/-- Accepted edits expect the stored version or later ones, each time a later one. -/
theorem expectIncreasing_edits (hfind : d.roles.find? id = some current)
    {operations : List Operation} (hkeep : Unremoved id d operations)
    (hfew : current.version.toNat + (edits id d operations).length < UInt64.size) :
    (∀ e ∈ edits id d operations, ∀ v, e.expected = .exactly v →
      current.version.toNat ≤ v.toNat) ∧ ExpectIncreasing (edits id d operations) := by
  induction operations generalizing d current with
  | nil => exact ⟨fun e he => absurd he List.not_mem_nil, List.Pairwise.nil⟩
  | cons operation rest ih =>
    have hnext := find?_apply hfind hkeep.1
    rw [edits] at hfew ⊢
    cases haccepted : d.accepted? id operation with
    | none =>
      rw [haccepted] at hnext hfew
      exact ih hnext hkeep.2 hfew
    | some e =>
      rw [haccepted, Option.toList_some] at hnext
      rw [haccepted, Option.toList_some, List.singleton_append, List.length_cons] at hfew
      rw [Option.toList_some, List.singleton_append]
      -- the accepted edit has used the version up: the later ones start above it
      have hversion : (revised current [e]).version.toNat = current.version.toNat + 1 :=
        version_revise e.accessRights e.now (by omega)
      obtain ⟨hle, hincreasing⟩ := ih hnext hkeep.2 (by omega)
      obtain ⟨-, haccepts⟩ := (accepted?_eq_some_iff hfind).1 haccepted
      have hexact : ∀ v, e.expected = .exactly v → v = current.version := by
        intro v hv
        rw [hv] at haccepts
        exact of_decide_eq_true haccepts
      refine ⟨?_, List.pairwise_cons.2 ⟨?_, hincreasing⟩⟩
      · intro f hf v hv
        rcases List.mem_cons.1 hf with rfl | hf
        · exact Nat.le_of_eq (congrArg UInt64.toNat (hexact v hv).symm)
        · have := hle f hf v hv
          omega
      · intro f hf v w hv hw
        have := hle f hf w hw
        rw [hexact v hv]
        omega

/-- Of edits that expect increasing versions, at most one expects a given version. -/
theorem ExpectIncreasing.length_filter_le_one {es : List Edit} (h : ExpectIncreasing es)
    (version : UInt64) : (es.filter fun e => e.expected = .exactly version).length ≤ 1 := by
  have hfiltered := List.Pairwise.filter (fun e => decide (e.expected = .exactly version)) h
  have hmem : ∀ e ∈ es.filter fun e => e.expected = .exactly version,
      e.expected = .exactly version := by
    intro e he
    exact of_decide_eq_true (List.mem_filter.1 he).2
  cases hes : es.filter fun e => e.expected = .exactly version with
  | nil => exact Nat.zero_le 1
  | cons e rest =>
    cases rest with
    | nil => exact Nat.le_refl 1
    | cons f rest =>
      rw [hes] at hfiltered hmem
      have hlt := (List.pairwise_cons.1 hfiltered).1 f List.mem_cons_self version version
        (hmem e List.mem_cons_self) (hmem f (List.mem_cons_of_mem _ List.mem_cons_self))
      exact absurd hlt (Nat.lt_irrefl _)

/-- Two stages of one run at which as many edits have been accepted have had the same ones. -/
theorem edits_eq_of_length_eq {operations done rest read unread : List Operation}
    (hdone : operations = done ++ rest) (hread : operations = read ++ unread)
    (hlength : (edits id d read).length = (edits id d done).length) :
    edits id d read = edits id d done := by
  have hprefix : edits id d read <+: edits id d operations := by
    rw [hread, edits_append]
    exact List.prefix_append _ _
  have hprefix' : edits id d done <+: edits id d operations := by
    rw [hdone, edits_append]
    exact List.prefix_append _ _
  exact (List.prefix_of_prefix_length_le hprefix hprefix' (Nat.le_of_eq hlength)).eq_of_length
    hlength

/-! ## From an insertion of a role to its next removal -/

/--
Calls from one that stores a role to the next one that removes it, with fewer accepted
edits than there are versions left.
-/
structure Stretch (start : Directory) (id : RoleId) (role : Role) (calls : List Operation) :
    Prop where
  /-- The directory is that after a run whose last call has stored the role. -/
  inserted : ∃ before insertion, (run before).roles.find? id = none ∧
    start = run (before ++ [insertion])
  stored : start.roles.find? id = some role
  unremoved : Unremoved id start calls
  few : (edits id start calls).length < UInt64.size - role.version.toNat

/-- How an edit of a stored role is answered. -/
structure Answered (d : Directory) (id : RoleId) (current : Role) (e : Edit) : Prop where
  /-- An edit that expects no version is accepted. -/
  any : e.expected = .any → ∃ answer, d.edit id e = .ok answer
  /-- An edit that expects a version is accepted exactly at that version. -/
  exactly : ∀ version, e.expected = .exactly version →
    ((∃ answer, d.edit id e = .ok answer) ↔ version = current.version)
  /-- At another version it clashes and changes nothing. -/
  stale : ∀ version, e.expected = .exactly version → version ≠ current.version →
    d.edit id e = .error (.conflict (.staleVersion version current.version)) ∧
      d.after (d.edit id e) = d

theorem answered_edit (hfind : d.roles.find? id = some current) : Answered d id current e where
  any hany := ⟨_, edit_of_accepts hfind (by rw [hany]; rfl)⟩
  exactly version hexactly := by
    constructor
    · rintro ⟨answer, hanswer⟩
      have haccepts : e.expected.accepts current.version = true := by
        rw [← isOk_edit hfind, hanswer]
        rfl
      rw [hexactly] at haccepts
      exact of_decide_eq_true haccepts
    · rintro rfl
      exact ⟨_, edit_of_accepts hfind (by rw [hexactly]; exact decide_eq_true rfl)⟩
  stale version hexactly hne := by
    have hclash := edit_of_ne hfind hexactly hne
    exact ⟨hclash, by rw [hclash]; rfl⟩

namespace Stretch

variable {start : Directory} {calls done rest read unread : List Operation}

/-- At every stage of a stretch the role is what the accepted edits have made of it. -/
theorem find?_stage (h : Stretch start id role calls) (hdone : calls = done ++ rest) :
    (done.foldl apply start).roles.find? id = some (revised role (edits id start done)) :=
  find?_foldl_apply h.stored (hdone ▸ h.unremoved).of_append

/-- No stage of a stretch uses the versions up. -/
theorem version_lt (h : Stretch start id role calls) (hdone : calls = done ++ rest) :
    role.version.toNat + (edits id start done).length < UInt64.size := by
  have hfew := h.few
  have hrole := role.version.toNat_lt_size
  rw [hdone, edits_append, List.length_append] at hfew
  omega

theorem editedBy_stage (h : Stretch start id role calls) (hdone : calls = done ++ rest) :
    EditedBy role (edits id start done) (revised role (edits id start done)) :=
  editedBy_revised (h.version_lt hdone)

/-- A version is that of one snapshot, at whatever stages it is read. -/
theorem revised_eq_of_version_eq (h : Stretch start id role calls) (hdone : calls = done ++ rest)
    (hread : calls = read ++ unread)
    (hversion : (revised role (edits id start read)).version
      = (revised role (edits id start done)).version) :
    revised role (edits id start read) = revised role (edits id start done) := by
  have hcounts := congrArg UInt64.toNat hversion
  rw [(h.editedBy_stage hread).version, (h.editedBy_stage hdone).version] at hcounts
  rw [edits_eq_of_length_eq hdone hread (by omega)]

end Stretch

/--
**No accepted edit is lost unseen.**  At every stage between an insertion of a role and
its next removal, the role is what the accepted edits have made of it, and an edit is
accepted exactly when it expects no version or the one that is stored, and otherwise
clashes and changes nothing.  Of the edits that expect one version, however many calls
make them, at most one is accepted, and it replaces the snapshot that was read at that
version, at whatever stage it was read.
-/
theorem edits_of_stretch {start : Directory} {calls : List Operation}
    (h : Stretch start id role calls) :
    (∀ done rest, calls = done ++ rest →
      ∃ current, (done.foldl apply start).resolveRole id = .ok current ∧
        EditedBy role (edits id start done) current ∧
        ∀ call e, call.edit? id = some e →
          (done.foldl apply start).apply call
              = (done.foldl apply start).after ((done.foldl apply start).edit id e) ∧
            Answered (done.foldl apply start) id current e) ∧
    ∀ version,
      ((edits id start calls).filter fun e => e.expected = .exactly version).length ≤ 1 ∧
      ∀ done rest, calls = done ++ rest → ∀ call e answer, call.edit? id = some e →
        e.expected = .exactly version → (done.foldl apply start).edit id e = .ok answer →
        ∀ read unread snapshot, calls = read ++ unread →
          (read.foldl apply start).resolveRole id = .ok snapshot → snapshot.version = version →
          (done.foldl apply start).resolveRole id = .ok snapshot ∧
            ((done.foldl apply start).apply call).resolveRole id
              = .ok (snapshot.revise e.accessRights e.now) := by
  constructor
  · intro done rest hdone
    have hfind := h.find?_stage hdone
    refine ⟨_, resolveRole_eq_ok_iff.2 hfind, h.editedBy_stage hdone, ?_⟩
    intro call e hedit
    exact ⟨apply_of_edit? hedit, answered_edit hfind⟩
  · intro version
    constructor
    · have hbound := h.version_lt (List.append_nil calls).symm
      exact (expectIncreasing_edits h.stored h.unremoved hbound).2.length_filter_le_one version
    · intro done rest hdone call e answer hedit hexactly hanswer read unread snapshot hread
        hsnapshot hversion
      have hfind := h.find?_stage hdone
      -- the edit was accepted, so the stored version is the one that was read
      have hstored := ((answered_edit hfind).exactly version hexactly).1 ⟨answer, hanswer⟩
      rw [resolveRole_eq_ok_iff, h.find?_stage hread, Option.some.injEq] at hsnapshot
      subst hsnapshot
      have hsame := h.revised_eq_of_version_eq hdone hread (hversion.trans hstored)
      have haccepts : e.expected.accepts (revised role (edits id start done)).version = true := by
        rw [hexactly]
        exact decide_eq_true hstored
      rw [hsame, resolveRole_eq_ok_iff, resolveRole_eq_ok_iff]
      refine ⟨hfind, ?_⟩
      rw [apply_of_edit? hedit, find?_after_edit hfind, if_pos haccepts]

/-! ## Two edits from one version -/

/-- A role without rights. -/
def auditor : Role := ⟨⟨.ofNat 3⟩, "auditor", .empty, .epoch, .epoch, 0, by decide⟩

/-- Two edits of it by callers who have both read its first version. -/
def rivalEdits : List Operation :=
  [.updateRole auditor.id (.exactly 0) .full .epoch,
    .updateRole auditor.id (.exactly 0) .empty .epoch]

theorem stretch_rivalEdits : Stretch (run [.insertRole auditor]) auditor.id auditor rivalEdits where
  inserted := ⟨[], .insertRole auditor, rfl, rfl⟩
  stored := rfl
  unremoved := ⟨id, id, trivial⟩
  few := by decide

/-- The law where two callers edit from one version: the first edit stays, the second clashes. -/
theorem edits_of_rivalEdits :
    Stretch (run [.insertRole auditor]) auditor.id auditor rivalEdits ∧
      ((edits auditor.id (run [.insertRole auditor]) rivalEdits).filter fun e =>
        e.expected = .exactly 0).length ≤ 1 ∧
      ∃ current, (rivalEdits.foldl apply (run [.insertRole auditor])).resolveRole auditor.id
          = .ok current ∧
        current.version.toNat = 1 ∧ current.accessRights = .full := by
  obtain ⟨hstage, hversion⟩ := edits_of_stretch stretch_rivalEdits
  obtain ⟨current, hcurrent, hedited, -⟩ := hstage rivalEdits [] rfl
  exact ⟨stretch_rivalEdits, (hversion 0).1, current, hcurrent, hedited.version,
    hedited.accessRights⟩

end AccessControl.Directory
