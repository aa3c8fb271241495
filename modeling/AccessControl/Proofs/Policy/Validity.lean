/-
# Valid policy documents

What makes a document valid is said of the document alone: no role is declared
twice, every matrix is complete and every role named, every principal names a
declared role, and no login is declared twice.  The checks that are made before a
document is installed pass exactly then, with one role for every declaration.
-/
import AccessControl.Policy
import AccessControl.Proofs.Rights.Stored

namespace AccessControl

/-- What holds of a document that can be installed. -/
structure PolicyDocument.Valid (document : PolicyDocument) : Prop where
  /-- No role name occurs twice. -/
  role_names : (document.roles.map DeclaredRole.name).Nodup
  /-- The matrix of a declared role is complete. -/
  matrices : ∀ r ∈ document.roles, CompleteMatrix r.accessRights
  /-- The name of a declared role holds more than blanks. -/
  role_named : ∀ r ∈ document.roles, ¬ Text.IsBlank r.name
  /-- A principal names a role that the document declares. -/
  references : ∀ p ∈ document.principals, ∃ r ∈ document.roles, r.name = p.role
  /-- No login occurs twice. -/
  logins : (document.principals.map DeclaredPrincipal.login).Nodup

/-- A role is what a declaration says, at version zero and with one instant as both its times. -/
structure DeclaredRole.Makes (declared : DeclaredRole) (now : Instant) (role : Role) : Prop where
  name : role.name = declared.name
  /-- The matrix is that of the declaration, cell by cell. -/
  cells : ∀ (r : Resource) (a : Action),
    cell? declared.accessRights r.name a.name = some (.bool (role.accessRights.allows r a))
  version : role.version = 0
  createdAt : role.createdAt = now
  updatedAt : role.updatedAt = now

/-- Some roles are those that a document declares, each with the identifier of its place. -/
def PolicyDocument.Declares (document : PolicyDocument) (ids : Nat → RoleId) (now : Instant)
    (roles : List Role) : Prop :=
  List.Forall₂ (fun place role => place.1.Makes now role ∧ role.id = ids place.2)
    document.roles.zipIdx roles

/-! ## No name twice -/

/-- The keys of a list differ when none of them is the key of an earlier item. -/
theorem nodup_map_iff_zipIdx {α β : Type} [DecidableEq β] {key : α → β} {items : List α} :
    (items.map key).Nodup ↔ ∀ place ∈ items.zipIdx,
      ((items.take place.2).any fun earlier => key earlier = key place.1) = false := by
  rw [List.Nodup, List.pairwise_map, List.pairwise_iff_getElem]
  constructor
  · rintro h ⟨item, n⟩ hmem
    rw [List.mk_mem_zipIdx_iff_getElem?, List.getElem?_eq_some_iff] at hmem
    obtain ⟨hn, rfl⟩ := hmem
    rw [List.any_eq_false]
    intro earlier hearlier hsame
    obtain ⟨m, hm, rfl⟩ := List.mem_take_iff_getElem.1 hearlier
    exact h m n (by omega) hn (by omega) (of_decide_eq_true hsame)
  · intro h m n hm hn hlt hsame
    have hplace := h (items[n], n) (List.mem_zipIdx_iff_getElem?.2 (List.getElem?_eq_getElem hn))
    rw [List.any_eq_false] at hplace
    exact hplace items[m] (List.mem_take_iff_getElem.2 ⟨m, by omega, rfl⟩) (decide_eq_true hsame)

/-- What holds of every item holds of every place. -/
theorem forall_mem_zipIdx_iff {α : Type} {items : List α} {P : α → Prop} :
    (∀ place ∈ items.zipIdx, P place.1) ↔ ∀ item ∈ items, P item := by
  have hplaces := List.forall_mem_map (f := Prod.fst) (l := items.zipIdx) (P := P)
  rw [List.zipIdx_map_fst] at hplaces
  exact hplaces.symm

/-- Items that correspond have the same traits, in the same order. -/
theorem map_eq_map_of_forall₂ {α β γ : Type} {R : α → β → Prop} {f : α → γ} {g : β → γ}
    {items : List α} {others : List β} (h : List.Forall₂ R items others)
    (hR : ∀ a b, R a b → g b = f a) : others.map g = items.map f := by
  induction h with
  | nil => rfl
  | cons hab _ ih => rw [List.map_cons, List.map_cons, hR _ _ hab, ih]

/-! ## Loading a declared role -/

namespace DeclaredRole

variable {declared : DeclaredRole} {id : RoleId} {now : Instant}

/-- A declared role can be loaded when its matrix is complete and its name is not blank. -/
theorem exists_load_eq_ok_iff :
    (∃ role, Role.load id (declared.record now) = .ok role) ↔
      CompleteMatrix declared.accessRights ∧ ¬ Text.IsBlank declared.name := by
  rw [← AccessRights.exists_ofValue_eq_ok_iff]
  constructor
  · rintro ⟨role, hload⟩
    obtain ⟨hrights, -, hname, -⟩ := Role.load_eq_ok_iff.1 hload
    have hname : role.name = declared.name := hname
    exact ⟨⟨_, hrights⟩, hname ▸ role.named⟩
  · rintro ⟨⟨rights, hrights⟩, hnamed⟩
    exact ⟨⟨id, declared.name, rights, now, now, 0, hnamed⟩,
      Role.load_eq_ok_iff.2 ⟨hrights, rfl, rfl, rfl, rfl, rfl⟩⟩

/-- A declared role is loaded as what it makes. -/
theorem makes_of_load {role : Role} (h : Role.load id (declared.record now) = .ok role) :
    declared.Makes now role ∧ role.id = id := by
  obtain ⟨hrights, hid, hname, hcreated, hupdated, hversion⟩ := Role.load_eq_ok_iff.1 h
  exact ⟨⟨hname, AccessRights.cell?_of_ofValue hrights, hversion, hcreated, hupdated⟩, hid⟩

end DeclaredRole

/-- A role that cannot be loaded has a defect. -/
theorem Role.malformed_of_load {id : RoleId} {record : RoleRecord} {error : AuthorizationError}
    (h : load id record = .error error) : ∃ defect, error = .malformedPolicy defect := by
  rcases load_eq_error_iff.1 h with ⟨defect, -, rfl⟩ | ⟨-, -, rfl⟩
  · exact ⟨_, rfl⟩
  · exact ⟨_, rfl⟩

namespace PolicyDocument

variable {document : PolicyDocument} {ids : Nat → RoleId} {now : Instant} {roles : List Role}

/-! ## The checks of a document -/

/-- The role of a place is built when its name is new there and its declaration can be loaded. -/
theorem buildRole_eq_ok_iff {place : DeclaredRole × Nat} {role : Role} :
    document.buildRole ids now place = .ok role ↔
      ((document.roles.take place.2).any fun earlier => earlier.name = place.1.name) = false ∧
        Role.load (ids place.2) (place.1.record now) = .ok role := by
  unfold buildRole
  cases (document.roles.take place.2).any fun earlier => earlier.name = place.1.name <;> simp

theorem malformed_of_buildRole {place : DeclaredRole × Nat} {error : AuthorizationError}
    (h : document.buildRole ids now place = .error error) :
    ∃ defect, error = .malformedPolicy defect := by
  unfold buildRole at h
  split at h
  · cases h
    exact ⟨_, rfl⟩
  · exact Role.malformed_of_load h

/-- All roles are built when no name occurs twice and every declaration can be loaded. -/
theorem exists_buildRoles_eq_ok_iff :
    (∃ roles, document.buildRoles ids now = .ok roles) ↔
      (document.roles.map DeclaredRole.name).Nodup ∧
        ∀ r ∈ document.roles, CompleteMatrix r.accessRights ∧ ¬ Text.IsBlank r.name := by
  unfold buildRoles
  simp only [exists_mapM_eq_ok_iff, buildRole_eq_ok_iff, exists_and_left,
    DeclaredRole.exists_load_eq_ok_iff]
  rw [nodup_map_iff_zipIdx, ← forall_mem_zipIdx_iff
    (P := fun r : DeclaredRole => CompleteMatrix r.accessRights ∧ ¬ Text.IsBlank r.name)]
  exact forall₂_and

theorem declares_of_buildRoles (h : document.buildRoles ids now = .ok roles) :
    document.Declares ids now roles := by
  refine (mapM_eq_ok_iff.1 h).imp ?_
  intro place role hbuilt
  exact DeclaredRole.makes_of_load (buildRole_eq_ok_iff.1 hbuilt).2

/-- Every principal names a declared role when no orphan is found. -/
theorem orphan?_eq_none_iff :
    document.orphan? = none ↔ ∀ p ∈ document.principals, ∃ r ∈ document.roles, r.name = p.role := by
  simp [orphan?]

/-- No login occurs twice when none is found that does. -/
theorem duplicateLogin?_eq_none_iff :
    document.duplicateLogin? = none ↔
      (document.principals.map DeclaredPrincipal.login).Nodup := by
  rw [nodup_map_iff_zipIdx, duplicateLogin?, Option.map_eq_none_iff, List.find?_eq_none]
  simp only [Bool.not_eq_true]

/-- A document passes the checks when its roles are built and nothing is found. -/
theorem validate_eq_ok_iff :
    document.validate ids now = .ok roles ↔
      document.buildRoles ids now = .ok roles ∧ document.orphan? = none ∧
        document.duplicateLogin? = none := by
  unfold validate
  cases document.buildRoles ids now with
  | error error => simp [bind, Except.bind]
  | ok built =>
    cases document.orphan? with
    | some p => simp [bind, Except.bind, throw, throwThe, MonadExceptOf.throw]
    | none =>
      cases document.duplicateLogin? with
      | some p => simp [bind, Except.bind, throw, throwThe, MonadExceptOf.throw]
      | none => simp [bind, Except.bind, pure, Except.pure]

/-- **The checks pass exactly for the valid documents**, with any identifiers at any instant. -/
theorem exists_validate_eq_ok_iff :
    (∃ roles, document.validate ids now = .ok roles) ↔ document.Valid := by
  simp only [validate_eq_ok_iff, orphan?_eq_none_iff, duplicateLogin?_eq_none_iff,
    exists_and_right, exists_buildRoles_eq_ok_iff]
  constructor
  · rintro ⟨⟨hnames, hroles⟩, hreferences, hlogins⟩
    exact ⟨hnames, fun r hr => (hroles r hr).1, fun r hr => (hroles r hr).2, hreferences, hlogins⟩
  · intro h
    exact ⟨⟨h.role_names, fun r hr => ⟨h.matrices r hr, h.role_named r hr⟩⟩, h.references,
      h.logins⟩

theorem declares_of_validate (h : document.validate ids now = .ok roles) :
    document.Declares ids now roles :=
  declares_of_buildRoles (validate_eq_ok_iff.1 h).1

/-- A check that does not pass says what is wrong with the document. -/
theorem malformed_of_validate {error : AuthorizationError}
    (h : document.validate ids now = .error error) : ∃ defect, error = .malformedPolicy defect := by
  unfold validate at h
  rcases bind_eq_error_iff.1 h with hbuild | ⟨built, -, h⟩
  · obtain ⟨place, -, hplace⟩ := exists_of_mapM_eq_error hbuild
    exact malformed_of_buildRole hplace
  · cases horphan : document.orphan? with
    | some p =>
      rw [horphan] at h
      cases h
      exact ⟨_, rfl⟩
    | none =>
      rw [horphan] at h
      cases hduplicate : document.duplicateLogin? with
      | some p =>
        rw [hduplicate] at h
        cases h
        exact ⟨_, rfl⟩
      | none =>
        rw [hduplicate] at h
        cases h

/-! ## The declared roles of a document -/

namespace Declares

/-- Every declaration makes one of the roles, in order. -/
theorem makes (h : document.Declares ids now roles) :
    List.Forall₂ (fun declared role => declared.Makes now role) document.roles roles := by
  rw [← List.zipIdx_map_fst 0 document.roles, List.forall₂_map_left_iff]
  exact h.imp fun _ _ hplace => hplace.1

theorem names (h : document.Declares ids now roles) :
    roles.map Role.name = document.roles.map DeclaredRole.name :=
  map_eq_map_of_forall₂ h.makes fun _ _ hmakes => hmakes.name

theorem roleIds (h : document.Declares ids now roles) :
    roles.map Role.id = (List.range document.roles.length).map ids := by
  rw [map_eq_map_of_forall₂ (f := fun place : DeclaredRole × Nat => ids place.2) h
    fun _ _ hplace => hplace.2, List.range_eq_range', ← List.zipIdx_map_snd, List.map_map]
  rfl

end Declares

end PolicyDocument

end AccessControl
