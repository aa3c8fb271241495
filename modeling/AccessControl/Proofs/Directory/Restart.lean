/-
# Installing a document again

A program installs its policy document each time it starts.  From the second time on
this does nothing: the first declared role clashes with the one that was installed, as
names stay taken whatever edits, registrations and further installations come in
between, and nothing is written before the clash.  A document without roles declares no
principals either, since each of them would have to name a role.
-/
import AccessControl.Proofs.Directory.Installation

namespace AccessControl

namespace Directory

variable {d d' d'' : Directory}

/-! ## Names stay taken -/

/-- Whether an operation asks for the removal of a role. -/
def Operation.removes : Operation → Bool
  | .removeRole _ => true
  | .deleteRole _ _ => true
  | _ => false

/-- Every role name that is taken in one directory is taken in another. -/
def NamesStay (d d' : Directory) : Prop :=
  ∀ name, d.hasRoleName name = true → d'.hasRoleName name = true

theorem NamesStay.refl (d : Directory) : NamesStay d d := fun _ h => h

theorem NamesStay.trans (h : NamesStay d d') (h' : NamesStay d' d'') : NamesStay d d'' :=
  fun name htaken => h' name (h name htaken)

theorem namesStay_of_roles_eq (h : d'.roles = d.roles) : NamesStay d d' := by
  intro name htaken
  rw [hasRoleName, h]
  exact htaken

theorem namesStay_of_insertRole {role stored : Role}
    (h : d.insertRole role = .ok (stored, d')) : NamesStay d d' := fun _ htaken =>
  (Grown.of_insertRole h).hasRoleName_eq_true_iff.2 (.inl htaken)

/-- A revised role has the name that it had. -/
theorem namesStay_of_updateRole {roleId : RoleId} {expected : ExpectedVersion}
    {accessRights : AccessRights} {now : Instant} {stored : Role}
    (h : d.updateRole roleId expected accessRights now = .ok (stored, d')) : NamesStay d d' := by
  obtain ⟨current, hcurrent, -, rfl, rfl⟩ := updateRole_eq_ok_iff.1 h
  intro name htaken
  obtain ⟨id, role, hfind, hname⟩ := hasRoleName_eq_true_iff.1 htaken
  rw [hasRoleName_eq_true_iff]
  by_cases hid : id = roleId
  · rw [hid, hcurrent, Option.some.injEq] at hfind
    subst hfind
    exact ⟨roleId, _, Table.find?_insert_eq_some_iff.2 (.inl ⟨rfl, rfl⟩), hname⟩
  · exact ⟨id, role, Table.find?_insert_eq_some_iff.2 (.inr ⟨hid, hfind⟩), hname⟩

/-- Names stay taken when a document is installed, however far that comes. -/
theorem namesStay_bootstrap (d : Directory) (document : PolicyDocument) (supply : Supply)
    (now : Instant) : NamesStay d (bootstrap d document supply now).2 :=
  bootstrap_induction document supply now
    (fun _ _ _ _ hstay h => hstay.trans (namesStay_of_insertRole h))
    (fun _ _ _ _ hstay h => hstay.trans (namesStay_of_roles_eq (roles_of_insertPrincipal h)))
    (.refl d)

/-- An operation that does not ask for a removal leaves every name taken. -/
theorem namesStay_apply (d : Directory) {operation : Operation}
    (h : operation.removes = false) : NamesStay d (d.apply operation) := by
  cases operation with
  | insertRole role => exact after_induction (.refl d) fun _ _ h => namesStay_of_insertRole h
  | updateRole roleId expected accessRights now =>
    exact after_induction (.refl d) fun _ _ h => namesStay_of_updateRole h
  | removeRole roleId => cases h
  | insertPrincipal p =>
    rw [apply]
    cases hinsert : d.insertPrincipal p with
    | error error => exact .refl d
    | ok written => exact namesStay_of_roles_eq (roles_of_insertPrincipal hinsert)
  | bootstrap document supply now => exact namesStay_bootstrap d document supply now
  | createRole actor id name accessRights now =>
    apply after_induction (.refl d)
    intro stored d' h
    obtain ⟨-, role, -, hinsert⟩ := createRole_eq_ok_iff.1 h
    exact namesStay_of_insertRole hinsert
  | editRole actor roleId expected accessRights now =>
    apply after_induction (.refl d)
    intro stored d' h
    exact namesStay_of_updateRole (editRole_eq_ok_iff.1 h).2
  | deleteRole actor roleId => cases h
  | viewRole actor roleId => exact .refl d
  | listRoles actor => exact .refl d

/-- Operations without a removal leave every name taken. -/
theorem namesStay_foldl (d : Directory) {operations : List Operation}
    (h : ∀ operation ∈ operations, operation.removes = false) :
    NamesStay d (operations.foldl apply d) := by
  induction operations generalizing d with
  | nil => exact .refl d
  | cons operation rest ih =>
    obtain ⟨hfirst, hrest⟩ := List.forall_mem_cons.1 h
    exact (namesStay_apply d hfirst).trans (ih (d.apply operation) hrest)

/-- A role with a name that is taken is refused, for its identifier or for its name. -/
theorem insertRole_of_hasRoleName {role : Role} (h : d.hasRoleName role.name = true) :
    d.insertRole role = .error (.conflict
      (if d.roles.contains role.id then .roleExists role.id else .roleNameTaken role.name)) := by
  unfold insertRole
  cases d.roles.contains role.id <;> simp [h]

end Directory

namespace PolicyDocument

variable {document : PolicyDocument} {supply : Supply} {now : Instant} {d : Directory}
  {installed : Installation} {roles : List Role}

/-! ## What an installation takes -/

/-- An installation that succeeds has checked the document and taken all its names. -/
theorem hasRoleName_of_bootstrap (h : (bootstrap d document supply now).1 = .ok installed) :
    document.Valid ∧ ∀ r ∈ document.roles,
      (bootstrap d document supply now).2.hasRoleName r.name = true := by
  cases hchecks : document.validate supply.roleId now with
  | error error =>
    rw [bootstrap, hchecks] at h
    cases h
  | ok roles =>
    refine ⟨exists_validate_eq_ok_iff.1 ⟨roles, hchecks⟩, fun r hr => ?_⟩
    cases hinsert : Bootstrap.insertRoles roles ⟨[], []⟩ d with
    | mk answer middle =>
      cases answer with
      | error error =>
        rw [bootstrap_of_insertRoles_error hchecks hinsert] at h
        cases h
      | ok recorded =>
        rw [bootstrap_of_insertRoles hchecks hinsert]
        apply Directory.namesStay_of_roles_eq (Directory.roles_insertPrincipals _ recorded middle)
        -- the roles have been registered under the names that the document declares
        have hmem : r.name ∈ roles.map Role.name := by
          rw [(declares_of_validate hchecks).names]
          exact List.mem_map_of_mem hr
        obtain ⟨role, hrole, hname⟩ := List.mem_map.1 hmem
        have hgrown := (Bootstrap.grown_of_insertRoles hinsert).1
        exact hgrown.hasRoleName_eq_true_iff.2 (.inr ⟨role, hrole, hname⟩)

/-! ## What a second installation does -/

/-- A valid document whose first name is taken is refused before anything is written. -/
theorem bootstrap_of_hasRoleName (hvalid : document.Valid) {first : DeclaredRole}
    {rest : List DeclaredRole} (hroles : document.roles = first :: rest)
    (htaken : d.hasRoleName first.name = true) :
    bootstrap d document supply now = (.error (.conflict
      (if d.roles.contains (supply.roleId 0) then .roleExists (supply.roleId 0)
        else .roleNameTaken first.name)), d) := by
  have hchecks : ∃ roles, document.validate supply.roleId now = .ok roles :=
    exists_validate_eq_ok_iff.2 hvalid
  obtain ⟨built, hchecks⟩ := hchecks
  have hdeclares := declares_of_validate hchecks
  rw [Declares, hroles, List.zipIdx_cons] at hdeclares
  obtain ⟨role, others, ⟨hmakes, hid⟩, -, rfl⟩ := List.forall₂_cons_left_iff.1 hdeclares
  have hsame : role.name = first.name := hmakes.name
  have hrefused : RoleStore.insertRole d role = .error (.conflict
      (if d.roles.contains (supply.roleId 0) then .roleExists (supply.roleId 0)
        else .roleNameTaken first.name)) := by
    rw [← hsame] at htaken
    have hconflict := Directory.insertRole_of_hasRoleName htaken
    rwa [hid, hsame] at hconflict
  apply bootstrap_of_insertRoles_error hchecks
  rw [Bootstrap.insertRoles, hrefused]

/-- A valid document without roles declares nothing, and nothing is written. -/
theorem bootstrap_of_roles_eq_nil (hvalid : document.Valid) (hroles : document.roles = []) :
    bootstrap d document supply now = (.ok ⟨[], []⟩, d) := by
  have hprincipals : document.principals = [] := by
    rw [List.eq_nil_iff_forall_not_mem]
    intro p hp
    obtain ⟨r, hr, -⟩ := hvalid.references p hp
    rw [hroles] at hr
    cases hr
  obtain ⟨declaredRoles, declaredPrincipals⟩ := document
  subst hroles hprincipals
  rfl

/--
**Installing a document again does nothing.**  Once a document has been installed in a
directory that calls lead to, and after any operations but removals, further
installations among them, installing it again leaves the directory exactly as it is,
whatever it is supplied with.  It is refused for the clash of its first role when it
declares one, and there is nothing to install when it does not.
-/
theorem bootstrap_again (before later : List Directory.Operation) (document : PolicyDocument)
    (supply again : Supply) (first second : Instant) (installed : Installation)
    (hfirst : (bootstrap (Directory.run before) document supply first).1 = .ok installed)
    (hlater : ∀ operation ∈ later, operation.removes = false) :
    let d := later.foldl Directory.apply (bootstrap (Directory.run before) document supply first).2
    (bootstrap d document again second).2 = d ∧
      (∀ r rest, document.roles = r :: rest →
        (bootstrap d document again second).1 = .error (.conflict
          (if d.roles.contains (again.roleId 0) then .roleExists (again.roleId 0)
            else .roleNameTaken r.name))) ∧
      (document.roles = [] → (bootstrap d document again second).1 = .ok ⟨[], []⟩) := by
  intro d
  obtain ⟨hvalid, htaken⟩ := hasRoleName_of_bootstrap hfirst
  have hstay := Directory.namesStay_foldl
    (bootstrap (Directory.run before) document supply first).2 hlater
  have hclash : ∀ r rest, document.roles = r :: rest →
      bootstrap d document again second = (.error (.conflict
        (if d.roles.contains (again.roleId 0) then .roleExists (again.roleId 0)
          else .roleNameTaken r.name)), d) := fun r rest hroles =>
    bootstrap_of_hasRoleName hvalid hroles (hstay r.name (htaken r (by rw [hroles]; simp)))
  refine ⟨?_, fun r rest hroles => ?_, fun hroles => ?_⟩
  · cases hroles : document.roles with
    | nil => rw [bootstrap_of_roles_eq_nil hvalid hroles]
    | cons r rest => rw [hclash r rest hroles]
  · rw [hclash r rest hroles]
  · rw [bootstrap_of_roles_eq_nil hvalid hroles]

/-- Other identifiers that are counted upwards. -/
def countingOn : Supply :=
  ⟨fun place => ⟨.ofNat (200 + place)⟩, fun place => ⟨.ofNat (200 + place)⟩⟩

/-- A document with one role, which has all rights, and one principal. -/
def lone : PolicyDocument := ⟨[⟨"keeper", AccessRights.full.toValue⟩], [⟨"vasya", "keeper"⟩]⟩

/-- The law after an edit: a role that has lost its rights does not get them back. -/
theorem bootstrap_again_lone :
    let edit := Directory.Operation.updateRole (counting.roleId 0) .any .empty .epoch
    let d := (bootstrap Directory.empty lone counting .epoch).2.apply edit
    (d.roles.find? (counting.roleId 0)).map Role.accessRights = some .empty ∧
      bootstrap d lone countingOn .epoch
        = (.error (.conflict (.roleNameTaken "keeper")), d) := by
  intro edit d
  obtain ⟨hsame, hclash, -⟩ := bootstrap_again [] [edit] lone counting countingOn .epoch .epoch
    ⟨[("keeper", counting.roleId 0)], [("vasya", counting.principalId 0)]⟩ rfl
    (by simp [Directory.Operation.removes, edit])
  exact ⟨by decide +kernel, Prod.ext (hclash _ _ rfl) hsame⟩

end PolicyDocument

end AccessControl
