/-
# Installing a policy document

A document is checked before anything is written, so what is wrong with the document
itself leaves the directory as it was.  A valid document is installed completely when
the directory has none of its names and logins; the new directory is then the old one
with one role and one principal for every declaration, and nothing else.

The writes are not undone when one of them fails.  A name or a login that is in use
ends the installation where it is met, and what was declared before it stays.
-/
import AccessControl.Bootstrap
import AccessControl.Proofs.Directory.Growth
import AccessControl.Proofs.Directory.Permanence
import AccessControl.Proofs.Policy.Validity

namespace AccessControl

/-! ## Registering one after the other -/

namespace Bootstrap

variable {d d' : Directory} {installed installed' : Installation} {error : AuthorizationError}

/-- When all roles are registered, they are added, and their names are recorded. -/
theorem grown_of_insertRoles {roles : List Role}
    (h : insertRoles roles installed d = (.ok installed', d')) :
    d.Grown roles [] d' ∧
      installed' = { installed with
        roles := roles.foldl (fun entries role => Keyed.insert role.name role.id entries)
          installed.roles } := by
  induction roles generalizing installed d with
  | nil =>
    cases h
    exact ⟨.refl _, rfl⟩
  | cons role rest ih =>
    rw [insertRoles] at h
    cases hinsert : RoleStore.insertRole d role with
    | error error =>
      rw [hinsert] at h
      cases h
    | ok written =>
      obtain ⟨stored, middle⟩ := written
      rw [hinsert] at h
      obtain ⟨hrest, hinstalled⟩ := ih h
      have hstored : stored = role := (Directory.insertRole_eq_ok_iff.1 hinsert).2.2.1
      subst hstored
      exact ⟨(Directory.Grown.of_insertRole hinsert).trans hrest, hinstalled⟩

/-- When a role is refused, those before it have been added. -/
theorem grown_of_insertRoles_error {roles : List Role}
    (h : insertRoles roles installed d = (.error error, d')) :
    ∃ before role after, roles = before ++ role :: after ∧ d.Grown before [] d' ∧
      d'.insertRole role = .error error := by
  induction roles generalizing installed d with
  | nil => cases h
  | cons role rest ih =>
    rw [insertRoles] at h
    cases hinsert : RoleStore.insertRole d role with
    | error cause =>
      rw [hinsert] at h
      cases h
      exact ⟨[], role, rest, rfl, .refl _, hinsert⟩
    | ok written =>
      obtain ⟨stored, middle⟩ := written
      rw [hinsert] at h
      obtain ⟨before, refused, after, rfl, hgrown, hrefused⟩ := ih h
      exact ⟨role :: before, refused, after, rfl,
        (Directory.Grown.of_insertRole hinsert).trans hgrown, hrefused⟩

/-- A principal is what a declaration says, with the given identifier and that of its role. -/
structure Binds (installed : Installation) (place : DeclaredPrincipal × PrincipalId)
    (p : Principal) : Prop where
  id : p.id = place.2
  login : p.login = place.1.login
  role : installed.roleId? place.1.role = some p.roleId

/-- What is left to register after a principal still has new identifiers. -/
theorem new_of_insertPrincipal {p : Principal} {rest : List (DeclaredPrincipal × PrincipalId)}
    (hgrown : d.Grown [] [p] d') (hp : p.id ∉ rest.map Prod.snd)
    (hnew : ∀ place ∈ rest, d.principals.find? place.2 = none) :
    ∀ place ∈ rest, d'.principals.find? place.2 = none := by
  intro place hmem
  apply hgrown.principals.find?_eq_none_of_forall_ne (hnew place hmem)
  rintro a ha heq
  rw [List.mem_singleton.1 ha] at heq
  exact hp (List.mem_map.2 ⟨place, hmem, heq.symm⟩)

/-- When all principals are registered with new identifiers, they are added. -/
theorem grown_of_insertPrincipals {places : List (DeclaredPrincipal × PrincipalId)}
    (hids : (places.map Prod.snd).Nodup)
    (hnew : ∀ place ∈ places, d.principals.find? place.2 = none)
    (h : insertPrincipals places installed d = (.ok installed', d')) :
    ∃ principals, List.Forall₂ (Binds installed) places principals ∧ d.Grown [] principals d' ∧
      installed' = { installed with
        principals := principals.foldl (fun entries p => Keyed.insert p.login p.id entries)
          installed.principals } := by
  induction places generalizing installed d with
  | nil =>
    cases h
    exact ⟨[], .nil, .refl _, rfl⟩
  | cons place rest ih =>
    obtain ⟨declared, id⟩ := place
    obtain ⟨hfirst, hrestIds⟩ := List.nodup_cons.1 (List.map_cons ▸ hids)
    obtain ⟨hnewFirst, hnewRest⟩ := List.forall_mem_cons.1 hnew
    rw [insertPrincipals] at h
    cases hrole : installed.roleId? declared.role with
    | none =>
      rw [hrole] at h
      cases h
    | some roleId =>
      rw [hrole] at h
      dsimp only at h
      cases hinsert : RoleStore.insertPrincipal d ⟨id, declared.login, roleId⟩ with
      | error error =>
        rw [hinsert] at h
        cases h
      | ok middle =>
        rw [hinsert] at h
        have hgrown : d.Grown [] [⟨id, declared.login, roleId⟩] middle :=
          .of_insertPrincipal hnewFirst hinsert
        obtain ⟨principals, hbinds, hrest, hinstalled⟩ :=
          ih hrestIds (new_of_insertPrincipal hgrown hfirst hnewRest) h
        refine ⟨⟨id, declared.login, roleId⟩ :: principals, .cons ⟨rfl, rfl, hrole⟩ ?_,
          hgrown.trans hrest, hinstalled⟩
        exact hbinds.imp fun _ _ hbind => ⟨hbind.id, hbind.login, hbind.role⟩

/-- When a principal is refused, those before it have been added. -/
theorem grown_of_insertPrincipals_error {places : List (DeclaredPrincipal × PrincipalId)}
    (hids : (places.map Prod.snd).Nodup)
    (hnew : ∀ place ∈ places, d.principals.find? place.2 = none)
    (hroles : ∀ place ∈ places, ∃ roleId, installed.roleId? place.1.role = some roleId ∧
      d.roles.contains roleId = true)
    (h : insertPrincipals places installed d = (.error error, d')) :
    ∃ before place after principals, places = before ++ place :: after ∧
      List.Forall₂ (Binds installed) before principals ∧ d.Grown [] principals d' ∧
      d'.hasLogin place.1.login = true ∧ error = .conflict (.loginTaken place.1.login) := by
  induction places generalizing installed d with
  | nil => cases h
  | cons place rest ih =>
    obtain ⟨declared, id⟩ := place
    obtain ⟨hfirst, hrestIds⟩ := List.nodup_cons.1 (List.map_cons ▸ hids)
    obtain ⟨hnewFirst, hnewRest⟩ := List.forall_mem_cons.1 hnew
    obtain ⟨⟨roleId, hrole, hstored⟩, hrolesRest⟩ := List.forall_mem_cons.1 hroles
    rw [insertPrincipals, hrole] at h
    dsimp only at h
    cases hinsert : RoleStore.insertPrincipal d ⟨id, declared.login, roleId⟩ with
    | error cause =>
      rw [hinsert] at h
      cases h
      obtain ⟨hlogin, hcause⟩ := Directory.loginTaken_of_insertPrincipal hstored hinsert
      exact ⟨[], (declared, id), rest, [], rfl, .nil, .refl _, hlogin, hcause⟩
    | ok middle =>
      rw [hinsert] at h
      have hgrown : d.Grown [] [⟨id, declared.login, roleId⟩] middle :=
        .of_insertPrincipal hnewFirst hinsert
      -- registering a principal leaves the roles
      have hsame : middle.roles = d.roles := Directory.roles_of_insertPrincipal hinsert
      obtain ⟨before, refused, after, principals, rfl, hbinds, hrest, hlogin, hcause⟩ :=
        ih hrestIds (new_of_insertPrincipal hgrown hfirst hnewRest)
          (by rw [hsame]; exact hrolesRest) h
      refine ⟨(declared, id) :: before, refused, after, ⟨id, declared.login, roleId⟩ :: principals,
        rfl, .cons ⟨rfl, rfl, hrole⟩ ?_, hgrown.trans hrest, hlogin, hcause⟩
      exact hbinds.imp fun _ _ hbind => ⟨hbind.id, hbind.login, hbind.role⟩

/-! ## Only the document can be malformed -/

theorem not_malformed_of_insertRoles {roles : List Role}
    (h : insertRoles roles installed d = (.error error, d')) (defect : PolicyDefect) :
    error ≠ .malformedPolicy defect := by
  obtain ⟨_, _, _, -, -, hrefused⟩ := grown_of_insertRoles_error h
  obtain ⟨cause, rfl⟩ := Directory.conflict_of_insertRole hrefused
  simp

theorem not_malformed_of_insertPrincipals {places : List (DeclaredPrincipal × PrincipalId)}
    (h : insertPrincipals places installed d = (.error error, d')) (defect : PolicyDefect) :
    error ≠ .malformedPolicy defect := by
  induction places generalizing installed d with
  | nil => cases h
  | cons place rest ih =>
    obtain ⟨declared, id⟩ := place
    rw [insertPrincipals] at h
    cases hrole : installed.roleId? declared.role with
    | none =>
      rw [hrole] at h
      cases h
      simp
    | some roleId =>
      rw [hrole] at h
      dsimp only at h
      cases hinsert : RoleStore.insertPrincipal d ⟨id, declared.login, roleId⟩ with
      | error cause =>
        rw [hinsert] at h
        cases h
        exact Directory.not_malformed_of_insertPrincipal hinsert defect
      | ok middle =>
        rw [hinsert] at h
        exact ih h

end Bootstrap

/-! ## What an installation is -/

/-- The identifiers that a document is supplied with differ and are not in use. -/
structure Supply.Fresh (supply : Supply) (document : PolicyDocument) (d : Directory) : Prop where
  roleIds : ((List.range document.roles.length).map supply.roleId).Nodup
  roleId_new : ∀ place < document.roles.length, d.roles.find? (supply.roleId place) = none
  principalIds : ((List.range document.principals.length).map supply.principalId).Nodup
  principalId_new : ∀ place < document.principals.length,
    d.principals.find? (supply.principalId place) = none

/-- A principal has the login of a declaration, and of some roles the one that it names. -/
def DeclaredPrincipal.Makes (declared : DeclaredPrincipal) (roles : List Role) (p : Principal) :
    Prop :=
  p.login = declared.login ∧ ∃ role ∈ roles, role.name = declared.role ∧ role.id = p.roleId

/--
Some roles and principals are those that a document declares, one for every declaration,
and the identifiers given for names and logins are theirs.
-/
structure PolicyDocument.Installs (document : PolicyDocument) (now : Instant) (roles : List Role)
    (principals : List Principal) (installed : Installation) : Prop where
  role_makes : List.Forall₂ (fun declared role => declared.Makes now role) document.roles roles
  principal_makes :
    List.Forall₂ (fun declared p => declared.Makes roles p) document.principals principals
  roleId? : ∀ name id,
    installed.roleId? name = some id ↔ ∃ role ∈ roles, role.name = name ∧ role.id = id
  principalId? : ∀ login id,
    installed.principalId? login = some id ↔ ∃ p ∈ principals, p.login = login ∧ p.id = id

/--
An installation has stopped at a declaration whose name or login is in use: what was
declared before it has been added, and nothing else.
-/
inductive PolicyDocument.Stopped (document : PolicyDocument) (now : Instant) (d : Directory) :
    AuthorizationError → Directory → Prop
  | atRole {before after : List DeclaredRole} {declared : DeclaredRole} {roles : List Role}
      {d' : Directory} :
      document.roles = before ++ declared :: after →
      d.hasRoleName declared.name = true →
      List.Forall₂ (fun declared role => declared.Makes now role) before roles →
      d.Grown roles [] d' →
      Stopped document now d (.conflict (.roleNameTaken declared.name)) d'
  | atPrincipal {before after : List DeclaredPrincipal} {declared : DeclaredPrincipal}
      {roles : List Role} {principals : List Principal} {d' : Directory} :
      document.principals = before ++ declared :: after →
      d.hasLogin declared.login = true →
      List.Forall₂ (fun declared role => declared.Makes now role) document.roles roles →
      List.Forall₂ (fun declared p => declared.Makes roles p) before principals →
      d.Grown roles principals d' →
      Stopped document now d (.conflict (.loginTaken declared.login)) d'

/-- How the installation of a document ends. -/
inductive PolicyDocument.Ends (document : PolicyDocument) (now : Instant) (d : Directory) :
    Except AuthorizationError Installation × Directory → Prop
  | malformed {defect : PolicyDefect} :
      ¬ document.Valid → Ends document now d (.error (.malformedPolicy defect), d)
  | stopped {error : AuthorizationError} {d' : Directory} :
      document.Valid → document.Stopped now d error d' → Ends document now d (.error error, d')
  | installed {roles : List Role} {principals : List Principal} {installed : Installation}
      {d' : Directory} :
      document.Valid → document.Installs now roles principals installed →
      d.Grown roles principals d' → Ends document now d (.ok installed, d')

/-! ## Lists that correspond item by item -/

/-- What corresponds to an item stands in the same place of the other list. -/
theorem exists_split_of_forall₂ {α β : Type} {R : α → β → Prop} {items : List α}
    {before after : List β} {b : β} (h : List.Forall₂ R items (before ++ b :: after)) :
    ∃ earlier a later, items = earlier ++ a :: later ∧ List.Forall₂ R earlier before ∧ R a b := by
  induction before generalizing items with
  | nil =>
    obtain ⟨a, later, ha, -, rfl⟩ := List.forall₂_cons_right_iff.1 h
    exact ⟨[], a, later, rfl, .nil, ha⟩
  | cons first rest ih =>
    obtain ⟨a, others, ha, hothers, rfl⟩ := List.forall₂_cons_right_iff.1 h
    obtain ⟨earlier, b, later, rfl, hearlier, hb⟩ := ih hothers
    exact ⟨a :: earlier, b, later, rfl, .cons ha hearlier, hb⟩

/-- An item that comes later than others of a list without repetitions differs from them. -/
theorem ne_of_nodup_split {α β : Type} {f : α → β} {before after : List α} {a b : α}
    (h : ((before ++ a :: after).map f).Nodup) (hb : b ∈ before) : f b ≠ f a := by
  rw [List.map_append, List.map_cons, List.nodup_append] at h
  exact h.2.2 (f b) (List.mem_map_of_mem hb) (f a) List.mem_cons_self

namespace PolicyDocument

variable {document : PolicyDocument} {supply : Supply} {now : Instant} {d d' : Directory}
  {roles : List Role} {installed : Installation} {error : AuthorizationError}

/-! ## The recorded identifiers -/

/-- The identifiers recorded for items with different names are found under the names. -/
theorem find?_recorded {α ι : Type} {name : α → String} {id : α → ι} {items : List α}
    (hnames : (items.map name).Nodup) (key : String) (found : ι) :
    Keyed.find? (items.foldl (fun entries item => Keyed.insert (name item) (id item) entries) [])
        key = some found ↔
      ∃ item ∈ items, name item = key ∧ id item = found := by
  rw [← Keyed.find?_ofList_map_eq_some_iff hnames, Keyed.ofList, List.foldl_map]

/-! ## The roles of a valid document -/

theorem Declares.find?_eq_none (h : document.Declares supply.roleId now roles)
    (hfresh : supply.Fresh document d) {role : Role} (hmem : role ∈ roles) :
    d.roles.find? role.id = none := by
  have hid : role.id ∈ roles.map Role.id := List.mem_map_of_mem hmem
  rw [h.roleIds] at hid
  obtain ⟨place, hplace, hid⟩ := List.mem_map.1 hid
  rw [← hid]
  exact hfresh.roleId_new place (List.mem_range.1 hplace)

theorem Declares.nodup_ids (h : document.Declares supply.roleId now roles)
    (hfresh : supply.Fresh document d) : (roles.map Role.id).Nodup := by
  rw [h.roleIds]
  exact hfresh.roleIds

/-- When a role is refused, its name is in use, and the roles before it have been added. -/
theorem stopped_of_insertRoles (hvalid : document.Valid)
    (h : document.Declares supply.roleId now roles) (hfresh : supply.Fresh document d)
    (hinsert : Bootstrap.insertRoles roles installed d = (.error error, d')) :
    document.Stopped now d error d' := by
  obtain ⟨before, role, after, rfl, hgrown, hrefused⟩ :=
    Bootstrap.grown_of_insertRoles_error hinsert
  obtain ⟨earlier, declared, later, hroles, hearlier, hdeclared⟩ :=
    exists_split_of_forall₂ h.makes
  have hid : d'.roles.find? role.id = none :=
    hgrown.roles.find?_eq_none_of_forall_ne (h.find?_eq_none hfresh (by simp))
      fun r hr => ne_of_nodup_split (h.nodup_ids hfresh) hr
  obtain ⟨htaken, rfl⟩ := Directory.nameTaken_of_insertRole hid hrefused
  rw [hdeclared.name] at htaken ⊢
  refine .atRole hroles ?_ hearlier hgrown
  -- the name is not that of a role that has just been added, so it was in use before
  rcases hgrown.hasRoleName_eq_true_iff.1 htaken with hold | ⟨r, hr, hname⟩
  · exact hold
  · have hnames : ((before ++ role :: after).map Role.name).Nodup := by
      rw [h.names]
      exact hvalid.role_names
    exact absurd (hname.trans hdeclared.name.symm) (ne_of_nodup_split hnames hr)

/-- The identifiers that have been recorded for the names of a valid document. -/
theorem roleId?_of_insertRoles (hvalid : document.Valid)
    (h : document.Declares supply.roleId now roles)
    (hinsert : Bootstrap.insertRoles roles ⟨[], []⟩ d = (.ok installed, d')) (name : String)
    (id : RoleId) :
    installed.roleId? name = some id ↔ ∃ role ∈ roles, role.name = name ∧ role.id = id := by
  obtain ⟨-, rfl⟩ := Bootstrap.grown_of_insertRoles hinsert
  exact find?_recorded (h.names ▸ hvalid.role_names) name id

/-! ## The principals of a valid document -/

/-- The declared principals of a document, each with the identifier of its place. -/
def places (document : PolicyDocument) (supply : Supply) :
    List (DeclaredPrincipal × PrincipalId) :=
  document.principals.zipIdx.map fun (declared, place) => (declared, supply.principalId place)

theorem map_fst_places (document : PolicyDocument) (supply : Supply) :
    (document.places supply).map Prod.fst = document.principals := by
  rw [places, List.map_map]
  exact List.zipIdx_map_fst 0 document.principals

theorem map_snd_places :
    (document.places supply).map Prod.snd
      = (List.range document.principals.length).map supply.principalId := by
  rw [places, List.map_map, List.range_eq_range', ← List.zipIdx_map_snd, List.map_map]
  rfl

theorem find?_places_eq_none (hfresh : supply.Fresh document d)
    {place : DeclaredPrincipal × PrincipalId} (hmem : place ∈ document.places supply) :
    d.principals.find? place.2 = none := by
  have hid : place.2 ∈ (document.places supply).map Prod.snd := List.mem_map_of_mem hmem
  rw [map_snd_places] at hid
  obtain ⟨n, hn, hid⟩ := List.mem_map.1 hid
  rw [← hid]
  exact hfresh.principalId_new n (List.mem_range.1 hn)

/-- A principal that is bound by recorded identifiers has the role that its declaration names. -/
theorem makes_of_binds
    (hrecorded : ∀ name id,
      installed.roleId? name = some id ↔ ∃ role ∈ roles, role.name = name ∧ role.id = id)
    {items : List (DeclaredPrincipal × PrincipalId)} {principals : List Principal}
    (hbinds : List.Forall₂ (Bootstrap.Binds installed) items principals) :
    List.Forall₂ (fun declared p => declared.Makes roles p) (items.map Prod.fst) principals := by
  rw [List.forall₂_map_left_iff]
  refine hbinds.imp ?_
  intro place p hbind
  exact ⟨hbind.login, (hrecorded _ _).1 hbind.role⟩

/-- Every role that a valid document names has been recorded and stored. -/
theorem exists_roleId?_of_valid (hvalid : document.Valid)
    (h : document.Declares supply.roleId now roles) (hgrown : d.Grown roles [] d')
    (hrecorded : ∀ name id,
      installed.roleId? name = some id ↔ ∃ role ∈ roles, role.name = name ∧ role.id = id)
    {p : DeclaredPrincipal} (hp : p ∈ document.principals) :
    ∃ roleId, installed.roleId? p.role = some roleId ∧ d'.roles.contains roleId = true := by
  obtain ⟨r, hr, hname⟩ := hvalid.references p hp
  have hmem : r.name ∈ roles.map Role.name := by
    rw [h.names]
    exact List.mem_map_of_mem hr
  obtain ⟨role, hrole, hroleName⟩ := List.mem_map.1 hmem
  refine ⟨role.id, (hrecorded _ _).2 ⟨role, hrole, hroleName.trans hname, rfl⟩, ?_⟩
  exact Table.contains_eq_true_iff.2
    ⟨role, (hgrown.roles.find?_eq_some_iff _ _).2 (.inr ⟨hrole, rfl⟩)⟩

/-- The principals are registered after the roles: all of them, or up to a login in use. -/
theorem ends_of_insertPrincipals (hvalid : document.Valid)
    (hroles : document.Declares supply.roleId now roles) (hfresh : supply.Fresh document d)
    (hgrown : d.Grown roles [] d')
    (hrecorded : ∀ name id,
      installed.roleId? name = some id ↔ ∃ role ∈ roles, role.name = name ∧ role.id = id)
    (hnone : installed.principals = []) :
    document.Ends now d (Bootstrap.insertPrincipals (document.places supply) installed d') := by
  have hids : ((document.places supply).map Prod.snd).Nodup := by
    rw [map_snd_places]
    exact hfresh.principalIds
  have hnew : ∀ place ∈ document.places supply, d'.principals.find? place.2 = none :=
    fun place hmem => hgrown.principals.find?_eq_none_of_forall_ne
      (find?_places_eq_none hfresh hmem) (by simp)
  cases hinsert : Bootstrap.insertPrincipals (document.places supply) installed d' with
  | mk answer last =>
    cases answer with
    | ok recorded =>
      obtain ⟨principals, hbinds, hadded, rfl⟩ :=
        Bootstrap.grown_of_insertPrincipals hids hnew hinsert
      have hmakes := makes_of_binds hrecorded hbinds
      rw [map_fst_places] at hmakes
      have hlogins : (principals.map Principal.login).Nodup := by
        rw [map_eq_map_of_forall₂ hmakes fun _ _ h => h.1]
        exact hvalid.logins
      have hall : d.Grown roles principals last := by simpa using hgrown.trans hadded
      refine .installed hvalid ⟨hroles.makes, hmakes, hrecorded, fun login id => ?_⟩ hall
      rw [Installation.principalId?, hnone]
      exact find?_recorded hlogins login id
    | error error =>
      have hstored : ∀ place ∈ document.places supply, ∃ roleId,
          installed.roleId? place.1.role = some roleId ∧ d'.roles.contains roleId = true := by
        intro place hmem
        apply exists_roleId?_of_valid hvalid hroles hgrown hrecorded
        rw [← map_fst_places document supply]
        exact List.mem_map_of_mem hmem
      obtain ⟨before, place, after, principals, hplaces, hbinds, hadded, htaken, rfl⟩ :=
        Bootstrap.grown_of_insertPrincipals_error hids hnew hstored hinsert
      have hmakes := makes_of_binds hrecorded hbinds
      have hprincipals :
          document.principals = before.map Prod.fst ++ place.1 :: after.map Prod.fst := by
        rw [← map_fst_places document supply, hplaces, List.map_append, List.map_cons]
      have hall : d.Grown roles principals last := by simpa using hgrown.trans hadded
      refine .stopped hvalid (.atPrincipal hprincipals ?_ hroles.makes hmakes hall)
      -- the login is not that of a principal that has just been added, so it was in use before
      rcases hall.hasLogin_eq_true_iff.1 htaken with hold | ⟨p, hp, hlogin⟩
      · exact hold
      · have hp' : p.login ∈ principals.map Principal.login := List.mem_map_of_mem hp
        rw [map_eq_map_of_forall₂ hmakes fun _ _ h => h.1] at hp'
        obtain ⟨earlier, hearlier, hsame⟩ := List.mem_map.1 hp'
        have hlogins := hvalid.logins
        rw [hprincipals] at hlogins
        exact absurd (hsame.trans hlogin) (ne_of_nodup_split hlogins hearlier)

/-! ## How an installation ends -/

/-- A document that is not valid is refused by every store, and nothing is written. -/
theorem bootstrap_of_not_valid {σ : Type} [RoleStore σ] (store : σ) (h : ¬ document.Valid) :
    ∃ defect, bootstrap store document supply now = (.error (.malformedPolicy defect), store) := by
  unfold bootstrap
  cases hchecks : document.validate supply.roleId now with
  | error error =>
    obtain ⟨defect, rfl⟩ := malformed_of_validate hchecks
    exact ⟨defect, rfl⟩
  | ok roles => exact absurd (exists_validate_eq_ok_iff.1 ⟨roles, hchecks⟩) h

theorem bootstrap_of_insertRoles_error (hchecks : document.validate supply.roleId now = .ok roles)
    (hinsert : Bootstrap.insertRoles roles ⟨[], []⟩ d = (.error error, d')) :
    bootstrap d document supply now = (.error error, d') := by
  unfold bootstrap
  rw [hchecks]
  dsimp only
  rw [hinsert]

theorem bootstrap_of_insertRoles (hchecks : document.validate supply.roleId now = .ok roles)
    (hinsert : Bootstrap.insertRoles roles ⟨[], []⟩ d = (.ok installed, d')) :
    bootstrap d document supply now
      = Bootstrap.insertPrincipals (document.places supply) installed d' := by
  unfold bootstrap
  rw [hchecks]
  dsimp only
  rw [hinsert]
  rfl

/-- **An installation with new identifiers ends in one of three ways.** -/
theorem ends_bootstrap (hfresh : supply.Fresh document d) :
    document.Ends now d (bootstrap d document supply now) := by
  by_cases hvalid : document.Valid
  · have hchecks : ∃ roles, document.validate supply.roleId now = .ok roles :=
      exists_validate_eq_ok_iff.2 hvalid
    obtain ⟨roles, hchecks⟩ := hchecks
    have hroles := declares_of_validate hchecks
    cases hinsert : Bootstrap.insertRoles roles ⟨[], []⟩ d with
    | mk answer middle =>
      cases answer with
      | error error =>
        rw [bootstrap_of_insertRoles_error hchecks hinsert]
        exact .stopped hvalid (stopped_of_insertRoles hvalid hroles hfresh hinsert)
      | ok recorded =>
        obtain ⟨hgrown, hrecorded⟩ := Bootstrap.grown_of_insertRoles hinsert
        rw [bootstrap_of_insertRoles hchecks hinsert]
        exact ends_of_insertPrincipals hvalid hroles hfresh hgrown
          (roleId?_of_insertRoles hvalid hroles hinsert) (by rw [hrecorded])
  · obtain ⟨defect, hrefused⟩ := bootstrap_of_not_valid d hvalid
    rw [hrefused]
    exact .malformed hvalid

/-- A valid document is not refused as malformed, whatever it is supplied with. -/
theorem not_malformed_of_valid (h : document.Valid) (defect : PolicyDefect) :
    (bootstrap d document supply now).1 ≠ .error (.malformedPolicy defect) := by
  intro hmalformed
  have hchecks : ∃ roles, document.validate supply.roleId now = .ok roles :=
    exists_validate_eq_ok_iff.2 h
  obtain ⟨roles, hchecks⟩ := hchecks
  cases hinsert : Bootstrap.insertRoles roles ⟨[], []⟩ d with
  | mk answer middle =>
    cases answer with
    | error error =>
      rw [bootstrap_of_insertRoles_error hchecks hinsert] at hmalformed
      exact Bootstrap.not_malformed_of_insertRoles hinsert defect (Except.error.inj hmalformed)
    | ok recorded =>
      rw [bootstrap_of_insertRoles hchecks hinsert] at hmalformed
      exact Bootstrap.not_malformed_of_insertPrincipals (Prod.ext hmalformed rfl) defect rfl

theorem malformed_bootstrap_iff :
    (∃ defect, (bootstrap d document supply now).1 = .error (.malformedPolicy defect)) ↔
      ¬ document.Valid := by
  constructor
  · rintro ⟨defect, hmalformed⟩ hvalid
    exact not_malformed_of_valid hvalid defect hmalformed
  · intro hinvalid
    obtain ⟨defect, hrefused⟩ := bootstrap_of_not_valid d hinvalid
    exact ⟨defect, by rw [hrefused]⟩

/-- The directory has a name or a login of the document. -/
def Meets (document : PolicyDocument) (d : Directory) : Prop :=
  (∃ r ∈ document.roles, d.hasRoleName r.name = true) ∨
    ∃ p ∈ document.principals, d.hasLogin p.login = true

theorem Stopped.meets (h : document.Stopped now d error d') : document.Meets d := by
  cases h with
  | atRole hroles htaken _ _ => exact .inl ⟨_, by rw [hroles]; simp, htaken⟩
  | atPrincipal hprincipals htaken _ _ _ => exact .inr ⟨_, by rw [hprincipals]; simp, htaken⟩

/-- What has been installed did not meet the directory. -/
theorem Installs.not_meets {principals : List Principal}
    (h : document.Installs now roles principals installed) (hgrown : d.Grown roles principals d') :
    ¬ document.Meets d := by
  have hnames : roles.map Role.name = document.roles.map DeclaredRole.name :=
    map_eq_map_of_forall₂ h.role_makes fun _ _ hmakes => hmakes.name
  have hlogins : principals.map Principal.login
      = document.principals.map DeclaredPrincipal.login :=
    map_eq_map_of_forall₂ h.principal_makes fun _ _ hmakes => hmakes.1
  rintro (⟨r, hr, htaken⟩ | ⟨p, hp, htaken⟩)
  · have hmem : r.name ∈ document.roles.map DeclaredRole.name := List.mem_map_of_mem hr
    rw [← hnames] at hmem
    obtain ⟨role, hrole, hname⟩ := List.mem_map.1 hmem
    have hlacks := hgrown.hasRoleName_eq_false hrole
    rw [hname, htaken] at hlacks
    cases hlacks
  · have hmem : p.login ∈ document.principals.map DeclaredPrincipal.login := List.mem_map_of_mem hp
    rw [← hlogins] at hmem
    obtain ⟨q, hq, hlogin⟩ := List.mem_map.1 hmem
    have hlacks := hgrown.hasLogin_eq_false hq
    rw [hlogin, htaken] at hlacks
    cases hlacks

/-- An installation succeeds exactly when the document is valid and does not meet the directory. -/
theorem exists_bootstrap_eq_ok_iff (hfresh : supply.Fresh document d) :
    (∃ installed, (bootstrap d document supply now).1 = .ok installed) ↔
      document.Valid ∧ ¬ document.Meets d := by
  have hends : document.Ends now d (bootstrap d document supply now) := ends_bootstrap hfresh
  generalize bootstrap d document supply now = outcome at hends ⊢
  cases hends with
  | malformed hinvalid => simp [hinvalid]
  | stopped _ hstopped => simp [hstopped.meets]
  | installed hvalid hinstalls hgrown => simp [hvalid, hinstalls.not_meets hgrown]

theorem installs_of_bootstrap (hfresh : supply.Fresh document d)
    (h : (bootstrap d document supply now).1 = .ok installed) :
    ∃ roles principals, document.Installs now roles principals installed ∧
      d.Grown roles principals (bootstrap d document supply now).2 := by
  have hends : document.Ends now d (bootstrap d document supply now) := ends_bootstrap hfresh
  generalize bootstrap d document supply now = outcome at hends h ⊢
  cases hends with
  | malformed _ => cases h
  | stopped _ _ => cases h
  | installed _ hinstalls hgrown =>
    cases h
    exact ⟨_, _, hinstalls, hgrown⟩

/--
**A document is checked first and installed completely.**  It is refused as malformed
exactly when it is not valid, whatever the directory holds, and nothing is written then.
With identifiers that are new it is installed exactly when it is valid and the directory
has none of its names and logins, hence always in the empty directory; the directory
afterwards is the one before with one role and one principal for every declaration, and
the identifiers that are returned are those of the names and logins of the document.
-/
theorem bootstrap_installs (d : Directory) (document : PolicyDocument) (supply : Supply)
    (now : Instant) :
    ((∃ defect, (bootstrap d document supply now).1 = .error (.malformedPolicy defect)) ↔
        ¬ document.Valid) ∧
      (¬ document.Valid → (bootstrap d document supply now).2 = d) ∧
      (supply.Fresh document d →
        ((∃ installed, (bootstrap d document supply now).1 = .ok installed) ↔
            document.Valid ∧ ¬ document.Meets d) ∧
          ∀ installed, (bootstrap d document supply now).1 = .ok installed →
            ∃ roles principals, document.Installs now roles principals installed ∧
              d.Grown roles principals (bootstrap d document supply now).2) ∧
      (document.Valid → supply.Fresh document .empty →
        ∃ installed, (bootstrap Directory.empty document supply now).1 = .ok installed) := by
  refine ⟨malformed_bootstrap_iff, ?_, fun hfresh => ?_, fun hvalid hfresh => ?_⟩
  · intro hinvalid
    obtain ⟨defect, hrefused⟩ := bootstrap_of_not_valid d hinvalid
    rw [hrefused]
  · exact ⟨exists_bootstrap_eq_ok_iff hfresh, fun installed h => installs_of_bootstrap hfresh h⟩
  · refine (exists_bootstrap_eq_ok_iff hfresh).2 ⟨hvalid, ?_⟩
    -- the empty directory has no names and no logins
    rintro (⟨_, -, htaken⟩ | ⟨_, -, htaken⟩) <;> cases htaken

/-- Identifiers that are counted upwards. -/
def counting : Supply :=
  ⟨fun place => ⟨.ofNat (100 + place)⟩, fun place => ⟨.ofNat (100 + place)⟩⟩

/-- A document whose only principal has a role that it does not declare. -/
def orphaned : PolicyDocument := ⟨[], [⟨"vasya", "normal"⟩]⟩

theorem complete_toValue (rights : AccessRights) : CompleteMatrix rights.toValue :=
  AccessRights.exists_ofValue_eq_ok_iff.1 ⟨rights, rights.ofValue_toValue⟩

theorem valid_standard : standard.Valid where
  role_names := by decide
  matrices := by
    intro r hr
    simp only [standard, List.mem_cons, List.not_mem_nil, or_false] at hr
    rcases hr with rfl | rfl | rfl <;> exact complete_toValue _
  role_named := by decide
  references := by decide
  logins := by decide

theorem fresh_counting_standard : counting.Fresh standard .empty where
  roleIds := by decide
  roleId_new := fun _ _ => rfl
  principalIds := by decide
  principalId_new := fun _ _ => rfl

/-- The standard policy is installed in the empty directory; the orphan is not. -/
theorem bootstrap_installs_standard :
    (∃ installed roles principals,
      (bootstrap Directory.empty standard counting .epoch).1 = .ok installed ∧
        standard.Installs .epoch roles principals installed ∧
        Directory.empty.Grown roles principals
          (bootstrap Directory.empty standard counting .epoch).2) ∧
      (bootstrap Directory.registered orphaned counting .epoch).2 = Directory.registered := by
  constructor
  · obtain ⟨-, -, hfresh, hempty⟩ := bootstrap_installs .empty standard counting .epoch
    obtain ⟨installed, hok⟩ := hempty valid_standard fresh_counting_standard
    obtain ⟨roles, principals, hinstalls, hgrown⟩ :=
      (hfresh fresh_counting_standard).2 installed hok
    exact ⟨installed, roles, principals, hok, hinstalls, hgrown⟩
  · refine (bootstrap_installs .registered orphaned counting .epoch).2.1 fun hvalid => ?_
    obtain ⟨r, hr, -⟩ := hvalid.references ⟨"vasya", "normal"⟩ List.mem_cons_self
    cases hr

/-! ## What a failed installation leaves -/

theorem Stopped.sameAs_iff (hvalid : document.Valid) (h : document.Stopped now d error d') :
    d.SameAs d' ↔
      ∃ r rest, document.roles = r :: rest ∧ d.hasRoleName r.name = true := by
  cases h with
  | @atRole before after declared roles _ hroles htaken hmakes hgrown =>
    rw [hgrown.sameAs_iff, hroles]
    constructor
    · rintro ⟨rfl, -⟩
      cases hmakes
      exact ⟨declared, after, rfl, htaken⟩
    · rintro ⟨r, rest, heq, hr⟩
      cases hmakes with
      | nil => exact ⟨rfl, rfl⟩
      | cons hfirst _ =>
        -- a role that has been added had a name that was not in use
        cases heq
        have hlacks := hgrown.hasRoleName_eq_false List.mem_cons_self
        rw [hfirst.name, hr] at hlacks
        cases hlacks
  | @atPrincipal before after declared roles principals _ hprincipals htaken hmakes _ hgrown =>
    rw [hgrown.sameAs_iff]
    constructor
    · rintro ⟨rfl, -⟩
      -- a principal names a declared role, so there are some
      obtain ⟨r, hr, -⟩ := hvalid.references declared (by rw [hprincipals]; simp)
      rw [List.forall₂_nil_right_iff.1 hmakes] at hr
      cases hr
    · rintro ⟨r, rest, heq, hr⟩
      rw [heq] at hmakes
      cases hmakes with
      | cons hfirst _ =>
        have hlacks := hgrown.hasRoleName_eq_false List.mem_cons_self
        rw [hfirst.name, hr] at hlacks
        cases hlacks

/--
**What a failed installation leaves.**  A document that is refused as malformed leaves the
directory.  With identifiers that are new the only other failure is a declaration whose
name or login is in use; what was declared before it has been added, and nothing else, so
that the directory holds what it held exactly when the first declared role is refused.
-/
theorem bootstrap_stops (d : Directory) (document : PolicyDocument) (supply : Supply)
    (now : Instant) :
    (∀ defect, (bootstrap d document supply now).1 = .error (.malformedPolicy defect) →
        (bootstrap d document supply now).2 = d) ∧
      (supply.Fresh document d → ∀ error,
        (bootstrap d document supply now).1 = .error error →
          ((∃ defect, error = .malformedPolicy defect) ∨
            document.Stopped now d error (bootstrap d document supply now).2) ∧
          (d.SameAs (bootstrap d document supply now).2 ↔
            (∃ defect, error = .malformedPolicy defect) ∨
              ∃ r rest, document.roles = r :: rest ∧ d.hasRoleName r.name = true)) := by
  refine ⟨?_, fun hfresh error h => ?_⟩
  · intro defect hmalformed
    have hinvalid := malformed_bootstrap_iff.1 ⟨defect, hmalformed⟩
    obtain ⟨_, hrefused⟩ := bootstrap_of_not_valid d hinvalid
    rw [hrefused]
  · have hends : document.Ends now d (bootstrap d document supply now) := ends_bootstrap hfresh
    generalize bootstrap d document supply now = outcome at hends h ⊢
    cases hends with
    | malformed _ =>
      cases h
      exact ⟨.inl ⟨_, rfl⟩, fun _ => .inl ⟨_, rfl⟩, fun _ => .refl d⟩
    | stopped hvalid hstopped =>
      cases h
      refine ⟨.inr hstopped, ?_⟩
      rw [hstopped.sameAs_iff hvalid]
      constructor
      · exact .inr
      · rintro (⟨defect, rfl⟩ | hfirst)
        · cases hstopped
        · exact hfirst
    | installed _ _ _ => cases h

/-- The directory that has a role with the name `normal`. -/
def occupied : Directory := Directory.run [.insertRole Directory.normalRole]

/-- A document with a new role and one that the directory has. -/
def overlapping : PolicyDocument where
  roles := [⟨"installer", AccessRights.empty.toValue⟩, ⟨"normal", AccessRights.empty.toValue⟩]
  principals := []

theorem fresh_counting_overlapping : counting.Fresh overlapping occupied where
  roleIds := by decide
  roleId_new := by decide
  principalIds := by decide
  principalId_new := fun _ _ => rfl

/-- The second role is refused; the first one has been added by then. -/
theorem bootstrap_stops_overlapping :
    overlapping.Stopped .epoch occupied (.conflict (.roleNameTaken "normal"))
        (bootstrap occupied overlapping counting .epoch).2 ∧
      ¬ occupied.SameAs (bootstrap occupied overlapping counting .epoch).2 := by
  have herror : (bootstrap occupied overlapping counting .epoch).1
      = .error (.conflict (.roleNameTaken "normal")) := rfl
  obtain ⟨hstopped, hsame⟩ := (bootstrap_stops occupied overlapping counting .epoch).2
    fresh_counting_overlapping _ herror
  constructor
  · rcases hstopped with ⟨defect, hmalformed⟩ | hstopped
    · cases hmalformed
    · exact hstopped
  · rw [hsame]
    rintro (⟨defect, hmalformed⟩ | ⟨r, rest, heq, htaken⟩)
    · cases hmalformed
    · cases heq
      exact absurd htaken (by decide)

/-- **A failed installation can leave more than there was.** -/
theorem failed_bootstrap_adds_role :
    (bootstrap occupied overlapping counting .epoch).1
        = .error (.conflict (.roleNameTaken "normal")) ∧
      occupied.resolveRole (counting.roleId 0) = .error (.roleNotFound (counting.roleId 0)) ∧
      (((bootstrap occupied overlapping counting .epoch).2.resolveRole
        (counting.roleId 0)).map Role.name).toOption = some "installer" :=
  ⟨rfl, rfl, rfl⟩

end PolicyDocument

end AccessControl
