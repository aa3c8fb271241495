/-
# The registry agrees with decisions

A registry is made of a sequence of roles, in which a later role hides an earlier one of the
same name, and it finds out what a role grants from a list of permissions instead of a cell.
For every permission it names the roles whose decisions allow it, in the order of the bytes
of their names.  In a directory that calls lead to no two roles share a name, so the registry
of its roles hides none of them, and it tells of every principal what the guard grants it.
-/
import AccessControl.Registry
import AccessControl.Proofs.Directory.Order
import AccessControl.Proofs.Guard.Mediation

namespace AccessControl

/-! ## The last item of a name -/

section Last

variable {β : Type} {name : β → String} {items : List β} {key : String} {item last : β}

/-- The last of the items that have a name. -/
def IsLastNamed (name : β → String) (items : List β) (key : String) (item : β) : Prop :=
  ∃ before after, items = before ++ item :: after ∧ name item = key ∧
    ∀ other ∈ after, name other ≠ key

theorem isLastNamed_concat_iff :
    IsLastNamed name (items ++ [last]) key item ↔
      name last = key ∧ item = last ∨ name last ≠ key ∧ IsLastNamed name items key item := by
  constructor
  · rintro ⟨before, after, hsplit, hname, hafter⟩
    rcases List.eq_nil_or_concat after with rfl | ⟨after, other, rfl⟩
    · obtain ⟨-, ⟨⟩⟩ := List.append_inj' hsplit rfl
      exact .inl ⟨hname, rfl⟩
    · rw [List.concat_eq_append] at hsplit hafter
      rw [← List.cons_append, ← List.append_assoc] at hsplit
      obtain ⟨hitems, ⟨⟩⟩ := List.append_inj' hsplit rfl
      refine .inr ⟨hafter last (by simp), before, after, hitems, hname, fun other hother => ?_⟩
      exact hafter other (List.mem_append_left _ hother)
  · rintro (⟨hname, rfl⟩ | ⟨hlast, before, after, rfl, hname, hafter⟩)
    · exact ⟨items, [], rfl, hname, fun other hother => absurd hother List.not_mem_nil⟩
    · refine ⟨before, after ++ [last], by simp, hname, fun other hother => ?_⟩
      rcases List.mem_append.1 hother with hother | hother
      · exact hafter other hother
      · rwa [List.mem_singleton.1 hother]

variable {α : Type} {value : β → α} {found : α}

theorem Keyed.ofList_concat (bindings : List (String × α)) (binding : String × α) :
    Keyed.ofList (bindings ++ [binding])
      = Keyed.insert binding.1 binding.2 (Keyed.ofList bindings) := by
  rw [Keyed.ofList, List.foldl_append]
  rfl

/-- Of items that share a name the last one is found. -/
theorem Keyed.find?_ofList_eq_some_iff_isLastNamed :
    Keyed.find? (Keyed.ofList (items.map fun item => (name item, value item))) key = some found ↔
      ∃ item, IsLastNamed name items key item ∧ value item = found := by
  induction items using List.reverseRecOn with
  | nil => simp [Keyed.ofList, IsLastNamed]
  | append_singleton items last ih =>
    rw [List.map_append, List.map_singleton, Keyed.ofList_concat]
    simp only [isLastNamed_concat_iff]
    by_cases hlast : name last = key
    · simp [hlast, Keyed.find?_insert_self]
    · rw [Keyed.find?_insert_of_ne (Ne.symm hlast), ih]
      simp [hlast]

/-- When no two items share a name, each is the last one of its name. -/
theorem isLastNamed_iff_of_nodup (h : (items.map name).Nodup) :
    IsLastNamed name items key item ↔ item ∈ items ∧ name item = key := by
  constructor
  · rintro ⟨before, after, rfl, hname, -⟩
    exact ⟨by simp, hname⟩
  · rintro ⟨hmem, rfl⟩
    obtain ⟨before, after, rfl⟩ := List.append_of_mem hmem
    rw [List.map_append, List.map_cons] at h
    refine ⟨before, after, rfl, rfl, fun other hother hsame => ?_⟩
    have hnew := (List.nodup_cons.1 (List.nodup_append.1 h).2.1).1
    exact hnew (hsame ▸ List.mem_map_of_mem hother)

end Last

namespace Registry

variable {roles : List Role} {name : String} {p : Permission} {definition : RoleDefinition}

/-! ## What a registry lists -/

theorem increasing_roles (roles : List Role) : Keyed.Increasing (ofRoles roles).roles :=
  Keyed.increasing_ofList _

/-- An entry of a registry is that of the last role of its name. -/
theorem mem_roles_iff :
    (name, definition) ∈ (ofRoles roles).roles ↔
      ∃ role, IsLastNamed Role.name roles name role ∧ Registry.definition role = definition := by
  rw [(increasing_roles roles).mem_iff]
  exact Keyed.find?_ofList_eq_some_iff_isLastNamed

/-- The definition in an entry has the name of the entry. -/
theorem name_of_mem_roles {entry : String × RoleDefinition} (h : entry ∈ (ofRoles roles).roles) :
    entry.2.name = entry.1 := by
  obtain ⟨role, ⟨_, _, _, hname, _⟩, hdefinition⟩ := mem_roles_iff.1 h
  rw [← hdefinition, ← hname]
  rfl

/-- The names listed for a permission are those whose last role allows it. -/
theorem mem_rolesGranting_iff :
    name ∈ (ofRoles roles).rolesGranting p ↔
      ∃ role, IsLastNamed Role.name roles name role ∧ role.check p = .allow := by
  rw [rolesGranting, List.mem_map]
  constructor
  · rintro ⟨entry, hentry, hname⟩
    obtain ⟨hmem, hgrants⟩ := List.mem_filter.1 hentry
    rw [name_of_mem_roles hmem] at hname
    subst hname
    obtain ⟨role, hlast, hdefinition⟩ := mem_roles_iff.1 hmem
    refine ⟨role, hlast, Role.check_eq_allow_iff.2 ?_⟩
    rw [← hdefinition] at hgrants
    exact of_decide_eq_true hgrants
  · rintro ⟨role, hlast, hallow⟩
    have hmem := mem_roles_iff.2 ⟨role, hlast, rfl⟩
    refine ⟨_, List.mem_filter.2 ⟨hmem, ?_⟩, name_of_mem_roles hmem⟩
    exact decide_eq_true (Role.check_eq_allow_iff.1 hallow)

/-- The names are listed in the order of their bytes, so each of them once. -/
theorem pairwise_rolesGranting (roles : List Role) (p : Permission) :
    ((ofRoles roles).rolesGranting p).Pairwise fun a b => Text.bytes a < Text.bytes b := by
  rw [rolesGranting, List.pairwise_map]
  refine List.Pairwise.filter _ ((increasing_roles roles).imp_of_mem fun ha hb hlt => ?_)
  rwa [name_of_mem_roles ha, name_of_mem_roles hb, Text.bytes_lt_bytes_iff]

/-- Roles that are in the order of their names have an entry each, in the same order. -/
theorem roles_eq_map (h : roles.Pairwise fun a b => a.name < b.name) :
    (ofRoles roles).roles = roles.map fun role => (role.name, Registry.definition role) :=
  Keyed.ofList_of_increasing (List.pairwise_map.2 h)

/-! ## The registry of a directory -/

/-- What a registry says of a directory. -/
structure Describes (registry : Registry) (d : Directory) : Prop where
  /-- Every stored role has an entry, none is hidden and there are no others. -/
  entries : registry.roles.Perm
    (d.roles.values.map fun role => (role.name, Registry.definition role))
  /-- The name of a stored role is listed for what the role allows. -/
  roles : ∀ id role, d.resolveRole id = .ok role →
    ∀ p, role.name ∈ registry.rolesGranting p ↔ role.check p = .allow
  /-- The name of the role that a principal has now is listed for what the guard grants. -/
  principals : ∀ id principal, d.resolvePrincipal id = .ok principal →
    ∃ role, d.resolveRole principal.roleId = .ok role ∧
      ∀ p : Permission, (∃ g, Guard.requirePrincipal d id p.resource.name p.action.name = .ok g) ↔
        role.name ∈ registry.rolesGranting p

end Registry

namespace Directory

variable {d : Directory} {id : RoleId} {role : Role} {p : Permission}

theorem nodup_map_name_listRoles (hd : d.roles.Distinct Role.name) :
    (d.listRoles.map Role.name).Nodup :=
  ((listRoles_perm d).map Role.name).nodup_iff.2 hd.nodup_map_values

/-- A stored role is named in the registry for what it allows, as no other has its name. -/
theorem name_mem_rolesGranting_iff (hd : d.roles.Distinct Role.name)
    (hrole : d.resolveRole id = .ok role) :
    role.name ∈ (Registry.ofRoles d.listRoles).rolesGranting p ↔ role.check p = .allow := by
  have hnames := nodup_map_name_listRoles hd
  have hmem : role ∈ d.listRoles :=
    (listRoles_perm d).mem_iff.2 (Table.mem_values_iff.2 ⟨id, resolveRole_eq_ok_iff.1 hrole⟩)
  rw [Registry.mem_rolesGranting_iff]
  simp only [isLastNamed_iff_of_nodup hnames]
  constructor
  · rintro ⟨other, ⟨hother, hname⟩, hallow⟩
    rwa [← List.inj_on_of_nodup_map hnames hother hmem hname]
  · exact fun hallow => ⟨role, ⟨hmem, rfl⟩, hallow⟩

/-- A principal is granted what the role that it has allows. -/
theorem exists_requirePrincipal_eq_ok_iff {principalId : PrincipalId} {principal : Principal}
    (hprincipal : d.resolvePrincipal principalId = .ok principal)
    (hrole : d.resolveRole principal.roleId = .ok role) :
    (∃ g, Guard.requirePrincipal d principalId p.resource.name p.action.name = .ok g) ↔
      role.check p = .allow := by
  have hnames : Permission.ofNames p.resource.name p.action.name = .ok p :=
    Permission.ofNames_eq_ok_iff.2 ⟨rfl, rfl⟩
  rw [Role.check_eq_allow_iff, AccessRights.mem_granted]
  simp only [Guard.requirePrincipal_eq_ok_iff, Guard.grant_eq_ok_iff]
  constructor
  · rintro ⟨_, q, hnamed, other, hother, held, hheld, hallows, -⟩
    cases hnames.symm.trans (Permission.ofNames_eq_ok_iff.2 hnamed)
    cases hprincipal.symm.trans hother
    cases hrole.symm.trans hheld
    exact hallows
  · exact fun hallows => ⟨_, p, ⟨rfl, rfl⟩, principal, hprincipal, role, hrole, hallows, rfl⟩

/-- The registry of the roles of a consistent directory describes it. -/
theorem Consistent.describes (hd : d.Consistent) :
    (Registry.ofRoles d.listRoles).Describes d where
  entries := by
    rw [Registry.roles_eq_map (listRoles_pairwise hd.role_name)]
    exact (listRoles_perm d).map _
  roles _ _ hrole _ := name_mem_rolesGranting_iff hd.role_name hrole
  principals id principal hprincipal := by
    obtain ⟨role, hfind, -⟩ :=
      hd.principal_role id principal (resolvePrincipal_eq_ok_iff.1 hprincipal)
    have hrole := resolveRole_eq_ok_iff.2 hfind
    refine ⟨role, hrole, fun p => ?_⟩
    rw [exists_requirePrincipal_eq_ok_iff hprincipal hrole,
      name_mem_rolesGranting_iff hd.role_name hrole]

/--
**The registry agrees with decisions.**  Of every sequence of roles, the names that the
registry lists for a permission are in the order of their bytes, each once, and they are
those whose last role in the sequence allows the permission.  The registry of the roles of a
directory that calls lead to describes it: it has one entry for each stored role, and lists
the name of a role for what the role allows and for what the guard grants to the principals
that have it.
-/
theorem registry_agrees :
    (∀ roles p, ((Registry.ofRoles roles).rolesGranting p).Pairwise
        (fun a b => Text.bytes a < Text.bytes b) ∧
      ∀ name, name ∈ (Registry.ofRoles roles).rolesGranting p ↔
        ∃ role, IsLastNamed Role.name roles name role ∧ role.check p = .allow) ∧
    ∀ operations, (Registry.ofRoles (run operations).listRoles).Describes (run operations) :=
  ⟨fun roles p => ⟨Registry.pairwise_rolesGranting roles p, fun _ =>
    Registry.mem_rolesGranting_iff⟩, fun operations => (consistent_run operations).describes⟩

end Directory

end AccessControl
