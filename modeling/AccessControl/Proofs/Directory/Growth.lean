/-
# Directories that grow

What it means that a directory is another one with some roles and principals added:
nothing that was there is changed, and what is added has identifiers, names and logins
that were not in use.  Registering a role or a principal adds it in this sense.
-/
import AccessControl.Directory
import Mathlib.Data.List.Nodup

namespace AccessControl

/-! ## Tables with more in them -/

namespace Table

variable {κ α β : Type} [DecidableEq κ] {t t' t'' : Table κ α} {key : α → κ} {trait : α → β}
  {items more : List α}

/-- No value of the table has a given trait. -/
def Lacks (t : Table κ α) (trait : α → β) (x : β) : Prop :=
  ∀ k a, t.find? k = some a → trait a ≠ x

/--
A table is another one with some items added, each under its key.  The keys and the
traits of the items were not in use before.
-/
structure Grown (t : Table κ α) (key : α → κ) (trait : α → β) (items : List α)
    (t' : Table κ α) : Prop where
  /-- The values afterwards are those of before and the items. -/
  find?_eq_some_iff : ∀ k a, t'.find? k = some a ↔ t.find? k = some a ∨ a ∈ items ∧ key a = k
  key_new : ∀ a ∈ items, t.find? (key a) = none
  trait_new : ∀ a ∈ items, t.Lacks trait (trait a)
  keys_nodup : (items.map key).Nodup

namespace Grown

theorem refl (t : Table κ α) (key : α → κ) (trait : α → β) : Grown t key trait [] t where
  find?_eq_some_iff := by simp
  key_new := by simp
  trait_new := by simp
  keys_nodup := List.nodup_nil

/-- A key that is free afterwards was free before. -/
theorem find?_eq_none (h : Grown t key trait items t') {k : κ} (hk : t'.find? k = none) :
    t.find? k = none := by
  rw [Option.eq_none_iff_forall_ne_some] at hk ⊢
  exact fun a hfind => hk a ((h.find?_eq_some_iff k a).2 (.inl hfind))

/-- A key is free afterwards when it was free before and no item has it. -/
theorem find?_eq_none_of_forall_ne (h : Grown t key trait items t') {k : κ}
    (hk : t.find? k = none) (hne : ∀ a ∈ items, key a ≠ k) : t'.find? k = none := by
  rw [Option.eq_none_iff_forall_ne_some]
  intro a hfind
  rcases (h.find?_eq_some_iff k a).1 hfind with hold | ⟨hmem, hkey⟩
  · rw [hk] at hold
    cases hold
  · exact hne a hmem hkey

/-- A trait is missing afterwards when it was missing before and no item has it. -/
theorem lacks_iff (h : Grown t key trait items t') {x : β} :
    t'.Lacks trait x ↔ t.Lacks trait x ∧ ∀ a ∈ items, trait a ≠ x := by
  simp only [Lacks, h.find?_eq_some_iff]
  constructor
  · intro hlacks
    exact ⟨fun k a hold => hlacks k a (.inl hold),
      fun a hmem => hlacks (key a) a (.inr ⟨hmem, rfl⟩)⟩
  · rintro ⟨hold, hitems⟩ k a (hfind | ⟨hmem, -⟩)
    · exact hold k a hfind
    · exact hitems a hmem

/-- Nothing was added when every look-up finds what it found before. -/
theorem eq_nil (h : Grown t key trait items t') (hsame : ∀ k, t'.find? k = t.find? k) :
    items = [] := by
  rw [List.eq_nil_iff_forall_not_mem]
  intro a hmem
  have hstored : t'.find? (key a) = some a :=
    (h.find?_eq_some_iff (key a) a).2 (.inr ⟨hmem, rfl⟩)
  rw [hsame, h.key_new a hmem] at hstored
  cases hstored

theorem find?_eq_of_nil (h : Grown t key trait [] t') (k : κ) : t'.find? k = t.find? k := by
  apply Option.ext
  intro a
  rw [h.find?_eq_some_iff]
  simp

/-- Additions one after the other are one addition. -/
theorem trans (h : Grown t key trait items t') (h' : Grown t' key trait more t'') :
    Grown t key trait (items ++ more) t'' where
  find?_eq_some_iff k a := by
    rw [h'.find?_eq_some_iff, h.find?_eq_some_iff, List.mem_append, or_and_right, or_assoc]
  key_new a hmem := by
    rcases List.mem_append.1 hmem with hmem | hmem
    · exact h.key_new a hmem
    · exact h.find?_eq_none (h'.key_new a hmem)
  trait_new a hmem := by
    rcases List.mem_append.1 hmem with hmem | hmem
    · exact h.trait_new a hmem
    · exact (h.lacks_iff.1 (h'.trait_new a hmem)).1
  keys_nodup := by
    rw [List.map_append, List.nodup_append]
    refine ⟨h.keys_nodup, h'.keys_nodup, ?_⟩
    -- an item of the second addition has a key that those of the first have taken
    rintro k hk _ hk' rfl
    obtain ⟨a, hmem, rfl⟩ := List.mem_map.1 hk
    obtain ⟨b, hb, hsame⟩ := List.mem_map.1 hk'
    have hstored : t'.find? (key a) = some a :=
      (h.find?_eq_some_iff (key a) a).2 (.inr ⟨hmem, rfl⟩)
    rw [← hsame, h'.key_new b hb] at hstored
    cases hstored

/-- Storing a value under a key and with a trait that are not in use adds it. -/
theorem insert {a : α} (hkey : t.find? (key a) = none) (htrait : t.Lacks trait (trait a)) :
    Grown t key trait [a] (t.insert (key a) a) where
  find?_eq_some_iff k b := by
    rw [find?_insert_eq_some_iff, List.mem_singleton]
    constructor
    · rintro (⟨rfl, rfl⟩ | ⟨-, hold⟩)
      · exact .inr ⟨rfl, rfl⟩
      · exact .inl hold
    · rintro (hold | ⟨rfl, rfl⟩)
      · refine .inr ⟨?_, hold⟩
        rintro rfl
        rw [hkey] at hold
        cases hold
      · exact .inl ⟨rfl, rfl⟩
  key_new := by simpa using hkey
  trait_new := by simpa using htrait
  keys_nodup := by simp

end Grown

end Table

/-! ## Directories with more in them -/

namespace Directory

variable {d d' d'' : Directory} {roles : List Role} {principals : List Principal}

/--
A directory is another one with some roles and some principals added, all of them with
identifiers that were not in use, and with names and logins that were not in use.
-/
structure Grown (d : Directory) (roles : List Role) (principals : List Principal)
    (d' : Directory) : Prop where
  roles : d.roles.Grown Role.id Role.name roles d'.roles
  principals : d.principals.Grown Principal.id Principal.login principals d'.principals

theorem hasRoleName_eq_false_iff {name : String} :
    d.hasRoleName name = false ↔ d.roles.Lacks Role.name name := by
  rw [Bool.eq_false_iff, Ne, hasRoleName_eq_true_iff]
  simp only [Table.Lacks, not_exists, not_and, Ne]

theorem hasLogin_eq_false_iff {login : String} :
    d.hasLogin login = false ↔ d.principals.Lacks Principal.login login := by
  rw [Bool.eq_false_iff, Ne, hasLogin_eq_true_iff]
  simp only [Table.Lacks, not_exists, not_and, Ne]

namespace Grown

theorem refl (d : Directory) : Grown d [] [] d := ⟨.refl _ _ _, .refl _ _ _⟩

theorem trans {more : List Role} {others : List Principal} (h : Grown d roles principals d')
    (h' : Grown d' more others d'') : Grown d (roles ++ more) (principals ++ others) d'' :=
  ⟨h.roles.trans h'.roles, h.principals.trans h'.principals⟩

/-- Registering a role adds it. -/
theorem of_insertRole {role stored : Role} (h : d.insertRole role = .ok (stored, d')) :
    Grown d [role] [] d' := by
  obtain ⟨hid, hname, -, rfl⟩ := insertRole_eq_ok_iff.1 h
  exact ⟨.insert hid (hasRoleName_eq_false_iff.1 hname), .refl _ _ _⟩

/-- Registering a principal adds it when its identifier is new. -/
theorem of_insertPrincipal {p : Principal} (hid : d.principals.find? p.id = none)
    (h : d.insertPrincipal p = .ok d') : Grown d [] [p] d' := by
  obtain ⟨-, hlogin, rfl⟩ := insertPrincipal_eq_ok_iff.1 h
  exact ⟨.refl _ _ _, .insert hid (hasLogin_eq_false_iff.1 hlogin)⟩

/-- The name of an added role was not in use. -/
theorem hasRoleName_eq_false (h : Grown d roles principals d') {role : Role}
    (hmem : role ∈ roles) : d.hasRoleName role.name = false :=
  hasRoleName_eq_false_iff.2 (h.roles.trait_new role hmem)

/-- The login of an added principal was not in use. -/
theorem hasLogin_eq_false (h : Grown d roles principals d') {p : Principal}
    (hmem : p ∈ principals) : d.hasLogin p.login = false :=
  hasLogin_eq_false_iff.2 (h.principals.trait_new p hmem)

/-- A name is taken afterwards when it was taken before or an added role has it. -/
theorem hasRoleName_eq_true_iff (h : Grown d roles principals d') {name : String} :
    d'.hasRoleName name = true ↔
      d.hasRoleName name = true ∨ ∃ role ∈ roles, role.name = name := by
  rw [← Bool.not_eq_false, hasRoleName_eq_false_iff, h.roles.lacks_iff, ← Bool.not_eq_false,
    hasRoleName_eq_false_iff]
  simp only [not_and_or, not_forall, not_not, exists_prop]

/-- A login is taken afterwards when it was taken before or an added principal has it. -/
theorem hasLogin_eq_true_iff (h : Grown d roles principals d') {login : String} :
    d'.hasLogin login = true ↔
      d.hasLogin login = true ∨ ∃ p ∈ principals, p.login = login := by
  rw [← Bool.not_eq_false, hasLogin_eq_false_iff, h.principals.lacks_iff, ← Bool.not_eq_false,
    hasLogin_eq_false_iff]
  simp only [not_and_or, not_forall, not_not, exists_prop]

end Grown

/-! ## Directories with the same in them -/

/-- Two directories hold the same roles and the same principals. -/
def SameAs (d d' : Directory) : Prop :=
  (∀ id, d'.roles.find? id = d.roles.find? id) ∧
    ∀ id, d'.principals.find? id = d.principals.find? id

theorem SameAs.refl (d : Directory) : d.SameAs d := ⟨fun _ => rfl, fun _ => rfl⟩

/-- A directory that has grown holds the same exactly when nothing was added. -/
theorem Grown.sameAs_iff (h : Grown d roles principals d') :
    d.SameAs d' ↔ roles = [] ∧ principals = [] := by
  constructor
  · rintro ⟨hroles, hprincipals⟩
    exact ⟨h.roles.eq_nil hroles, h.principals.eq_nil hprincipals⟩
  · rintro ⟨rfl, rfl⟩
    exact ⟨h.roles.find?_eq_of_nil, h.principals.find?_eq_of_nil⟩

/-! ## Why a registration is refused -/

theorem conflict_of_insertRole {role : Role} {error : AuthorizationError}
    (h : d.insertRole role = .error error) : ∃ cause, error = .conflict cause := by
  unfold insertRole at h
  split at h
  · cases h
    exact ⟨_, rfl⟩
  · split at h
    · cases h
      exact ⟨_, rfl⟩
    · cases h

/-- A role with a new identifier is refused for its name only. -/
theorem nameTaken_of_insertRole {role : Role} {error : AuthorizationError}
    (hid : d.roles.find? role.id = none) (h : d.insertRole role = .error error) :
    d.hasRoleName role.name = true ∧ error = .conflict (.roleNameTaken role.name) := by
  unfold insertRole at h
  rw [Table.contains_eq_false_iff.2 hid, if_neg Bool.false_ne_true] at h
  cases hname : d.hasRoleName role.name with
  | false =>
    rw [hname, if_neg Bool.false_ne_true] at h
    cases h
  | true =>
    rw [hname, if_pos rfl] at h
    cases h
    exact ⟨rfl, rfl⟩

theorem not_malformed_of_insertPrincipal {p : Principal} {error : AuthorizationError}
    (h : d.insertPrincipal p = .error error) (defect : PolicyDefect) :
    error ≠ .malformedPolicy defect := by
  unfold insertPrincipal at h
  split at h
  · cases h
    simp
  · split at h
    · cases h
      simp
    · cases h

/-- A principal whose role is stored is refused for its login only. -/
theorem loginTaken_of_insertPrincipal {p : Principal} {error : AuthorizationError}
    (hrole : d.roles.contains p.roleId = true) (h : d.insertPrincipal p = .error error) :
    d.hasLogin p.login = true ∧ error = .conflict (.loginTaken p.login) := by
  unfold insertPrincipal at h
  rw [hrole, if_neg (by simp)] at h
  cases hlogin : d.hasLogin p.login with
  | false =>
    rw [hlogin, if_neg Bool.false_ne_true] at h
    cases h
  | true =>
    rw [hlogin, if_pos rfl] at h
    cases h
    exact ⟨rfl, rfl⟩

end Directory

end AccessControl
