/-
# Policy documents survive text and refuse strangers

A document is read back from its text with the members of each of its objects in any order,
and without its principals when it has none.  The objects of a document are strict: one more
member in any of them, wherever it stands and whatever its value, and the whole text is
refused (`forms_read_strangers_refused`).  Only the matrices inside are kept as they are.
-/
import AccessControl.Policy
import AccessControl.Proofs.Json.Forms
import AccessControl.Proofs.Role.Persistence

namespace AccessControl

open Json (Intruded Written given given_of_mem given_of_not_mem)
open Json.Record (advances_given advances_required advances_trailing)

variable {text : List Char} {nesting : Nat}

/-! ## Matrices -/

theorem ActionRights.takes_of_written (row : ActionRights) (h : Written row.toValue text) :
    Json.Reader.value.Takes (nesting + 1) text row.toValue := by
  refine Json.takes_of_written_object (Keyed.increasing_ofList _) ?_ h
  rintro ⟨key, found⟩ hmem text htext
  obtain ⟨a, -, rfl⟩ := (Keyed.mem_ofList_iff row.find?_stored).1 hmem
  have hscalar : (Json.Value.bool (row.allows a)).IsScalar := trivial
  rw [(Json.written_scalar_iff hscalar).1 htext]
  exact Json.takes_bool _ nesting

/-- A matrix is taken back in the order in which it is stored, in whatever order it is written. -/
theorem AccessRights.takes_of_written (rights : AccessRights) (h : Written rights.toValue text) :
    Json.Reader.value.Takes (nesting + 2) text rights.toValue := by
  refine Json.takes_of_written_object (Keyed.increasing_ofList _) ?_ h
  rintro ⟨key, found⟩ hmem text htext
  obtain ⟨r, -, rfl⟩ := (Keyed.mem_ofList_iff rights.find?_stored).1 hmem
  exact (rights.row r).takes_of_written htext

/-! ## Entries -/

namespace DeclaredRole

/-- A declared role of which the members with some keys have been read. -/
def drafts (role : DeclaredRole) (seen : List String) : Draft where
  name := given seen "name" role.name
  accessRights := given seen "accessRights" role.accessRights

theorem reads {role : DeclaredRole}
    (hrights : ∀ text, Written role.accessRights text →
      Json.Reader.value.Takes nesting text role.accessRights) :
    layout.Reads nesting [("name", .string role.name), ("accessRights", role.accessRights)]
      role.drafts role where
  nodup := by
    show ["name", "accessRights"].Nodup
    decide
  blank := rfl
  advances := by
    refine List.forall_mem_cons.2 ⟨fun text htext => ?_, List.forall_mem_singleton.2
      fun text htext => ?_⟩
    · refine advances_given (fun _ hnew => advances_required rfl hnew
        (Json.takes_of_written_string "a string" nesting htext)) (fun _ => rfl) fun seen => ?_
      simp [drafts]
    · refine advances_given (fun _ hnew => advances_required rfl hnew (hrights text htext))
        (fun _ => rfl) fun seen => ?_
      simp [drafts]
  finish seen h := by
    simp only [List.forall_mem_cons] at h
    obtain ⟨hname, hrights, -⟩ := h
    simp only [layout, drafts, given_of_mem, hname, hrights]
    rfl

end DeclaredRole

namespace DeclaredPrincipal

/-- A declared principal of which the members with some keys have been read. -/
def drafts (principal : DeclaredPrincipal) (seen : List String) : Draft where
  login := given seen "login" principal.login
  role := given seen "role" principal.role

theorem reads (principal : DeclaredPrincipal) (nesting : Nat) :
    layout.Reads nesting [("login", .string principal.login), ("role", .string principal.role)]
      principal.drafts principal where
  nodup := by
    show ["login", "role"].Nodup
    decide
  blank := rfl
  advances := by
    refine List.forall_mem_cons.2 ⟨fun text htext => ?_, List.forall_mem_singleton.2
      fun text htext => ?_⟩
    · refine advances_given (fun _ hnew => advances_required rfl hnew
        (Json.takes_of_written_string "a string" nesting htext)) (fun _ => rfl) fun seen => ?_
      simp [drafts]
    · refine advances_given (fun _ hnew => advances_required rfl hnew
        (Json.takes_of_written_string "a string" nesting htext)) (fun _ => rfl) fun seen => ?_
      simp [drafts]
  finish seen h := by
    simp only [List.forall_mem_cons] at h
    obtain ⟨hlogin, hrole, -⟩ := h
    simp only [layout, drafts, given_of_mem, hlogin, hrole]
    rfl

end DeclaredPrincipal

/-! ## Documents -/

namespace PolicyDocument

variable {document : PolicyDocument}

/-- A document of which the members with some keys have been read. -/
def drafts (document : PolicyDocument) (seen : List String) : Draft where
  roles := given seen "roles" document.roles
  principals := given seen "principals" document.principals

/-- Every declared matrix is the stored form of one. -/
def Stored (document : PolicyDocument) : Prop :=
  ∀ role ∈ document.roles, ∃ rights : AccessRights, role.accessRights = rights.toValue

/-- The values that stand for a document: it may do without its principals when it has none. -/
inductive Form (document : PolicyDocument) : Json.Value → Prop where
  | full : document.Form document.toJson
  | rolesOnly (hnone : document.principals = []) :
      document.Form (.object [("roles", .array (document.roles.map DeclaredRole.toJson))])

/-- The objects of a document, by the keys that lead to them, with the names of their members. -/
def levels : List (List String × List String) := [
  ([], ["roles", "principals"]),
  (["roles"], ["name", "accessRights"]),
  (["principals"], ["login", "role"])]

/-- Declared roles with stored matrices are read, however their members are written. -/
theorem reads_role (h : document.Stored) {role : DeclaredRole} (hrole : role ∈ document.roles)
    (nesting : Nat) :
    DeclaredRole.layout.Reads (nesting + 2)
      [("name", .string role.name), ("accessRights", role.accessRights)] role.drafts role := by
  obtain ⟨rights, hrights⟩ := h role hrole
  refine DeclaredRole.reads ?_
  rw [hrights]
  exact fun text => rights.takes_of_written

theorem takes_roles (h : document.Stored) (nesting : Nat) :
    ∀ role ∈ document.roles, ∀ text, Written role.toJson text →
      DeclaredRole.layout.reader.Takes (nesting + 3) text role :=
  fun _ hrole _ htext => (reads_role h hrole nesting).takes_of_written htext

theorem takes_principals (document : PolicyDocument) (nesting : Nat) :
    ∀ principal ∈ document.principals, ∀ text, Written principal.toJson text →
      DeclaredPrincipal.layout.reader.Takes (nesting + 1) text principal :=
  fun principal _ _ htext => (principal.reads nesting).takes_of_written htext

theorem advances_roles (h : document.Stored)
    (hwritten : Written (.array (document.roles.map DeclaredRole.toJson)) text)
    (seen : List String) (hnew : "roles" ∉ seen) :
    layout.Advances 126 (document.drafts seen) "roles" text
      (document.drafts ("roles" :: seen)) := by
  -- of the brackets of the text those of the document, the list and the entry are open already
  have htakes := Json.takes_of_written_array (takes_roles h 122) hwritten
  refine advances_given (fun _ hnew => advances_required rfl hnew htakes) (fun _ => rfl)
    (fun seen => ?_) seen hnew
  simp [drafts]

theorem advances_principals
    (hwritten : Written (.array (document.principals.map DeclaredPrincipal.toJson)) text)
    (seen : List String) (hnew : "principals" ∉ seen) :
    layout.Advances 126 (document.drafts seen) "principals" text
      (document.drafts ("principals" :: seen)) := by
  have htakes := Json.takes_of_written_array (document.takes_principals 124) hwritten
  refine advances_given (fun _ hnew => advances_trailing rfl hnew htakes) (fun _ => rfl)
    (fun seen => ?_) seen hnew
  simp [drafts]

/-- Principals that have not been read are none. -/
theorem finish_drafts {seen : List String} (hroles : "roles" ∈ seen)
    (hprincipals : "principals" ∈ seen ∨ document.principals = []) :
    layout.finish (document.drafts seen) = .ok document := by
  have hgiven : (given seen "principals" document.principals).getD [] = document.principals := by
    rcases hprincipals with hmem | hnone
    · rw [given_of_mem hmem]
      rfl
    · rw [hnone, given]
      split <;> rfl
  simp only [layout, drafts, given_of_mem hroles, hgiven]
  rfl

/-- The members of a form are the roles and the principals, and the document is read from them. -/
theorem exists_reads (h : document.Stored) {form : Json.Value} (hform : document.Form form) :
    ∃ members, form = .object members ∧ layout.Reads 126 members document.drafts document ∧
      ∀ key value, (key, value) ∈ members →
        key = "roles" ∧ value = .array (document.roles.map DeclaredRole.toJson) ∨
        key = "principals" ∧ value = .array (document.principals.map DeclaredPrincipal.toJson) := by
  cases hform with
  | full =>
    refine ⟨_, rfl, ⟨?_, rfl, ?_, fun seen hseen => ?_⟩, fun key value hmem => by simpa using hmem⟩
    · show ["roles", "principals"].Nodup
      decide
    · exact List.forall_mem_cons.2 ⟨fun _ => advances_roles h,
        List.forall_mem_singleton.2 fun _ => advances_principals⟩
    · rw [List.forall_mem_cons, List.forall_mem_singleton] at hseen
      exact finish_drafts hseen.1 (.inl hseen.2)
  | rolesOnly hnone =>
    refine ⟨_, rfl, ⟨?_, rfl, ?_, fun seen hseen => ?_⟩,
      fun key value hmem => .inl (by simpa using hmem)⟩
    · exact List.nodup_singleton "roles"
    · exact List.forall_mem_singleton.2 fun _ => advances_roles h
    · rw [List.forall_mem_singleton] at hseen
      exact finish_drafts hseen (.inr hnone)

/-- A document with an intruder in one of its objects is refused. -/
theorem refuses_intruded (h : document.Stored) {form : Json.Value} (hform : document.Form form)
    {path names : List String} (hlevel : (path, names) ∈ levels) {name : String}
    (hname : name ∉ names) {cs : List Char} (hintruded : Intruded name cs path form text) :
    layout.reader.Refuses 127 text (.unknownField name names) := by
  obtain ⟨members, rfl, hreads, hmembers⟩ := document.exists_reads h hform
  have hcases : (path = [] ∧ names = ["roles", "principals"]) ∨
      (path = ["roles"] ∧ names = ["name", "accessRights"]) ∨
      (path = ["principals"] ∧ names = ["login", "role"]) := by
    simpa [levels] using hlevel
  obtain ⟨rfl, rfl⟩ | ⟨rfl, rfl⟩ | ⟨rfl, rfl⟩ := hcases
  -- in the document itself, in one of its roles, in one of its principals
  · exact hreads.refuses_of_intruded_here rfl hname hintruded
  · refine hreads.refuses_of_intruded_member ?_ hintruded
    intro value hmem text hvalue seen hnew
    obtain ⟨-, rfl⟩ | ⟨hkey, -⟩ := hmembers _ _ hmem
    · refine Json.Record.rejects_required rfl (given_of_not_mem hnew document.roles) ?_
      refine Json.refuses_of_intruded_array (document.takes_roles h 122) ?_ hvalue
      intro role hrole text htext
      exact (reads_role h hrole 122).refuses_of_intruded_here rfl hname htext
    · exact absurd hkey (by decide)
  · refine hreads.refuses_of_intruded_member ?_ hintruded
    intro value hmem text hvalue seen hnew
    obtain ⟨hkey, -⟩ | ⟨-, rfl⟩ := hmembers _ _ hmem
    · exact absurd hkey (by decide)
    · refine Json.Record.rejects_trailing rfl (given_of_not_mem hnew document.principals) ?_
      refine Json.refuses_of_intruded_array (document.takes_principals 124) ?_ hvalue
      intro principal _ text htext
      exact (principal.reads 124).refuses_of_intruded_here rfl hname htext

/--
**A document survives its text, and its text refuses strangers.**  When the declared matrices
are stored ones, a document is read back from its text, and from every text of a form of it
with the members of its objects in any order.  With one more member in the document itself or
in one of its entries, under a name that is not declared there, the text is malformed,
wherever the member stands and whatever its value is written as.
-/
theorem forms_read_strangers_refused (document : PolicyDocument) (h : document.Stored) :
    ofText document.toJson.render = .ok document ∧
      ∀ form, document.Form form →
        (∀ text, Written form text.toList → ofText text = .ok document) ∧
        ∀ path names, (path, names) ∈ levels → ∀ name, name ∉ names →
          ∀ (value : List Char) (text : String), Intruded name value path form text.toList →
          ofText text = .error (.malformedPolicy (.unreadable (.unknownField name names))) := by
  have hwritten : ∀ form, document.Form form → ∀ text, Written form text.toList →
      ofText text = .ok document := by
    intro form hform text htext
    obtain ⟨members, rfl, hreads, -⟩ := document.exists_reads h hform
    have hread : readText text = .ok document :=
      Json.readAll_of_takes (hreads.takes_of_written htext)
    rw [ofText, hread]
    rfl
  refine ⟨hwritten _ .full _ ?_, fun form hform => ⟨hwritten form hform, ?_⟩⟩
  · rw [Json.Value.render, String.toList_ofList]
    exact Json.written_chars _
  · intro path names hlevel name hname value text htext
    have hread : readText text = .error (.unknownField name names) :=
      Json.readAll_of_refuses (document.refuses_intruded h hform hlevel hname htext)
    rw [ofText, hread]
    rfl

/-- A document of one role and no principals, without the member for these: with the members of
its role the other way round it is read, with a third one between them it is malformed. -/
theorem forms_read_strangers_refused_loneRole :
    let rights := AccessRights.full.toValue
    let document : PolicyDocument := ⟨[⟨"admin", rights⟩], []⟩
    let form : Json.Value := .object [("roles", .array (document.roles.map DeclaredRole.toJson))]
    let reordered := Json.objectChars [("roles", Json.arrayChars [Json.objectChars [
      ("accessRights", rights.chars), ("name", Json.textChars "admin")]])]
    let intruded := Json.objectChars [("roles", Json.arrayChars [Json.objectChars [
      ("accessRights", rights.chars), ("level", ['7']), ("name", Json.textChars "admin")]])]
    document.Stored ∧ document.Form form ∧
      Written form reordered ∧ ofText (.ofList reordered) = .ok document ∧
      Intruded "level" ['7'] ["roles"] form intruded ∧
      ofText (.ofList intruded) = .error (.malformedPolicy
        (.unreadable (.unknownField "level" ["name", "accessRights"]))) := by
  intro rights document form reordered intruded
  have hstored : document.Stored := List.forall_mem_singleton.2 ⟨AccessRights.full, rfl⟩
  have hform : document.Form form := .rolesOnly rfl
  have hrights : Written rights rights.chars := Json.written_chars rights
  have hname : Written (.string "admin") (Json.textChars "admin") := Json.written_chars _
  have hwritten : Written form reordered :=
    .object (.refl _) rfl (.cons (.array (.cons
      (.object (.swap _ _ _) rfl (.cons hrights (.cons hname .nil))) .nil)) .nil)
  have hentry : Intruded "level" ['7'] [] (DeclaredRole.toJson ⟨"admin", rights⟩)
      (Json.objectChars ([("accessRights", rights.chars)] ++
        ("level", ['7']) :: [("name", Json.textChars "admin")])) :=
    .here (.swap _ _ _) (.cons ⟨rfl, hrights⟩ (.cons ⟨rfl, hname⟩ .nil))
  have hlist : Intruded "level" ['7'] ["roles"] form
      (Json.objectChars ([] ++ ("roles", Json.arrayChars ([] ++ _ :: [])) :: [])) :=
    .member (.refl _) .nil .nil (.item .nil .nil hentry)
  obtain ⟨hread, hrefused⟩ := (forms_read_strangers_refused document hstored).2 form hform
  refine ⟨hstored, hform, hwritten, hread _ ?_, hlist, ?_⟩
  · rwa [String.toList_ofList]
  · refine hrefused ["roles"] _ (by simp [levels]) "level" (by decide) ['7'] _ ?_
    rwa [String.toList_ofList]

end PolicyDocument

end AccessControl
