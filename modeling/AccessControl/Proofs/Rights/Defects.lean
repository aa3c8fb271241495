/-
# Defects of stored matrices

A stored matrix can have many defects at once: unknown keys at two levels, missing
entries and flags, and values of the wrong kind.  Each is about one part of the document,
and the parts have an order: the document, its keys, then for every resource its entry,
the keys of the entry and its flags, with resources and actions in order of declaration
and keys in the order of their bytes.  Reading a document gives its first defect in this
order, and a matrix when there is none.
-/
import AccessControl.Proofs.Rights.Stored
import AccessControl.Proofs.Text.Bytes

namespace AccessControl

/-! ## Parts of a document -/

/-- A part of a stored matrix. -/
inductive MatrixPart where
  | document
  | resourceKey (key : String)
  | entry (resource : Resource)
  | actionKey (resource : Resource) (key : String)
  | flag (resource : Resource) (action : Action)
  deriving DecidableEq

namespace MatrixPart

/-- How a part is named in a message. -/
def path : MatrixPart → String
  | .document => "accessRights"
  | .resourceKey key => key
  | .entry resource => resource.name
  | .actionKey resource key => resource.name ++ "." ++ key
  | .flag resource action => resource.name ++ "." ++ action.name

/--
Where a part stands: the document first, then its keys, then the entries of the resources,
each followed by its keys and then by the flags of its actions.
-/
def position : MatrixPart → List Nat
  | .document => []
  | .resourceKey _ => [0]
  | .entry resource => [1, Resource.all.idxOf resource]
  | .actionKey resource _ => [1, Resource.all.idxOf resource, 0]
  | .flag resource action => [1, Resource.all.idxOf resource, 1, Action.all.idxOf action]

/-- The key that a part is about, for parts that are told apart by it. -/
def key : MatrixPart → String
  | .resourceKey key => key
  | .actionKey _ key => key
  | _ => ""

/-- One part comes before another: by its position, then by the bytes of its key. -/
def Before (p q : MatrixPart) : Prop :=
  p.position < q.position ∨ p.position = q.position ∧ Text.bytes p.key < Text.bytes q.key

theorem Before.irrefl (p : MatrixPart) : ¬ p.Before p := by
  rintro (h | ⟨-, h⟩)
  · exact List.lt_irrefl _ h
  · exact List.lt_irrefl _ h

theorem Before.trans {p q r : MatrixPart} (h : p.Before q) (h' : q.Before r) : p.Before r := by
  rcases h with hlt | ⟨heq, hkey⟩
  · rcases h' with hlt' | ⟨heq', -⟩
    · exact .inl (List.lt_trans hlt hlt')
    · exact .inl (heq' ▸ hlt)
  · rcases h' with hlt' | ⟨heq', hkey'⟩
    · exact .inl (heq ▸ hlt')
    · exact .inr ⟨heq.trans heq', List.lt_trans hkey hkey'⟩

end MatrixPart

namespace MatrixDefect

/-- The part that a defect is about. -/
def part : MatrixDefect → MatrixPart
  | .notAnObject _ => .document
  | .unknownResource key => .resourceKey key
  | .missingResource resource => .entry resource
  | .entryNotAnObject resource _ => .entry resource
  | .unknownAction resource key => .actionKey resource key
  | .missingAction resource action => .flag resource action
  | .notBoolean resource action _ => .flag resource action

/-- One defect comes before another when its part does. -/
def Before (d e : MatrixDefect) : Prop := d.part.Before e.part

/-- What is wrong with a part, in words. -/
def complaint : MatrixDefect → String
  | .notAnObject found => "expected an object, found " ++ found.render
  | .unknownResource _ => "unknown resource"
  | .missingResource _ => "missing resource entry"
  | .entryNotAnObject _ found => "expected an object, found " ++ found.render
  | .unknownAction _ _ => "unknown action"
  | .missingAction _ _ => "missing action"
  | .notBoolean _ _ found => "expected boolean, found " ++ found.render

/-- A path and a text that starts with a colon are a path, a colon and what is wrong. -/
theorem append_colon (path text complaint : String) (h : text = ": " ++ complaint) :
    path ++ text = path ++ ": " ++ complaint := by
  rw [h, String.append_assoc]

theorem append_colon_found (path text complaint found : String) (h : text = ": " ++ complaint) :
    path ++ text ++ found = path ++ ": " ++ (complaint ++ found) := by
  rw [append_colon path text complaint h, String.append_assoc]

/-- **A message says which part is defective**, and then what is wrong with it. -/
theorem message_eq (d : MatrixDefect) : d.message = d.part.path ++ ": " ++ d.complaint := by
  cases d with
  | notAnObject found =>
    exact append_colon_found "accessRights" ": expected an object, found "
      "expected an object, found " found.render rfl
  | unknownResource key => exact append_colon key ": unknown resource" "unknown resource" rfl
  | missingResource resource =>
    exact append_colon resource.name ": missing resource entry" "missing resource entry" rfl
  | entryNotAnObject resource found =>
    exact append_colon_found resource.name ": expected an object, found "
      "expected an object, found " found.render rfl
  | unknownAction resource key =>
    exact append_colon (resource.name ++ "." ++ key) ": unknown action" "unknown action" rfl
  | missingAction resource action =>
    exact append_colon (resource.name ++ "." ++ action.name) ": missing action" "missing action" rfl
  | notBoolean resource action found =>
    exact append_colon_found (resource.name ++ "." ++ action.name) ": expected boolean, found "
      "expected boolean, found " found.render rfl

/-! ## What the defects of a document are -/

/-- A defect of what a document holds for a resource, if anything. -/
inductive InEntry (resource : Resource) : Option Json.Value → MatrixDefect → Prop
  | missing : InEntry resource none (.missingResource resource)
  | notAnObject {found : Json.Value} (h : found.members? = none) :
    InEntry resource (some found) (.entryNotAnObject resource found)
  | unknownAction {entry : List (String × Json.Value)} {key : String}
    (hkey : ∃ value, Keyed.find? entry key = some value) (h : ∀ a : Action, a.name ≠ key) :
    InEntry resource (some (.object entry)) (.unknownAction resource key)
  | missingAction {entry : List (String × Json.Value)} {action : Action}
    (h : Keyed.find? entry action.name = none) :
    InEntry resource (some (.object entry)) (.missingAction resource action)
  | notBoolean {entry : List (String × Json.Value)} {action : Action} {found : Json.Value}
    (hfound : Keyed.find? entry action.name = some found) (h : ∀ allowed, found ≠ .bool allowed) :
    InEntry resource (some (.object entry)) (.notBoolean resource action found)

/-- A defect of a document. -/
inductive In : Json.Value → MatrixDefect → Prop
  | notAnObject {found : Json.Value} (h : found.members? = none) : In found (.notAnObject found)
  | unknownResource {members : List (String × Json.Value)} {key : String}
    (hkey : ∃ value, Keyed.find? members key = some value) (h : ∀ r : Resource, r.name ≠ key) :
    In (.object members) (.unknownResource key)
  | inEntry {members : List (String × Json.Value)} {resource : Resource} {defect : MatrixDefect}
    (h : defect.InEntry resource (Keyed.find? members resource.name)) :
    In (.object members) defect

end MatrixDefect

/-! ## All defects in order -/

section

variable {α β : Type}

/-- The keys that are not names, in the order of the members. -/
def unknownKeys (members : List (String × α)) (ofName? : String → Option β) : List String :=
  (members.filter fun member => (ofName? member.1).isNone).map Prod.fst

theorem mem_unknownKeys {members : List (String × α)} {name : β → String}
    {ofName? : String → Option β} (hname : ∀ key item, ofName? key = some item ↔ name item = key)
    {key : String} :
    key ∈ unknownKeys members ofName? ↔
      (∃ value, Keyed.find? members key = some value) ∧ ∀ item, name item ≠ key := by
  have hunknown : (ofName? key).isNone ↔ ∀ item, name item ≠ key := by
    simp only [Option.isNone_iff_eq_none, Option.eq_none_iff_forall_ne_some, Ne, hname]
  rw [unknownKeys, List.mem_map, ← hunknown]
  constructor
  · rintro ⟨⟨k, value⟩, hmem, rfl⟩
    obtain ⟨hmem, hnone⟩ := List.mem_filter.1 hmem
    exact ⟨Keyed.exists_find?_of_mem hmem, hnone⟩
  · rintro ⟨⟨value, hfind⟩, hnone⟩
    exact ⟨(key, value), List.mem_filter.2 ⟨Keyed.mem_of_find? hfind, hnone⟩, rfl⟩

/-- Unknown keys increase in their bytes when the members are in key order. -/
theorem pairwise_unknownKeys {members : List (String × α)} (h : Keyed.Increasing members)
    (ofName? : String → Option β) :
    (unknownKeys members ofName?).Pairwise fun k l => Text.bytes k < Text.bytes l := by
  rw [unknownKeys, List.pairwise_map]
  exact (h.filter _).imp Text.bytes_lt_bytes_iff.2

/-- A search through a list asks the first item, then the others. -/
theorem findSome?_cons_eq_or (f : α → Option β) (item : α) (rest : List α) :
    (item :: rest).findSome? f = (f item).or (rest.findSome? f) := by
  rw [List.findSome?_cons]
  cases f item <;> rfl

/-- The first unknown key is the one that a search finds. -/
theorem head?_unknownKeys (members : List (String × α)) (ofName? : String → Option β) :
    (unknownKeys members ofName?).head?
      = (members.find? fun member => (ofName? member.1).isNone).map Prod.fst := by
  rw [unknownKeys, List.head?_map, List.head?_filter]

end

namespace MatrixDefect

/-- The defects of a flag, of which there is one at most. -/
def ofFlag (resource : Resource) (action : Action) : Option Json.Value → List MatrixDefect
  | none => [.missingAction resource action]
  | some (.bool _) => []
  | some found => [.notBoolean resource action found]

/-- The defects of what a document holds for a resource. -/
def ofEntry (resource : Resource) : Option Json.Value → List MatrixDefect
  | none => [.missingResource resource]
  | some (.object entry) =>
    (unknownKeys entry Action.ofName?).map (.unknownAction resource) ++
      Action.all.flatMap fun action =>
        ofFlag resource action (Keyed.find? entry action.name)
  | some found => [.entryNotAnObject resource found]

/-- The defects of a document. -/
def all : Json.Value → List MatrixDefect
  | .object members =>
    (unknownKeys members Resource.ofName?).map .unknownResource ++
      Resource.all.flatMap fun resource =>
        ofEntry resource (Keyed.find? members resource.name)
  | found => [.notAnObject found]

variable {resource : Resource} {action : Action} {d e : MatrixDefect} {v : Json.Value}
  {found : Option Json.Value}

theorem mem_ofFlag :
    d ∈ ofFlag resource action found ↔
      found = none ∧ d = .missingAction resource action ∨
        ∃ value, found = some value ∧ (∀ allowed, value ≠ .bool allowed) ∧
          d = .notBoolean resource action value := by
  cases found with
  | none => simp [ofFlag]
  | some value => cases value <;> simp [ofFlag]

/-- The list holds every defect of an entry. -/
theorem mem_ofEntry : d ∈ ofEntry resource found ↔ d.InEntry resource found := by
  match found with
  | none =>
    constructor
    · intro h
      rw [List.mem_singleton.1 h]
      exact .missing
    · rintro ⟨⟩
      exact List.mem_singleton_self _
  | some (.object entry) =>
    simp only [ofEntry, List.mem_append, List.mem_map, List.mem_flatMap,
      mem_unknownKeys fun _ _ => Action.ofName?_eq_some_iff, mem_ofFlag, Action.mem_all, true_and]
    constructor
    · rintro (⟨key, ⟨hkey, hunknown⟩, rfl⟩ | ⟨action, ⟨hnone, rfl⟩ | ⟨value, hvalue, hbool, rfl⟩⟩)
      · exact .unknownAction hkey hunknown
      · exact .missingAction hnone
      · exact .notBoolean hvalue hbool
    · intro h
      cases h with
      | notAnObject h => cases h
      | unknownAction hkey h => exact .inl ⟨_, ⟨hkey, h⟩, rfl⟩
      | missingAction h => exact .inr ⟨_, .inl ⟨h, rfl⟩⟩
      | notBoolean hfound h => exact .inr ⟨_, .inr ⟨_, hfound, h, rfl⟩⟩
  | some .null | some (.bool _) | some (.number _) | some (.string _) | some (.array _) =>
    constructor
    · intro h
      rw [List.mem_singleton.1 h]
      exact .notAnObject rfl
    · rintro ⟨⟩
      exact List.mem_singleton_self _

/-- **The list holds every defect of a document**, and nothing else. -/
theorem mem_all : d ∈ all v ↔ d.In v := by
  cases v with
  | object members =>
    simp only [all, List.mem_append, List.mem_map, List.mem_flatMap,
      mem_unknownKeys fun _ _ => Resource.ofName?_eq_some_iff, mem_ofEntry, Resource.mem_all,
      true_and]
    constructor
    · rintro (⟨key, ⟨hkey, hunknown⟩, rfl⟩ | ⟨resource, h⟩)
      · exact .unknownResource hkey hunknown
      · exact .inEntry h
    · intro h
      cases h with
      | notAnObject h => cases h
      | unknownResource hkey h => exact .inl ⟨_, ⟨hkey, h⟩, rfl⟩
      | inEntry h => exact .inr ⟨_, h⟩
  | _ =>
    constructor
    · intro h
      rw [List.mem_singleton.1 h]
      exact .notAnObject rfl
    · rintro ⟨⟩
      exact List.mem_singleton_self _

/-! ## The list is in order -/

theorem part_of_mem_ofFlag (h : d ∈ ofFlag resource action found) :
    d.part = .flag resource action := by
  rcases mem_ofFlag.1 h with ⟨-, rfl⟩ | ⟨value, -, -, rfl⟩
  · rfl
  · rfl

/-- The position of a defect of an entry starts with that of the entry. -/
theorem exists_position_eq (h : d.InEntry resource found) :
    ∃ rest, d.part.position = 1 :: Resource.all.idxOf resource :: rest := by
  cases h <;> exact ⟨_, rfl⟩

theorem pairwise_ofFlag : (ofFlag resource action found).Pairwise Before := by
  match found with
  | none => exact List.pairwise_singleton _ _
  | some (.bool _) => exact .nil
  | some .null | some (.number _) | some (.string _) | some (.array _) | some (.object _) =>
    exact List.pairwise_singleton _ _

/-- The flags of an entry come in order of declaration. -/
theorem pairwise_flags (entry : List (String × Json.Value)) :
    (Action.all.flatMap fun action =>
      ofFlag resource action (Keyed.find? entry action.name)).Pairwise Before := by
  rw [List.pairwise_flatMap]
  refine ⟨fun action _ => pairwise_ofFlag, Action.pairwise_idxOf_all.imp ?_⟩
  intro a b hlt d hd e he
  rw [Before, part_of_mem_ofFlag hd, part_of_mem_ofFlag he]
  exact .inl (by simp [MatrixPart.position, List.cons_lt_cons_iff, hlt])

/-- The defects of an entry are listed in order. -/
theorem pairwise_ofEntry (hfound : ∀ value, found = some value → value.Canonical) :
    (ofEntry resource found).Pairwise Before := by
  match found with
  | none => exact List.pairwise_singleton _ _
  | some (.object entry) =>
    have hordered : Keyed.Increasing entry := (hfound _ rfl).1
    rw [ofEntry, List.pairwise_append, List.pairwise_map]
    refine ⟨?_, pairwise_flags entry, ?_⟩
    · exact (pairwise_unknownKeys hordered _).imp fun hlt => .inr ⟨rfl, hlt⟩
    · -- the keys of an entry come before its flags
      intro d hd e he
      obtain ⟨key, -, rfl⟩ := List.mem_map.1 hd
      obtain ⟨action, -, he⟩ := List.mem_flatMap.1 he
      rw [Before, part_of_mem_ofFlag he]
      exact .inl (by simp [part, MatrixPart.position, List.cons_lt_cons_iff])
  | some .null | some (.bool _) | some (.number _) | some (.string _) | some (.array _) =>
    exact List.pairwise_singleton _ _

/-- The defects of the entries come in the order in which the resources are declared. -/
theorem pairwise_entries {members : List (String × Json.Value)}
    (hmembers : ∀ member ∈ members, member.2.Canonical) :
    (Resource.all.flatMap fun resource =>
      ofEntry resource (Keyed.find? members resource.name)).Pairwise Before := by
  rw [List.pairwise_flatMap]
  refine ⟨fun resource _ => pairwise_ofEntry fun value hvalue => ?_,
    Resource.pairwise_idxOf_all.imp ?_⟩
  · exact hmembers _ (Keyed.mem_of_find? hvalue)
  · intro r s hlt d hd e he
    obtain ⟨rest, hposition⟩ := exists_position_eq (mem_ofEntry.1 hd)
    obtain ⟨rest', hposition'⟩ := exists_position_eq (mem_ofEntry.1 he)
    exact .inl (by simp [hposition, hposition', List.cons_lt_cons_iff, hlt])

/-- **The list of defects is in order**, so that no two of them are about the same part. -/
theorem pairwise_all (hv : v.Canonical) : (all v).Pairwise Before := by
  cases v with
  | object members =>
    obtain ⟨hordered, hmembers⟩ := hv
    rw [all, List.pairwise_append, List.pairwise_map]
    refine ⟨?_, pairwise_entries (Json.Value.membersCanonical_iff.1 hmembers), ?_⟩
    · exact (pairwise_unknownKeys hordered _).imp fun hlt => .inr ⟨rfl, hlt⟩
    · -- the keys of the document come before the entries
      intro d hd e he
      obtain ⟨key, -, rfl⟩ := List.mem_map.1 hd
      obtain ⟨resource, -, he⟩ := List.mem_flatMap.1 he
      obtain ⟨rest, hposition⟩ := exists_position_eq (mem_ofEntry.1 he)
      have hlt : [0] < e.part.position := by
        rw [hposition]
        simp [List.cons_lt_cons_iff]
      exact .inl hlt
  | _ => exact List.pairwise_singleton _ _

/-- A defect is the first of the list when it comes before every other one. -/
theorem head?_all_eq_some_iff (hv : v.Canonical) :
    (all v).head? = some d ↔ d.In v ∧ ∀ e, e.In v → e ≠ d → d.Before e := by
  have hpairwise := pairwise_all hv
  simp only [← mem_all]
  cases hall : all v with
  | nil => simp
  | cons first rest =>
    rw [hall] at hpairwise
    have hfirst := (List.pairwise_cons.1 hpairwise).1
    rw [List.head?_cons, Option.some.injEq]
    constructor
    · rintro rfl
      refine ⟨List.mem_cons_self, fun e he hne => ?_⟩
      exact hfirst e ((List.mem_cons.1 he).resolve_left hne)
    · rintro ⟨hd, hbefore⟩
      rcases List.mem_cons.1 hd with heq | hmem
      · exact heq.symm
      · -- two defects would come before one another
        by_cases hne : first = d
        · exact hne
        · have hcycle := (hfirst d hmem).trans (hbefore first List.mem_cons_self hne)
          exact absurd hcycle (MatrixPart.Before.irrefl _)

end MatrixDefect

/-! ## Reading gives the first defect -/

open MatrixDefect (ofFlag ofEntry)

namespace ActionRights

variable {resource : Resource}

/-- A row fails as the first of its flags that fails. -/
theorem error?_collect {ε : Type} (flag : Action → Except ε Bool) :
    error? (collect flag) = Action.all.findSome? fun action => error? (flag action) := by
  simp only [Action.all, findSome?_cons_eq_or, List.findSome?_nil]
  exact error?_bind fun _ => error?_bind fun _ => error?_bind fun _ => error?_bind fun _ =>
    error?_bind fun _ => rfl

theorem error?_flagOf (entry : List (String × Json.Value)) (action : Action) :
    error? (flagOf resource entry action)
      = (ofFlag resource action (Keyed.find? entry action.name)).head? := by
  unfold flagOf
  cases Keyed.find? entry action.name with
  | none => rfl
  | some found => cases found <;> rfl

/-- **An entry is read unless it has a defect**, and then the first one is given. -/
theorem error?_ofValue (value : Json.Value) :
    error? (ofValue resource value) = (ofEntry resource (some value)).head? := by
  cases value with
  | object entry =>
    rw [ofEntry, List.head?_append, List.head?_map, head?_unknownKeys, List.head?_flatMap, ofValue]
    cases entry.find? fun member => (Action.ofName? member.1).isNone with
    | some member => rfl
    | none =>
      simp only [error?_collect, error?_flagOf]
      rfl
  | _ => rfl

/-- An entry is complete when it has no defect. -/
theorem completeRow_iff {value : Json.Value} :
    CompleteRow value ↔ ∀ d : MatrixDefect, ¬ d.InEntry resource (some value) := by
  have hread : (∃ row, ofValue resource value = .ok row) ↔ CompleteRow value :=
    exists_ofValue_eq_ok_iff
  rw [← hread, ← error?_eq_none_iff, error?_ofValue, List.head?_eq_none_iff,
    List.eq_nil_iff_forall_not_mem]
  simp only [MatrixDefect.mem_ofEntry]

end ActionRights

namespace AccessRights

theorem error?_collect {ε : Type} (row : Resource → Except ε ActionRights) :
    error? (collect row) = Resource.all.findSome? fun resource => error? (row resource) := by
  simp only [Resource.all, findSome?_cons_eq_or, List.findSome?_nil]
  exact error?_bind fun _ => error?_bind fun _ => error?_bind fun _ => error?_bind fun _ =>
    error?_bind fun _ => rfl

theorem error?_rowOf (members : List (String × Json.Value)) (resource : Resource) :
    error? (rowOf members resource)
      = (ofEntry resource (Keyed.find? members resource.name)).head? := by
  unfold rowOf
  cases Keyed.find? members resource.name with
  | none => rfl
  | some entry => exact ActionRights.error?_ofValue entry

/-- **A document is read unless it has a defect**, and then the first one is given. -/
theorem error?_ofValue (v : Json.Value) : error? (ofValue v) = (MatrixDefect.all v).head? := by
  cases v with
  | object members =>
    rw [MatrixDefect.all, List.head?_append, List.head?_map, head?_unknownKeys,
      List.head?_flatMap, ofValue]
    cases members.find? fun member => (Resource.ofName? member.1).isNone with
    | some member => rfl
    | none =>
      simp only [error?_collect, error?_rowOf]
      rfl
  | _ => rfl

/-- A document is complete when it has no defect. -/
theorem completeMatrix_iff {v : Json.Value} :
    CompleteMatrix v ↔ MatrixDefect.all v = [] := by
  rw [← exists_ofValue_eq_ok_iff, ← error?_eq_none_iff, error?_ofValue, List.head?_eq_none_iff]

end AccessRights

end AccessControl
