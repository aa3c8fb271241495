/-
# Repairs of stored matrices

Whoever repairs a stored matrix goes by what is reported: the part that is named gets
something right, and the document is read again.  A repair removes the defect of its part
and neither adds nor hides another one, at both levels of the document for the same
reason: an unknown key is under no name, and what stands under one name is seen under that
name only.  So the list of defects loses its head with every repair of the first defect,
and its length counts the repairs that are left.
-/
import AccessControl.Proofs.Rights.Defects

namespace AccessControl

/-! ## Objects with names for keys -/

section

variable {α β δ : Type} {name : β → String} {unknown : String → δ} {At : β → Option α → δ → Prop}
  {members : List (String × α)} {d e : δ}

/-- A defect of an object: a key that is no name, or a defect of what stands under a name. -/
def InObject (name : β → String) (unknown : String → δ) (At : β → Option α → δ → Prop)
    (members : List (String × α)) (d : δ) : Prop :=
  (∃ key, (∃ value, Keyed.find? members key = some value) ∧ (∀ item, name item ≠ key) ∧
      d = unknown key) ∨
    ∃ item, At item (Keyed.find? members (name item)) d

/-- Dropping an unknown key removes that defect. -/
theorem inObject_erase_iff (hinjective : Function.Injective unknown)
    (hAt : ∀ item found key, ¬ At item found (unknown key)) {key : String}
    (hkey : ∀ item, name item ≠ key) :
    InObject name unknown At (Keyed.erase members key) e ↔
      InObject name unknown At members e ∧ e ≠ unknown key := by
  have hkept : ∀ item, Keyed.find? (Keyed.erase members key) (name item)
      = Keyed.find? members (name item) := by
    intro item
    rw [Keyed.find?_erase, if_neg (hkey item)]
  simp only [InObject, hkept]
  constructor
  · rintro (⟨other, ⟨value, hvalue⟩, hother, rfl⟩ | ⟨item, he⟩)
    · rw [Keyed.find?_erase] at hvalue
      by_cases hsame : other = key
      · rw [if_pos hsame] at hvalue
        cases hvalue
      · rw [if_neg hsame] at hvalue
        exact ⟨.inl ⟨other, ⟨value, hvalue⟩, hother, rfl⟩, fun heq => hsame (hinjective heq)⟩
    · exact ⟨.inr ⟨item, he⟩, fun heq => hAt item _ key (heq ▸ he)⟩
  · rintro ⟨⟨other, ⟨value, hvalue⟩, hother, rfl⟩ | ⟨item, he⟩, hne⟩
    · have hsame : other ≠ key := fun heq => hne (congrArg unknown heq)
      refine .inl ⟨other, ⟨value, ?_⟩, hother, rfl⟩
      rw [Keyed.find?_erase, if_neg hsame, hvalue]
    · exact .inr ⟨item, he⟩

/-- What is put under a name removes a defect of the object when it removes it there. -/
theorem inObject_insert_iff (hname : Function.Injective name)
    (hAt : ∀ item found key, ¬ At item found (unknown key)) {item : β}
    (hd : At item (Keyed.find? members (name item)) d)
    (hothers : ∀ other found, At other found d → other = item) {new : α}
    (hnew : ∀ e, At item (some new) e ↔ At item (Keyed.find? members (name item)) e ∧ e ≠ d) :
    InObject name unknown At (Keyed.insert (name item) new members) e ↔
      InObject name unknown At members e ∧ e ≠ d := by
  have hunknown : ∀ key, unknown key ≠ d := fun key heq => hAt item _ key (heq ▸ hd)
  have hkept : ∀ key, key ≠ name item →
      Keyed.find? (Keyed.insert (name item) new members) key = Keyed.find? members key :=
    fun key hne => Keyed.find?_insert_of_ne hne new members
  constructor
  · rintro (⟨key, ⟨value, hvalue⟩, hkey, rfl⟩ | ⟨other, he⟩)
    · rw [hkept key (hkey item).symm] at hvalue
      exact ⟨.inl ⟨key, ⟨value, hvalue⟩, hkey, rfl⟩, hunknown key⟩
    · by_cases hsame : other = item
      · subst hsame
        rw [Keyed.find?_insert_self, hnew] at he
        exact ⟨.inr ⟨other, he.1⟩, he.2⟩
      · rw [hkept _ (hname.ne hsame)] at he
        exact ⟨.inr ⟨other, he⟩, fun heq => hsame (hothers other _ (heq ▸ he))⟩
  · rintro ⟨⟨key, ⟨value, hvalue⟩, hkey, rfl⟩ | ⟨other, he⟩, hne⟩
    · refine .inl ⟨key, ⟨value, ?_⟩, hkey, rfl⟩
      rw [hkept key (hkey item).symm, hvalue]
    · refine .inr ⟨other, ?_⟩
      by_cases hsame : other = item
      · subst hsame
        rw [Keyed.find?_insert_self, hnew]
        exact ⟨he, hne⟩
      · rwa [hkept _ (hname.ne hsame)]

end

theorem Resource.name_injective : Function.Injective Resource.name :=
  injective_of_readsBack Resource.name Resource.ofName? Resource.ofName?_name

theorem Action.name_injective : Function.Injective Action.name :=
  injective_of_readsBack Action.name Action.ofName? Action.ofName?_name

/-! ## Repairs -/

namespace MatrixPart

/-- A part of what a document holds for a resource is given something right. -/
inductive RepairedIn (resource : Resource) : MatrixPart → Option Json.Value → Json.Value → Prop
  /-- The entry is given any complete row. -/
  | entry {old : Option Json.Value} {new : Json.Value} (hcomplete : CompleteRow new)
    (hnew : new.Canonical) : RepairedIn resource (.entry resource) old new
  /-- The key is dropped. -/
  | actionKey {entry : List (String × Json.Value)} {key : String} :
    RepairedIn resource (.actionKey resource key) (some (.object entry))
      (.object (Keyed.erase entry key))
  /-- The flag is given any boolean. -/
  | flag {entry : List (String × Json.Value)} {action : Action} (allowed : Bool) :
    RepairedIn resource (.flag resource action) (some (.object entry))
      (.object (Keyed.insert action.name (.bool allowed) entry))

/-- A part of a document is given something right, and the rest stays as it is. -/
inductive Repaired : MatrixPart → Json.Value → Json.Value → Prop
  /-- The document is given any complete matrix. -/
  | document {old new : Json.Value} (hcomplete : CompleteMatrix new) (hnew : new.Canonical) :
    Repaired .document old new
  /-- The key is dropped. -/
  | resourceKey {members : List (String × Json.Value)} {key : String} :
    Repaired (.resourceKey key) (.object members) (.object (Keyed.erase members key))
  | inEntry {part : MatrixPart} {members : List (String × Json.Value)} {resource : Resource}
    {new : Json.Value} (h : part.RepairedIn resource (Keyed.find? members resource.name) new) :
    Repaired part (.object members) (.object (Keyed.insert resource.name new members))

theorem RepairedIn.canonical {resource : Resource} {part : MatrixPart} {old : Option Json.Value}
    {new : Json.Value} (h : part.RepairedIn resource old new)
    (hold : ∀ value, old = some value → value.Canonical) : new.Canonical := by
  cases h with
  | entry _ hnew => exact hnew
  | actionKey => exact (hold _ rfl).erase _
  | flag allowed => exact (hold _ rfl).insert _ trivial

/-- A document that is repaired stays in key order. -/
theorem Repaired.canonical {part : MatrixPart} {v w : Json.Value} (h : part.Repaired v w)
    (hv : v.Canonical) : w.Canonical := by
  cases h with
  | document _ hnew => exact hnew
  | resourceKey => exact hv.erase _
  | inEntry h => exact hv.insert _ (h.canonical fun value hvalue => hv.find? hvalue)

end MatrixPart

namespace MatrixDefect

variable {resource : Resource} {d e : MatrixDefect} {v w : Json.Value} {rest : List MatrixDefect}

theorem inEntry_object_iff {entry : List (String × Json.Value)} :
    e.InEntry resource (some (.object entry)) ↔
      InObject Action.name (.unknownAction resource)
        (fun action found d => d ∈ ofFlag resource action found) entry e := by
  rw [← mem_ofEntry, ofEntry, List.mem_append, List.mem_map, List.mem_flatMap]
  simp only [mem_unknownKeys fun _ _ => Action.ofName?_eq_some_iff, Action.mem_all, true_and,
    InObject, and_assoc, eq_comm]

theorem in_object_iff {members : List (String × Json.Value)} :
    e.In (.object members) ↔
      InObject Resource.name .unknownResource (fun resource found d => d.InEntry resource found)
        members e := by
  rw [← mem_all, all, List.mem_append, List.mem_map, List.mem_flatMap]
  simp only [mem_unknownKeys fun _ _ => Resource.ofName?_eq_some_iff, Resource.mem_all, true_and,
    InObject, and_assoc, eq_comm, mem_ofEntry]

/-- A flag has one defect at most. -/
theorem eq_of_mem_ofFlag {action : Action} {found : Option Json.Value}
    (hd : d ∈ ofFlag resource action found) (he : e ∈ ofFlag resource action found) : e = d := by
  rcases mem_ofFlag.1 hd with ⟨rfl, rfl⟩ | ⟨value, rfl, -, rfl⟩
  · exact List.mem_singleton.1 he
  · rcases mem_ofFlag.1 he with ⟨hnone, -⟩ | ⟨other, hother, -, rfl⟩
    · cases hnone
    · cases hother
      rfl

theorem unknownAction_injective : Function.Injective (unknownAction resource) := by
  intro key other h
  cases h
  rfl

theorem unknownResource_injective : Function.Injective unknownResource := by
  intro key other h
  cases h
  rfl

/-- A flag that is given a boolean loses its defect. -/
theorem inEntry_insert_iff {entry : List (String × Json.Value)} {action : Action}
    (hd : d ∈ ofFlag resource action (Keyed.find? entry action.name)) (allowed : Bool) :
    e.InEntry resource (some (.object (Keyed.insert action.name (.bool allowed) entry))) ↔
      e.InEntry resource (some (.object entry)) ∧ e ≠ d := by
  rw [inEntry_object_iff, inEntry_object_iff]
  refine inObject_insert_iff Action.name_injective (fun _ _ _ he => ?_) hd (fun other _ he => ?_)
    fun e => ?_
  · cases part_of_mem_ofFlag he
  · have hpart := part_of_mem_ofFlag hd
    rw [part_of_mem_ofFlag he] at hpart
    cases hpart
    rfl
  · constructor
    · exact fun he => absurd he List.not_mem_nil
    · rintro ⟨he, hne⟩
      exact absurd (eq_of_mem_ofFlag hd he) hne

/-- **A repair of an entry removes its defect**, and neither adds nor removes another. -/
theorem inEntry_iff_of_repairedIn {old : Option Json.Value} {new : Json.Value}
    (hd : d.InEntry resource old) (h : d.part.RepairedIn resource old new) (e : MatrixDefect) :
    e.InEntry resource (some new) ↔ e.InEntry resource old ∧ e ≠ d := by
  cases hd with
  | missing =>
    obtain ⟨hcomplete, -⟩ := h
    constructor
    · exact fun he => absurd he (ActionRights.completeRow_iff.1 hcomplete e)
    · rintro ⟨⟨⟩, hne⟩
      exact absurd rfl hne
  | notAnObject hfound =>
    obtain ⟨hcomplete, -⟩ := h
    constructor
    · exact fun he => absurd he (ActionRights.completeRow_iff.1 hcomplete e)
    · rintro ⟨he, hne⟩
      cases he with
      | notAnObject _ => exact absurd rfl hne
      | _ => cases hfound
  | unknownAction hkey hunknown =>
    cases h with
    | actionKey =>
      rw [inEntry_object_iff, inEntry_object_iff]
      refine inObject_erase_iff unknownAction_injective (fun _ _ _ he => ?_) hunknown
      cases part_of_mem_ofFlag he
  | missingAction hnone =>
    cases h with
    | flag allowed => exact inEntry_insert_iff (mem_ofFlag.2 (.inl ⟨hnone, rfl⟩)) allowed
  | notBoolean hfound hbool =>
    cases h with
    | flag allowed =>
      exact inEntry_insert_iff (mem_ofFlag.2 (.inr ⟨_, hfound, hbool, rfl⟩)) allowed

/-- The defects of an entry are those whose part is in it. -/
theorem resource_eq_of_inEntry {other : Resource} {found found' : Option Json.Value}
    (h : d.InEntry resource found) (h' : d.InEntry other found') : other = resource := by
  cases h <;> cases h' <;> rfl

theorem resource_eq_of_repairedIn {other : Resource} {found old : Option Json.Value}
    {new : Json.Value} (hd : d.InEntry resource found) (h : d.part.RepairedIn other old new) :
    other = resource := by
  cases hd <;> cases h <;> rfl

/-- A repair of an entry is made under the name of its resource. -/
theorem exists_repairedIn {members : List (String × Json.Value)} {found : Option Json.Value}
    (hd : d.InEntry resource found) (h : d.part.Repaired (.object members) w) :
    ∃ new, d.part.RepairedIn resource (Keyed.find? members resource.name) new ∧
      w = .object (Keyed.insert resource.name new members) := by
  generalize hpart : d.part = part at h
  cases h with
  | document _ _ => cases hd <;> cases hpart
  | resourceKey => cases hd <;> cases hpart
  | @inEntry _ _ other new hnew =>
    subst hpart
    obtain rfl := resource_eq_of_repairedIn hd hnew
    exact ⟨new, hnew, rfl⟩

theorem not_inEntry_unknownResource {found : Option Json.Value} (key : String) :
    ¬ (unknownResource key).InEntry resource found := nofun

/-- **A repair removes the defect of its part**, and neither adds nor removes another. -/
theorem in_iff_of_repaired (hd : d.In v) (h : d.part.Repaired v w) (e : MatrixDefect) :
    e.In w ↔ e.In v ∧ e ≠ d := by
  cases hd with
  | notAnObject hfound =>
    cases h with
    | document hcomplete _ =>
      rw [AccessRights.completeMatrix_iff] at hcomplete
      rw [← mem_all, hcomplete]
      constructor
      · exact fun he => absurd he List.not_mem_nil
      · rintro ⟨he, hne⟩
        cases he with
        | notAnObject _ => exact absurd rfl hne
        | _ => cases hfound
    | inEntry _ => cases hfound
  | unknownResource hkey hunknown =>
    cases h with
    | resourceKey =>
      rw [in_object_iff, in_object_iff]
      exact inObject_erase_iff unknownResource_injective
        (fun _ _ key => not_inEntry_unknownResource key) hunknown
    | inEntry h => cases h
  | @inEntry members resource _ hd =>
    obtain ⟨new, hnew, rfl⟩ := exists_repairedIn hd h
    rw [in_object_iff, in_object_iff]
    refine inObject_insert_iff Resource.name_injective ?_ ?_ ?_ ?_
    · exact fun _ _ key => not_inEntry_unknownResource key
    · exact hd
    · exact fun _ _ hother => resource_eq_of_inEntry hd hother
    · exact inEntry_iff_of_repairedIn hd hnew

/-- There is a repair for every defect. -/
theorem exists_repaired (hd : d.In v) : ∃ w, d.part.Repaired v w := by
  cases hd with
  | notAnObject _ =>
    exact ⟨_, .document (AccessRights.exists_ofValue_eq_ok_iff.1
      ⟨_, AccessRights.ofValue_toValue .empty⟩) (AccessRights.canonical_toValue .empty)⟩
  | unknownResource _ _ => exact ⟨_, .resourceKey⟩
  | @inEntry members resource _ hd =>
    have hrepaired : ∃ new,
        d.part.RepairedIn resource (Keyed.find? members resource.name) new := by
      generalize Keyed.find? members resource.name = found at hd
      have hread : ActionRights.ofValue resource ActionRights.denyAll.toValue = .ok .denyAll :=
        ActionRights.ofValue_toValue _
      have hcomplete := ActionRights.exists_ofValue_eq_ok_iff.1 ⟨_, hread⟩
      cases hd with
      | missing => exact ⟨_, .entry hcomplete (ActionRights.canonical_toValue .denyAll)⟩
      | notAnObject _ => exact ⟨_, .entry hcomplete (ActionRights.canonical_toValue .denyAll)⟩
      | unknownAction _ _ => exact ⟨_, .actionKey⟩
      | missingAction _ => exact ⟨_, .flag false⟩
      | notBoolean _ _ => exact ⟨_, .flag false⟩
    obtain ⟨new, hnew⟩ := hrepaired
    exact ⟨_, .inEntry hnew⟩

theorem nodup_of_pairwise {defects : List MatrixDefect} (h : defects.Pairwise Before) :
    defects.Nodup := by
  refine List.Pairwise.imp ?_ h
  rintro a b hlt rfl
  exact MatrixPart.Before.irrefl _ hlt

/-- **A repair of the first defect takes it from the list**, and leaves the others. -/
theorem all_of_repaired (hv : v.Canonical) (hall : all v = d :: rest)
    (h : d.part.Repaired v w) : all w = rest := by
  have hpairwise := pairwise_all hv
  rw [hall] at hpairwise
  obtain ⟨hfirst, hrest⟩ := List.pairwise_cons.1 hpairwise
  have hpairwise' := pairwise_all (h.canonical hv)
  have hmem : ∀ e, e ∈ all w ↔ e ∈ rest := by
    intro e
    have hd : d.In v := mem_all.1 (hall ▸ List.mem_cons_self)
    rw [mem_all, in_iff_of_repaired hd h, ← mem_all, hall, List.mem_cons]
    constructor
    · rintro ⟨heq | he, hne⟩
      · exact absurd heq hne
      · exact he
    · intro he
      refine ⟨.inr he, fun heq => ?_⟩
      exact MatrixPart.Before.irrefl _ (heq ▸ hfirst e he)
  have hperm : (all w).Perm rest := (List.perm_ext_iff_of_nodup (nodup_of_pairwise hpairwise')
    (nodup_of_pairwise hrest)).2 hmem
  refine hperm.eq_of_pairwise (fun a b _ _ hab hba => ?_) hpairwise' hrest
  exact absurd (hab.trans hba) (MatrixPart.Before.irrefl _)

end MatrixDefect

end AccessControl
