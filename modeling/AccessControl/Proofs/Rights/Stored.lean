/-
# Stored matrices

The reader of stored matrices accepts the complete ones and nothing else: objects
with an entry for every resource, each an object with a boolean for every action.
What it accepts is what the matrix is stored as, so that reading undoes storing and
storing undoes reading, and every cell is read from the entry of its own names.
-/
import AccessControl.Error
import AccessControl.Proofs.Steps
import Mathlib.Tactic.Choose

namespace AccessControl

/-! ## Objects whose keys are names -/

/-- The keys of the members are the names of the items of a type. -/
def KeysAreNames {α β : Type} (members : List (String × α)) (name : β → String) : Prop :=
  ∀ key, (∃ value, Keyed.find? members key = some value) ↔ ∃ item, name item = key

section

variable {α β γ : Type} {members : List (String × α)} {name : β → String}
  {ofName? : String → Option β}

/-- No key is unknown when every key has an item. -/
theorem find?_unknown_eq_none_iff :
    (members.find? fun member => (ofName? member.1).isNone) = none ↔
      ∀ member ∈ members, (ofName? member.1).isSome := by
  simp [List.find?_eq_none, Option.isSome_iff_ne_none]

/-- The keys are the names when no key is unknown and no item is missing. -/
theorem keysAreNames_iff (hname : ∀ key item, ofName? key = some item ↔ name item = key) :
    KeysAreNames members name ↔
      (∀ member ∈ members, (ofName? member.1).isSome) ∧
        ∀ item, ∃ value, Keyed.find? members (name item) = some value := by
  have hknown : ∀ key, (ofName? key).isSome ↔ ∃ item, name item = key := by
    intro key
    simp only [Option.isSome_iff_exists, hname]
  constructor
  · intro h
    refine ⟨?_, fun item => (h _).2 ⟨item, rfl⟩⟩
    rintro ⟨key, value⟩ hmem
    obtain ⟨found, hfound⟩ := Keyed.exists_find?_of_mem hmem
    exact (hknown key).2 ((h key).1 ⟨found, hfound⟩)
  · rintro ⟨hkeys, hitems⟩ key
    constructor
    · rintro ⟨value, hvalue⟩
      exact (hknown key).1 (hkeys _ (Keyed.mem_of_find? hvalue))
    · rintro ⟨item, rfl⟩
      exact hitems item

/-- Every item is read under its name and no other key is there, exactly when the keys are the
names and every member can be read. -/
theorem exists_reading_iff (members : List (String × α)) (Reads : β → α → γ → Prop)
    {Readable : α → Prop} (hname : ∀ key item, ofName? key = some item ↔ name item = key)
    (hreads : ∀ item value, (∃ c, Reads item value c) ↔ Readable value) :
    (∃ reading : β → γ, (∀ member ∈ members, (ofName? member.1).isSome) ∧
        ∀ item, ∃ value, Keyed.find? members (name item) = some value ∧
          Reads item value (reading item)) ↔
      KeysAreNames members name ∧
        ∀ key value, Keyed.find? members key = some value → Readable value := by
  constructor
  · rintro ⟨reading, hknown, hitems⟩
    have hpresent : ∀ item, ∃ value, Keyed.find? members (name item) = some value :=
      fun item => (hitems item).imp fun _ hvalue => hvalue.1
    have hkeys := (keysAreNames_iff hname).2 ⟨hknown, hpresent⟩
    refine ⟨hkeys, ?_⟩
    intro key found hfound
    obtain ⟨item, rfl⟩ := (hkeys key).1 ⟨found, hfound⟩
    obtain ⟨value, hvalue, hread⟩ := hitems item
    rw [hvalue, Option.some.injEq] at hfound
    exact (hreads item found).1 ⟨reading item, hfound ▸ hread⟩
  · rintro ⟨hkeys, hreadable⟩
    obtain ⟨hknown, hpresent⟩ := (keysAreNames_iff hname).1 hkeys
    have hitems : ∀ item, ∃ c, ∃ value, Keyed.find? members (name item) = some value ∧
        Reads item value c := by
      intro item
      obtain ⟨value, hvalue⟩ := hpresent item
      obtain ⟨c, hread⟩ := (hreads item value).2 (hreadable _ value hvalue)
      exact ⟨c, value, hvalue, hread⟩
    choose reading hreading using hitems
    exact ⟨reading, hknown, hreading⟩

end

/-! ## Complete documents -/

/-- An object with a boolean for every action and nothing else. -/
def CompleteRow : Json.Value → Prop
  | .object entry =>
    KeysAreNames entry Action.name ∧
      ∀ key value, Keyed.find? entry key = some value → ∃ allowed, value = .bool allowed
  | _ => False

/-- An object with a complete row for every resource and nothing else. -/
def CompleteMatrix : Json.Value → Prop
  | .object document =>
    KeysAreNames document Resource.name ∧
      ∀ key value, Keyed.find? document key = some value → CompleteRow value
  | _ => False

/-- What a document holds for a resource and an action. -/
def cell? (document : Json.Value) (resource action : String) : Option Json.Value := do
  let row ← Keyed.find? (← document.members?) resource
  Keyed.find? (← row.members?) action

/-! ## Rows -/

namespace ActionRights

variable {resource : Resource} {entry : List (String × Json.Value)} {value : Json.Value}
  {row : ActionRights}

/-- A row is computed when every flag is. -/
theorem collect_eq_ok_iff {ε : Type} {flag : Action → Except ε Bool} :
    collect flag = .ok row ↔ ∀ a, flag a = .ok (row.allows a) := by
  unfold collect
  simp only [bind_eq_ok_iff, pure, Except.pure, Except.ok.injEq]
  constructor
  · rintro ⟨_, hlist, _, hview, _, hcreate, _, hedit, _, hdelete, rfl⟩ a
    cases a with
    | list => exact hlist
    | view => exact hview
    | create => exact hcreate
    | edit => exact hedit
    | delete => exact hdelete
  · intro h
    exact ⟨_, h .list, _, h .view, _, h .create, _, h .edit, _, h .delete, rfl⟩

theorem flagOf_eq_ok_iff {a : Action} {allowed : Bool} :
    flagOf resource entry a = .ok allowed ↔ Keyed.find? entry a.name = some (.bool allowed) := by
  unfold flagOf
  cases Keyed.find? entry a.name with
  | none => simp
  | some found => cases found <;> simp

/-- An entry is read when its keys are actions and every action has a boolean. -/
theorem ofValue_object_eq_ok_iff :
    ofValue resource (.object entry) = .ok row ↔
      (∀ member ∈ entry, (Action.ofName? member.1).isSome) ∧
        ∀ a : Action, Keyed.find? entry a.name = some (.bool (row.allows a)) := by
  unfold ofValue
  dsimp only
  rw [← find?_unknown_eq_none_iff]
  cases entry.find? fun member => (Action.ofName? member.1).isNone with
  | some member => simp
  | none => simp only [collect_eq_ok_iff, flagOf_eq_ok_iff, true_and]

/-- The stored form of a row holds under the name of an action its flag. -/
theorem find?_stored (row : ActionRights) (key : String) :
    Keyed.find? (Keyed.ofList
        (Action.all.map fun a => (a.name, Json.Value.bool (row.allows a)))) key
      = (Action.ofName? key).map fun a => .bool (row.allows a) :=
  Keyed.find?_ofList_map (by decide) key

theorem canonical_toValue (row : ActionRights) : row.toValue.Canonical := by
  refine ⟨Keyed.increasing_ofList _, Json.Value.membersCanonical_iff.2 ?_⟩
  rintro ⟨key, found⟩ hmem
  obtain ⟨a, -, rfl⟩ := (Keyed.mem_ofList_iff row.find?_stored).1 hmem
  trivial

theorem ofValue_toValue (row : ActionRights) : ofValue resource row.toValue = .ok row := by
  rw [toValue, ofValue_object_eq_ok_iff]
  constructor
  · rintro ⟨key, found⟩ hmem
    obtain ⟨a, hname, -⟩ := (Keyed.mem_ofList_iff row.find?_stored).1 hmem
    exact Option.isSome_iff_exists.2 ⟨a, hname⟩
  · intro a
    rw [find?_stored, Action.ofName?_name]
    rfl

/-- What is read as a row is its stored form. -/
theorem eq_toValue_of_ofValue (hvalue : value.Canonical) (h : ofValue resource value = .ok row) :
    value = row.toValue := by
  cases value with
  | object entry =>
    have hordered : Keyed.Increasing entry := hvalue.1
    obtain ⟨hkeys, hflags⟩ := ofValue_object_eq_ok_iff.1 h
    refine congrArg Json.Value.object
      (hordered.eq_of_names (Keyed.increasing_ofList _) row.find?_stored hkeys ?_)
    intro key a hname
    rw [← Action.ofName?_eq_some_iff.1 hname]
    exact hflags a
  | _ => cases h

/-- Whatever flags are read, there is a row that has them. -/
theorem surjective_allows : Function.Surjective allows :=
  fun flag => ⟨ofFlags flag, funext (allows_ofFlags flag)⟩

/-- A row can be read exactly from the complete entries. -/
theorem exists_ofValue_eq_ok_iff :
    (∃ row, ofValue resource value = .ok row) ↔ CompleteRow value := by
  cases value with
  | object entry =>
    have hreading := exists_reading_iff entry (fun (_ : Action) found flag => found = .bool flag)
      (fun _ _ => Action.ofName?_eq_some_iff) fun _ _ => Iff.rfl
    simp only [exists_eq_right] at hreading
    simp only [ofValue_object_eq_ok_iff, CompleteRow, ← hreading]
    rw [surjective_allows.exists]
  | _ => simp [ofValue, CompleteRow]

end ActionRights

/-! ## Matrices -/

namespace AccessRights

variable {document : List (String × Json.Value)} {value : Json.Value} {rights : AccessRights}

/-- A matrix is computed when every row is. -/
theorem collect_eq_ok_iff {ε : Type} {row : Resource → Except ε ActionRights} :
    collect row = .ok rights ↔ ∀ r, row r = .ok (rights.row r) := by
  unfold collect
  simp only [bind_eq_ok_iff, pure, Except.pure, Except.ok.injEq]
  constructor
  · rintro ⟨_, husers, _, hroles, _, hopeners, _, hmanufacturers, _, hmodels, rfl⟩ r
    cases r with
    | users => exact husers
    | roles => exact hroles
    | openers => exact hopeners
    | barrierManufacturers => exact hmanufacturers
    | barrierModels => exact hmodels
  · intro h
    exact ⟨_, h .users, _, h .roles, _, h .openers, _, h .barrierManufacturers, _,
      h .barrierModels, rfl⟩

theorem rowOf_eq_ok_iff {r : Resource} {row : ActionRights} :
    rowOf document r = .ok row ↔
      ∃ entry, Keyed.find? document r.name = some entry ∧
        ActionRights.ofValue r entry = .ok row := by
  unfold rowOf
  cases Keyed.find? document r.name <;> simp

/-- A document is read when its keys are resources and every resource has a row. -/
theorem ofValue_object_eq_ok_iff :
    ofValue (.object document) = .ok rights ↔
      (∀ member ∈ document, (Resource.ofName? member.1).isSome) ∧
        ∀ r : Resource, ∃ entry, Keyed.find? document r.name = some entry ∧
          ActionRights.ofValue r entry = .ok (rights.row r) := by
  unfold ofValue
  dsimp only
  rw [← find?_unknown_eq_none_iff]
  cases document.find? fun member => (Resource.ofName? member.1).isNone with
  | some member => simp
  | none => simp only [collect_eq_ok_iff, rowOf_eq_ok_iff, true_and]

/-- The stored form of a matrix holds under the name of a resource its row. -/
theorem find?_stored (rights : AccessRights) (key : String) :
    Keyed.find? (Keyed.ofList (Resource.all.map fun r => (r.name, (rights.row r).toValue))) key
      = (Resource.ofName? key).map fun r => (rights.row r).toValue :=
  Keyed.find?_ofList_map (by decide) key

theorem canonical_toValue (rights : AccessRights) : rights.toValue.Canonical := by
  refine ⟨Keyed.increasing_ofList _, Json.Value.membersCanonical_iff.2 ?_⟩
  rintro ⟨key, found⟩ hmem
  obtain ⟨r, -, rfl⟩ := (Keyed.mem_ofList_iff rights.find?_stored).1 hmem
  exact (rights.row r).canonical_toValue

theorem ofValue_toValue (rights : AccessRights) : ofValue rights.toValue = .ok rights := by
  rw [toValue, ofValue_object_eq_ok_iff]
  constructor
  · rintro ⟨key, found⟩ hmem
    obtain ⟨r, hname, -⟩ := (Keyed.mem_ofList_iff rights.find?_stored).1 hmem
    exact Option.isSome_iff_exists.2 ⟨r, hname⟩
  · intro r
    rw [find?_stored, Resource.ofName?_name]
    exact ⟨_, rfl, (rights.row r).ofValue_toValue⟩

/-- What is read as a matrix is its stored form. -/
theorem eq_toValue_of_ofValue (hvalue : value.Canonical) (h : ofValue value = .ok rights) :
    value = rights.toValue := by
  cases value with
  | object document =>
    have hordered : Keyed.Increasing document := hvalue.1
    have hentries := Json.Value.membersCanonical_iff.1 hvalue.2
    obtain ⟨hkeys, hrows⟩ := ofValue_object_eq_ok_iff.1 h
    refine congrArg Json.Value.object
      (hordered.eq_of_names (Keyed.increasing_ofList _) rights.find?_stored hkeys ?_)
    intro key r hname
    rw [← Resource.ofName?_eq_some_iff.1 hname]
    obtain ⟨entry, hentry, hrow⟩ := hrows r
    have hcanonical : entry.Canonical := hentries _ (Keyed.mem_of_find? hentry)
    rw [hentry, ActionRights.eq_toValue_of_ofValue hcanonical hrow]
  | _ => cases h

/-- Whatever rows are read, there is a matrix that has them. -/
theorem surjective_row : Function.Surjective row :=
  fun rows => ⟨ofRows rows, funext (row_ofRows rows)⟩

/-- A matrix can be read exactly from the complete documents. -/
theorem exists_ofValue_eq_ok_iff :
    (∃ rights, ofValue value = .ok rights) ↔ CompleteMatrix value := by
  cases value with
  | object document =>
    have hreading := exists_reading_iff document
      (fun r found row => ActionRights.ofValue r found = .ok row)
      (fun _ _ => Resource.ofName?_eq_some_iff) fun _ _ => ActionRights.exists_ofValue_eq_ok_iff
    simp only [ofValue_object_eq_ok_iff, CompleteMatrix, ← hreading]
    rw [surjective_row.exists]
  | _ => simp [ofValue, CompleteMatrix]

/-- Every cell of a matrix is read from the entry of its names. -/
theorem cell?_of_ofValue (h : ofValue value = .ok rights) (r : Resource) (a : Action) :
    cell? value r.name a.name = some (.bool (rights.allows r a)) := by
  cases value with
  | object document =>
    obtain ⟨entry, hentry, hrow⟩ := (ofValue_object_eq_ok_iff.1 h).2 r
    cases entry with
    | object members =>
      have hflag := (ActionRights.ofValue_object_eq_ok_iff.1 hrow).2 a
      simp [cell?, Json.Value.members?, hentry, hflag, allows]
    | _ => cases hrow
  | _ => cases h

/--
**The complete documents are what is read, and they are the stored forms.**  A document is
read as a matrix exactly when it is the stored form of that matrix; some matrix is read
exactly when the document is complete, its cells are those of the document, and from any
other document the answer is that the policy is malformed.
-/
theorem ofValue_eq_ok_iff (hvalue : value.Canonical) :
    (∀ rights, ofValue value = .ok rights ↔ value = rights.toValue) ∧
      (∀ rights, ofValue value = .ok rights →
        ∀ r a, cell? value r.name a.name = some (.bool (rights.allows r a))) ∧
      ((∃ rights, ofValue value = .ok rights) ↔ CompleteMatrix value) ∧
      (¬ CompleteMatrix value → ∃ defect,
        (ofValue value).mapError (fun d => AuthorizationError.malformedPolicy (.matrix d))
          = .error (.malformedPolicy (.matrix defect))) := by
  refine ⟨?_, fun rights h => cell?_of_ofValue h, exists_ofValue_eq_ok_iff, ?_⟩
  · intro rights
    constructor
    · exact eq_toValue_of_ofValue hvalue
    · rintro rfl
      exact rights.ofValue_toValue
  · intro hincomplete
    rw [← exists_ofValue_eq_ok_iff] at hincomplete
    cases h : ofValue value with
    | error defect => exact ⟨defect, rfl⟩
    | ok rights => exact absurd ⟨rights, h⟩ hincomplete

/-- The matrix that lets openers be viewed is read back; a document that only knows openers is
not a matrix. -/
theorem ofValue_viewOpeners :
    ofValue (empty.update .openers .view true).toValue = .ok (empty.update .openers .view true) ∧
      ∀ rights, ofValue (.object [("openers", ActionRights.allowAll.toValue)]) ≠ .ok rights := by
  constructor
  · exact ((ofValue_eq_ok_iff (canonical_toValue _)).1 _).2 rfl
  · intro rights hread
    have hcanonical : (Json.Value.object [("openers", ActionRights.allowAll.toValue)]).Canonical :=
      ⟨List.pairwise_singleton _ _, ActionRights.canonical_toValue _, trivial⟩
    have hcomplete := (ofValue_eq_ok_iff hcanonical).2.2.1.1 ⟨rights, hread⟩
    obtain ⟨found, hfound⟩ := (hcomplete.1 "users").2 ⟨.users, rfl⟩
    simp [Keyed.find?_cons] at hfound

end AccessRights

end AccessControl
