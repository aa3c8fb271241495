/-
# No member is read twice

A field that has been read is set, and stays set whatever fields are read after it.  So an
object in which the member of a field stands a second time is refused for it, wherever the two
stand and whatever their values are; a value that stands for none is no exception.
-/
import AccessControl.Claims
import AccessControl.Policy
import AccessControl.Principal
import AccessControl.RefreshClient
import AccessControl.Role.Record
import AccessControl.Proofs.Json.Canonical
import AccessControl.Proofs.Json.Refusals

namespace AccessControl

namespace Json

variable {α β δ : Type} {fields : List (Field δ)}

/-! ## Fields -/

/-- Reading the field sets it, and leaves those fields set that are. -/
structure Field.Stores (fields : List (Field δ)) (field : Field δ) : Prop where
  sets : ∀ {draft next nesting cs rest},
    field.read draft nesting cs = .ok (next, rest) → field.isSet next = true
  leaves : ∀ other ∈ fields, field.Keeps fun draft => other.isSet draft = true

section

variable {get : δ → Option β} {set : δ → β → δ}

/-- A field is stored when it is found where it is put, and the others stay where they are. -/
theorem Field.Stores.required (name : String) (reader : Reader β)
    (hself : ∀ draft value, get (set draft value) = some value)
    (hothers : ∀ other ∈ fields, ∀ draft value, other.isSet draft = true →
      other.isSet (set draft value) = true) :
    (Field.required name get set reader).Stores fields where
  sets := by
    intro draft next nesting cs rest h
    obtain ⟨⟨value, _⟩, -, h⟩ := bind_eq_ok_iff.1 h
    cases h
    exact congrArg Option.isSome (hself draft value)
  leaves other hmem := Field.keeps_required name fun hset _ => hothers other hmem _ _ hset

theorem Field.Stores.trailing (name : String) (reader : Reader β)
    (hself : ∀ draft value, get (set draft value) = some value)
    (hothers : ∀ other ∈ fields, ∀ draft value, other.isSet draft = true →
      other.isSet (set draft value) = true) :
    (Field.trailing name get set reader).Stores fields where
  sets := (Field.Stores.required name reader hself hothers).sets
  leaves other hmem := Field.keeps_trailing name fun hset _ => hothers other hmem _ _ hset

end

/-! ## Records -/

namespace Record

variable {record : Record δ α} {field : Field δ} {draft next : δ} {nesting : Nat} {key : String}
  {cs rest : List Char} {members before after : List (String × List Char)}

/-- A record does not forget what has been read. -/
def Remembers (record : Record δ α) : Prop := ∀ field ∈ record.fields, field.Stores record.fields

/-- A member of a field that is set is rejected, whatever its value. -/
theorem rejects_repeated (hfield : record.field? key = some field)
    (hset : field.isSet draft = true) (cs : List Char) :
    record.Rejects nesting draft key cs (.duplicateField key) := by
  intro rest _
  unfold readMember
  simp only [readKey_memberChars, hfield, hset, if_true, bind, Except.bind]
  rfl

namespace Remembers

variable (h : record.Remembers) (hfield : record.field? key = some field)
include h hfield

/-- The member of a field sets it. -/
theorem isSet_of_readMember
    (hread : record.readMember nesting draft (memberChars key cs ++ rest) = .ok (next, rest)) :
    field.isSet next = true := by
  unfold readMember at hread
  simp only [readKey_memberChars, hfield, expectColon_cons, bind, Except.bind] at hread
  split at hread
  · cases hread
  · exact (h field (List.mem_of_find?_eq_some hfield)).sets hread

/-- After some members a field is set if it was before or has one of them. -/
theorem isSet_of_steps (hsteps : Steps (record.readMember nesting) draft (written members) next)
    (hset : field.isSet draft = true ∨ key ∈ members.map Prod.fst) : field.isSet next = true := by
  induction members generalizing draft with
  | nil =>
    cases hsteps
    exact hset.resolve_right List.not_mem_nil
  | cons member members ih =>
    obtain ⟨other, cs⟩ := member
    cases hsteps with
    | @cons _ middle _ _ _ hfirst hrest =>
      have hread := hfirst [] ends_nil
      have hkept : field.isSet draft = true → field.isSet middle = true := fun hset =>
        readMember_induction (P := fun draft => field.isSet draft = true)
          (fun other hmem => (h other hmem).leaves field (List.mem_of_find?_eq_some hfield))
          hset hread
      refine ih hrest ?_
      rcases hset with hset | hmem
      · exact .inl (hkept hset)
      · rcases List.mem_cons.1 hmem with heq | hmem
        · dsimp only at heq
          subst heq
          exact .inl (h.isSet_of_readMember hfield hread)
        · exact .inr hmem

/-- An object is refused for a member that stands in it before. -/
theorem refuses_repeated
    (hsteps : Steps (record.readMember nesting) record.blank (written before) next)
    (hmem : key ∈ before.map Prod.fst) :
    record.reader.Refuses (nesting + 1) (objectChars (before ++ (key, cs) :: after))
      (.duplicateField key) :=
  refuses_of_steps hsteps
    (rejects_repeated hfield (h.isSet_of_steps hfield hsteps (.inr hmem)) cs)

end Remembers

end Record

end Json

/-! ## The records of the program -/

/-- The instant of the last update is set even when it is read as none. -/
theorem RoleRecord.layout_remembers : layout.Remembers := by
  simp only [Json.Record.Remembers, layout, List.forall_mem_cons]
  refine ⟨.required _ _ (fun _ _ => rfl) ?_, .required _ _ (fun _ _ => rfl) ?_,
    .required _ _ (fun _ _ => rfl) ?_, .trailing _ _ (fun _ _ => rfl) ?_, List.forall_mem_nil _⟩
  all_goals simp [Json.Field.required, Json.Field.trailing]

example :
    error? (RoleRecord.ofText "\x7b\"updatedAt\":null,\"name\":\"\",\"updatedAt\":null\x7d")
      = some (.duplicateField "updatedAt") := by decide +kernel

theorem Principal.layout_remembers : layout.Remembers := by
  simp only [Json.Record.Remembers, layout, List.forall_mem_cons]
  refine ⟨.required _ _ (fun _ _ => rfl) ?_, .required _ _ (fun _ _ => rfl) ?_,
    .required _ _ (fun _ _ => rfl) ?_, List.forall_mem_nil _⟩
  all_goals simp [Json.Field.required]

theorem AccessClaims.layout_remembers : layout.Remembers := by
  simp only [Json.Record.Remembers, layout, List.forall_mem_cons]
  refine ⟨.required _ _ (fun _ _ => rfl) ?_, .required _ _ (fun _ _ => rfl) ?_,
    .required _ _ (fun _ _ => rfl) ?_, .required _ _ (fun _ _ => rfl) ?_, List.forall_mem_nil _⟩
  all_goals simp [Json.Field.required]

theorem RefreshClient.layout_remembers : layout.Remembers := by
  simp only [Json.Record.Remembers, layout, List.forall_mem_cons]
  refine ⟨.required _ _ (fun _ _ => rfl) ?_, .required _ _ (fun _ _ => rfl) ?_,
    .required _ _ (fun _ _ => rfl) ?_, List.forall_mem_nil _⟩
  all_goals simp [Json.Field.required]

theorem DeclaredRole.layout_remembers : layout.Remembers := by
  simp only [Json.Record.Remembers, layout, List.forall_mem_cons]
  refine ⟨.required _ _ (fun _ _ => rfl) ?_, .required _ _ (fun _ _ => rfl) ?_,
    List.forall_mem_nil _⟩
  all_goals simp [Json.Field.required]

theorem DeclaredPrincipal.layout_remembers : layout.Remembers := by
  simp only [Json.Record.Remembers, layout, List.forall_mem_cons]
  refine ⟨.required _ _ (fun _ _ => rfl) ?_, .required _ _ (fun _ _ => rfl) ?_,
    List.forall_mem_nil _⟩
  all_goals simp [Json.Field.required]

theorem PolicyDocument.layout_remembers : layout.Remembers := by
  simp only [Json.Record.Remembers, layout, List.forall_mem_cons]
  refine ⟨.required _ _ (fun _ _ => rfl) ?_, .trailing _ _ (fun _ _ => rfl) ?_,
    List.forall_mem_nil _⟩
  all_goals simp [Json.Field.required, Json.Field.trailing]

/-- **No record of the program forgets a field that it has read.**  So each of them is refused for
a member that stands in it twice (`Json.Record.Remembers.refuses_repeated`). -/
theorem records_remember :
    RoleRecord.layout.Remembers ∧ Principal.layout.Remembers ∧ AccessClaims.layout.Remembers ∧
      RefreshClient.layout.Remembers ∧ PolicyDocument.layout.Remembers ∧
      DeclaredRole.layout.Remembers ∧ DeclaredPrincipal.layout.Remembers :=
  ⟨RoleRecord.layout_remembers, Principal.layout_remembers, AccessClaims.layout_remembers,
    RefreshClient.layout_remembers, PolicyDocument.layout_remembers,
    DeclaredRole.layout_remembers, DeclaredPrincipal.layout_remembers⟩

end AccessControl
