/-
# Loading a defective role

A stored role that cannot be loaded is reported with the first defect of its matrix, or as
having no name once the matrix is complete.  Whoever repairs what is reported and loads the
role again gets ahead: whatever right value is put in place of the defective part, the next
report is a later one.  There is a defect less each time, so that the number of defects is
the number of repairs to a complete matrix.
-/
import AccessControl.Proofs.Json.Canonical
import AccessControl.Proofs.Rights.Repair
import AccessControl.Role.Record

namespace AccessControl

/-! ## Records that were read -/

/-- A record that was read from a text has a canonical matrix, as the laws below ask for. -/
theorem RoleRecord.canonical_of_ofText {text : String} {record : RoleRecord}
    (h : RoleRecord.ofText text = .ok record) : record.accessRights.Canonical := by
  have hfields : ∀ field ∈ layout.fields,
      field.Keeps fun draft : Draft => ∀ value ∈ draft.accessRights, value.Canonical := by
    simp only [layout, List.forall_mem_cons]
    refine ⟨Json.Field.keeps_required _ fun hdraft _ => hdraft,
      Json.Field.keeps_required _ fun _ hread => ?_,
      Json.Field.keeps_required _ fun hdraft _ => hdraft,
      Json.Field.keeps_trailing _ fun hdraft _ => hdraft, List.forall_mem_nil _⟩
    rintro value ⟨⟩
    exact Json.Value.canonical_of_readValue hread
  obtain ⟨draft, hdraft, hfinish⟩ :=
    Json.Record.exists_draft_of_ofText hfields (fun value hvalue => nomatch hvalue) h
  obtain ⟨_, -, hfinish⟩ := bind_eq_ok_iff.1 hfinish
  obtain ⟨rights, hrights, hfinish⟩ := bind_eq_ok_iff.1 hfinish
  obtain ⟨_, -, hfinish⟩ := bind_eq_ok_iff.1 hfinish
  cases hfinish
  exact hdraft rights (elim_eq_ok_iff.1 hrights)

namespace Role

variable {id : RoleId} {record last : RoleRecord} {d : MatrixDefect} {n : Nat}

/-! ## What is reported -/

/-- A matrix is reported for its first defect. -/
theorem load_eq_roleMatrix_iff :
    load id record = .error (.malformedPolicy (.roleMatrix record.name d)) ↔
      (MatrixDefect.all record.accessRights).head? = some d := by
  rw [load_eq_error_iff, ← AccessRights.error?_ofValue, error?_eq_some_iff]
  simp [eq_comm]

/-- The part of the matrix that is defective is named after the role. -/
theorem message_roleMatrix (name : String) (d : MatrixDefect) :
    (AuthorizationError.malformedPolicy (.roleMatrix name d)).message
      = "malformed policy: role '" ++ name ++ "': " ++ d.part.path ++ ": " ++ d.complaint := by
  have hmessage : (AuthorizationError.malformedPolicy (.roleMatrix name d)).message
      = "malformed policy: " ++ ("role '" ++ name ++ "': " ++ d.message) := rfl
  have hprefix : "malformed policy: " ++ "role '" = "malformed policy: role '" := rfl
  rw [hmessage, d.message_eq, ← hprefix]
  simp only [String.append_assoc]

/-! ## Loading after a repair -/

/-- After a repair the role is loaded, or has no name, or a later defect is reported. -/
theorem load_of_repaired (hrecord : record.accessRights.Canonical)
    (hload : load id record = .error (.malformedPolicy (.roleMatrix record.name d)))
    {w : Json.Value} (hw : d.part.Repaired record.accessRights w) (again : RoleId) :
    (∃ role, load again { record with accessRights := w } = .ok role) ∨
      load again { record with accessRights := w } = .error (.malformedPolicy .blankRoleName) ∨
      ∃ e, load again { record with accessRights := w }
          = .error (.malformedPolicy (.roleMatrix record.name e)) ∧ d.Before e := by
  obtain ⟨rest, hall⟩ := List.head?_eq_some_iff.1 (load_eq_roleMatrix_iff.1 hload)
  have hafter := MatrixDefect.all_of_repaired hrecord hall hw
  have hpairwise := MatrixDefect.pairwise_all hrecord
  rw [hall] at hpairwise
  cases hagain : load again { record with accessRights := w } with
  | ok role => exact .inl ⟨role, rfl⟩
  | error error =>
    rcases load_eq_error_iff.1 hagain with ⟨e, hread, rfl⟩ | ⟨-, -, rfl⟩
    · -- what is reported now stood in the list behind the defect that was repaired
      have hmem : e ∈ rest := by
        rw [← error?_eq_some_iff, AccessRights.error?_ofValue, hafter] at hread
        exact List.mem_of_mem_head? hread
      exact .inr (.inr ⟨e, rfl, (List.pairwise_cons.1 hpairwise).1 e hmem⟩)
    · exact .inr (.inl rfl)

/-- So many times the defect that is reported is repaired, and the role loaded again. -/
inductive Repairs : Nat → RoleRecord → RoleRecord → Prop
  | none (record : RoleRecord) : Repairs 0 record record
  | next {n : Nat} {id : RoleId} {record last : RoleRecord} {d : MatrixDefect} {w : Json.Value}
    (hload : load id record = .error (.malformedPolicy (.roleMatrix record.name d)))
    (hrepaired : d.part.Repaired record.accessRights w)
    (h : Repairs n { record with accessRights := w } last) : Repairs (n + 1) record last

namespace Repairs

/-- **Every repair takes one defect from the list**, whatever is put in its place. -/
theorem length_eq (h : Repairs n record last) (hrecord : record.accessRights.Canonical) :
    (MatrixDefect.all record.accessRights).length
      = n + (MatrixDefect.all last.accessRights).length := by
  induction h with
  | none record => rw [Nat.zero_add]
  | next hload hrepaired _ ih =>
    obtain ⟨rest, hall⟩ := List.head?_eq_some_iff.1 (load_eq_roleMatrix_iff.1 hload)
    have hafter := MatrixDefect.all_of_repaired hrecord hall hrepaired
    rw [Nat.succ_add, ← ih (hrepaired.canonical hrecord), hafter, hall, List.length_cons]

/-- As long as there are defects, there is a repair. -/
theorem exists_of_le (id : RoleId) (hrecord : record.accessRights.Canonical)
    (hn : n ≤ (MatrixDefect.all record.accessRights).length) :
    ∃ last, Repairs n record last := by
  induction n generalizing record with
  | zero => exact ⟨record, .none record⟩
  | succ n ih =>
    cases hall : MatrixDefect.all record.accessRights with
    | nil =>
      rw [hall] at hn
      exact absurd hn (Nat.not_succ_le_zero n)
    | cons d rest =>
      have hload : load id record = .error (.malformedPolicy (.roleMatrix record.name d)) := by
        rw [load_eq_roleMatrix_iff, hall, List.head?_cons]
      obtain ⟨w, hw⟩ := MatrixDefect.exists_repaired
        (MatrixDefect.mem_all.1 (hall ▸ List.mem_cons_self))
      have hafter := MatrixDefect.all_of_repaired hrecord hall hw
      rw [hall, List.length_cons] at hn
      have hleft : n ≤ (MatrixDefect.all w).length := by
        rw [hafter]
        exact Nat.le_of_succ_le_succ hn
      have hrest : ∃ last, Repairs n { record with accessRights := w } last :=
        ih (hw.canonical hrecord) hleft
      obtain ⟨last, hlast⟩ := hrest
      exact ⟨last, .next hload hw hlast⟩

/-- The matrix is complete after as many repairs as it had defects, and not before. -/
theorem completeMatrix_iff (h : Repairs n record last)
    (hrecord : record.accessRights.Canonical) :
    CompleteMatrix last.accessRights ↔
      n = (MatrixDefect.all record.accessRights).length := by
  rw [AccessRights.completeMatrix_iff, h.length_eq hrecord, ← List.length_eq_zero_iff]
  omega

end Repairs

/--
**A role is reported for its first defect, and repairing it makes progress.**  Loading fails
only for a malformed policy: with the name of the role and the first defect of the matrix,
or for a blank name when the matrix has none.  The message names the part.  Whatever right
value the part is given, loading again gives the role, or the blank name, or a later
defect; and however the repairs go on, the matrix is complete after as many of them as it
had defects, which can always be made.
-/
theorem load_reports_first_defect (record : RoleRecord)
    (hrecord : record.accessRights.Canonical) :
    (∀ id error, load id record = .error error ↔
      (∃ d : MatrixDefect, d.In record.accessRights ∧
        (∀ e : MatrixDefect, e.In record.accessRights → e ≠ d → d.Before e) ∧
        error = .malformedPolicy (.roleMatrix record.name d)) ∨
      (∀ d : MatrixDefect, ¬ d.In record.accessRights) ∧ Text.IsBlank record.name ∧
        error = .malformedPolicy .blankRoleName) ∧
    (∀ d, (AuthorizationError.malformedPolicy (.roleMatrix record.name d)).message
      = "malformed policy: role '" ++ record.name ++ "': " ++ d.part.path ++ ": "
          ++ d.complaint) ∧
    (∀ id d, load id record = .error (.malformedPolicy (.roleMatrix record.name d)) →
      (∃ w, d.part.Repaired record.accessRights w) ∧
      ∀ w, d.part.Repaired record.accessRights w → ∀ again,
        (∃ role, load again { record with accessRights := w } = .ok role) ∨
          load again { record with accessRights := w }
            = .error (.malformedPolicy .blankRoleName) ∨
          ∃ e, load again { record with accessRights := w }
              = .error (.malformedPolicy (.roleMatrix record.name e)) ∧ d.Before e) ∧
    (∀ n last, Repairs n record last →
      n ≤ (MatrixDefect.all record.accessRights).length ∧
        (CompleteMatrix last.accessRights ↔
          n = (MatrixDefect.all record.accessRights).length)) ∧
    ∃ last, Repairs (MatrixDefect.all record.accessRights).length record last := by
  refine ⟨fun id error => ?_, message_roleMatrix record.name, fun id d hload => ⟨?_, ?_⟩,
    fun n last h => ⟨?_, h.completeMatrix_iff hrecord⟩, ?_⟩
  · rw [load_eq_error_iff, ← error?_eq_none_iff, AccessRights.error?_ofValue,
      List.head?_eq_none_iff, List.eq_nil_iff_forall_not_mem]
    simp only [← error?_eq_some_iff, AccessRights.error?_ofValue,
      MatrixDefect.head?_all_eq_some_iff hrecord, MatrixDefect.mem_all, and_assoc]
  · have hfirst := (MatrixDefect.head?_all_eq_some_iff hrecord).1 (load_eq_roleMatrix_iff.1 hload)
    exact MatrixDefect.exists_repaired hfirst.1
  · exact fun w hw again => load_of_repaired hrecord hload hw again
  · rw [h.length_eq hrecord]
    exact Nat.le_add_right n _
  · exact Repairs.exists_of_le ⟨.ofNat 0⟩ hrecord (Nat.le_refl _)

/-- A role whose matrix has an unknown key, and nothing that is right. -/
def haunted : RoleRecord :=
  ⟨"keeper", .object [("ghosts", .null), ("users", .null)], .epoch, none⟩

/-- The law for this role: the key is dropped first, and six repairs make the matrix complete. -/
theorem load_reports_first_defect_haunted :
    (∀ e : MatrixDefect, e.In haunted.accessRights → e ≠ .unknownResource "ghosts" →
      MatrixDefect.Before (.unknownResource "ghosts") e) ∧
    (∃ e, load ⟨.ofNat 1⟩ { haunted with accessRights := .object [("users", .null)] }
        = .error (.malformedPolicy (.roleMatrix "keeper" e)) ∧
      MatrixDefect.Before (.unknownResource "ghosts") e) ∧
    ∃ last, Repairs 6 haunted last ∧ CompleteMatrix last.accessRights := by
  have hcanonical : haunted.accessRights.Canonical :=
    ⟨List.pairwise_pair.2 (by decide), trivial, trivial, trivial⟩
  have hload : load ⟨.ofNat 1⟩ haunted
      = .error (.malformedPolicy (.roleMatrix "keeper" (.unknownResource "ghosts"))) := rfl
  have hcount : (MatrixDefect.all haunted.accessRights).length = 6 := by decide
  obtain ⟨hfirst, -, hrepair, hcomplete, last, hlast⟩ :=
    load_reports_first_defect haunted hcanonical
  refine ⟨?_, ?_, last, hcount ▸ hlast, (hcomplete _ last hlast).2.2 rfl⟩
  · rcases (hfirst ⟨.ofNat 1⟩ _).1 hload with ⟨d, -, hbefore, heq⟩ | ⟨-, -, heq⟩
    · cases heq
      exact hbefore
    · cases heq
  · have hdropped : MatrixPart.Repaired (.resourceKey "ghosts") haunted.accessRights
        (.object [("users", .null)]) := .resourceKey
    rcases (hrepair ⟨.ofNat 1⟩ _ hload).2 _ hdropped ⟨.ofNat 1⟩ with ⟨role, hok⟩ | hblank | hlater
    · cases hok
    · cases hblank
    · exact hlater

end Role

end AccessControl
