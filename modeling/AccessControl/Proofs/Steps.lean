/-
# Steps that can fail

When two steps one after the other succeed or fail, and when a step whose error is
renamed does, or one step for every item of a list.  Whatever is made of steps is
opened with these laws.  A step that undoes another tells its inputs apart.
-/
import Mathlib.Data.List.Forall2

namespace AccessControl

variable {ε ε' α β : Type}

/-- Two steps succeed when the first does and the second does with what the first gives. -/
theorem bind_eq_ok_iff {x : Except ε α} {f : α → Except ε β} {b : β} :
    x >>= f = .ok b ↔ ∃ a, x = .ok a ∧ f a = .ok b := by
  cases x with
  | error error => simp [bind, Except.bind]
  | ok a => simp [bind, Except.bind]

/-- Two steps fail when the first does, or the second does with what the first gives. -/
theorem bind_eq_error_iff {x : Except ε α} {f : α → Except ε β} {error : ε} :
    x >>= f = .error error ↔ x = .error error ∨ ∃ a, x = .ok a ∧ f a = .error error := by
  cases x with
  | error error => simp [bind, Except.bind]
  | ok a => simp [bind, Except.bind]

theorem mapError_eq_ok_iff {f : ε → ε'} {x : Except ε α} {a : α} :
    x.mapError f = .ok a ↔ x = .ok a := by
  cases x with
  | error error =>
    show Except.error (f error) = Except.ok a ↔ Except.error error = Except.ok a
    simp
  | ok b =>
    show (Except.ok b : Except ε' α) = .ok a ↔ (Except.ok b : Except ε α) = .ok a
    rw [Except.ok.injEq, Except.ok.injEq]

theorem mapError_eq_error_iff {f : ε → ε'} {x : Except ε α} {error : ε'} :
    x.mapError f = .error error ↔ ∃ cause, x = .error cause ∧ error = f cause := by
  cases x with
  | error cause =>
    show Except.error (f cause) = Except.error error ↔ _
    simp [eq_comm]
  | ok a =>
    show (Except.ok a : Except ε' α) = .error error ↔ _
    simp

/-! ## The error of a step -/

/-- The error of a step that fails. -/
def error? : Except ε α → Option ε
  | .error error => some error
  | .ok _ => none

theorem error?_eq_some_iff {x : Except ε α} {error : ε} :
    error? x = some error ↔ x = .error error := by
  cases x <;> simp [error?]

theorem error?_eq_none_iff {x : Except ε α} : error? x = none ↔ ∃ a, x = .ok a := by
  cases x <;> simp [error?]

/-- Of two steps the first one fails first; the error of the second is what it fails with after
any result of the first. -/
theorem error?_bind {x : Except ε α} {f : α → Except ε β} {next : Option ε}
    (h : ∀ a, error? (f a) = next) : error? (x >>= f) = (error? x).or next := by
  cases x with
  | error error => rfl
  | ok a => exact h a

/-! ## One step for every item -/

/-- Steps for the items of a list succeed when each does, with the results in their order. -/
theorem mapM_eq_ok_iff {f : α → Except ε β} {items : List α} {results : List β} :
    items.mapM f = .ok results ↔
      List.Forall₂ (fun item result => f item = .ok result) items results := by
  induction items generalizing results with
  | nil =>
    rw [List.mapM_nil, List.forall₂_nil_left_iff]
    show Except.ok [] = Except.ok results ↔ _
    rw [Except.ok.injEq, eq_comm]
  | cons item rest ih =>
    rw [List.mapM_cons, List.forall₂_cons_left_iff]
    simp only [bind_eq_ok_iff, ih, pure, Except.pure, Except.ok.injEq]
    constructor
    · rintro ⟨result, hitem, others, hrest, rfl⟩
      exact ⟨result, others, hitem, hrest, rfl⟩
    · rintro ⟨result, others, hitem, hrest, rfl⟩
      exact ⟨result, hitem, others, hrest, rfl⟩

theorem exists_mapM_eq_ok_iff {f : α → Except ε β} {items : List α} :
    (∃ results, items.mapM f = .ok results) ↔ ∀ item ∈ items, ∃ result, f item = .ok result := by
  simp only [mapM_eq_ok_iff]
  induction items with
  | nil => simp
  | cons item rest ih =>
    rw [List.forall_mem_cons, ← ih]
    constructor
    · rintro ⟨_, hall⟩
      cases hall with
      | cons hitem hrest => exact ⟨⟨_, hitem⟩, ⟨_, hrest⟩⟩
    · rintro ⟨⟨_, hitem⟩, ⟨_, hrest⟩⟩
      exact ⟨_, .cons hitem hrest⟩

/-- When the steps fail, they fail as one of them does. -/
theorem exists_of_mapM_eq_error {f : α → Except ε β} {items : List α} {error : ε}
    (h : items.mapM f = .error error) : ∃ item ∈ items, f item = .error error := by
  induction items with
  | nil => cases h
  | cons item rest ih =>
    rw [List.mapM_cons] at h
    rcases bind_eq_error_iff.1 h with hitem | ⟨_, -, h⟩
    · exact ⟨item, List.mem_cons_self, hitem⟩
    · rcases bind_eq_error_iff.1 h with hrest | ⟨_, -, h⟩
      · obtain ⟨other, hmem, hother⟩ := ih hrest
        exact ⟨other, List.mem_cons_of_mem _ hmem, hother⟩
      · cases h

/-! ## Steps that undo another -/

/-- What can be read back is not written alike for two things. -/
theorem injective_of_readsBack (write : α → β) (read? : β → Option α)
    (h : ∀ a, read? (write a) = some a) : Function.Injective write := by
  intro a b hab
  have ha := h a
  rw [hab, h b] at ha
  exact (Option.some.inj ha).symm

end AccessControl
