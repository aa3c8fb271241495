/-
# Distinct values in order

Sorting a list so that every value of it is kept once.
-/
namespace AccessControl

variable {α : Type} [DecidableEq α] [LT α] [DecidableLT α]

/-- The list with `x` put before the first larger value, unless `x` stands there already. -/
def insertDistinct (x : α) : List α → List α
  | [] => [x]
  | y :: rest =>
    if x = y then y :: rest
    else if x < y then x :: y :: rest
    else y :: insertDistinct x rest

/-- The values of a list, each once, in increasing order. -/
def sortDistinct (xs : List α) : List α := xs.foldr insertDistinct []

/-! ## Small facts -/

theorem mem_insertDistinct {x y : α} {xs : List α} :
    y ∈ insertDistinct x xs ↔ y = x ∨ y ∈ xs := by
  induction xs with
  | nil => simp [insertDistinct]
  | cons z rest ih =>
    unfold insertDistinct
    split
    · rename_i h
      subst h
      simp
    · split
      · simp
      · simp only [List.mem_cons, ih]
        constructor
        · rintro (h | h | h)
          · exact .inr (.inl h)
          · exact .inl h
          · exact .inr (.inr h)
        · rintro (h | h | h)
          · exact .inr (.inl h)
          · exact .inl h
          · exact .inr (.inr h)

/-- Sorting neither loses nor adds a value. -/
theorem mem_sortDistinct {y : α} {xs : List α} : y ∈ sortDistinct xs ↔ y ∈ xs := by
  induction xs with
  | nil => simp [sortDistinct]
  | cons x rest ih =>
    rw [sortDistinct, List.foldr_cons, mem_insertDistinct]
    exact or_congr Iff.rfl ih |>.trans List.mem_cons.symm

/-- Putting in a value keeps the order of the others. -/
theorem pairwise_insertDistinct (htrans : ∀ {x y z : α}, x < y → y < z → x < z)
    (htotal : ∀ {x y : α}, x ≠ y → ¬ x < y → y < x) (x : α) {xs : List α}
    (hxs : xs.Pairwise (· < ·)) : (insertDistinct x xs).Pairwise (· < ·) := by
  induction xs with
  | nil => exact List.pairwise_singleton _ x
  | cons y rest ih =>
    obtain ⟨hhead, hrest⟩ := List.pairwise_cons.1 hxs
    unfold insertDistinct
    split
    case isTrue => exact hxs
    case isFalse hne =>
      split
      case isTrue hlt =>
        refine List.pairwise_cons.2 ⟨fun z hz => ?_, hxs⟩
        rcases List.mem_cons.1 hz with rfl | hz
        · exact hlt
        · exact htrans hlt (hhead z hz)
      case isFalse hnlt =>
        refine List.pairwise_cons.2 ⟨fun z hz => ?_, ih hrest⟩
        rcases mem_insertDistinct.1 hz with rfl | hz
        · exact htotal hne hnlt
        · exact hhead z hz

/-- Sorted values increase strictly. -/
theorem pairwise_sortDistinct (htrans : ∀ {x y z : α}, x < y → y < z → x < z)
    (htotal : ∀ {x y : α}, x ≠ y → ¬ x < y → y < x) (xs : List α) :
    (sortDistinct xs).Pairwise (· < ·) := by
  induction xs with
  | nil => exact List.Pairwise.nil
  | cons x rest ih => exact pairwise_insertDistinct htrans htotal x ih

end AccessControl
