/-
# Writes to a matrix

A matrix is a total map from permissions to flags, although every cell is a field of its own
that is reached through a row.  A write replaces one flag.  Whatever is written, however
often and in whatever order, a cell holds what was written to it last, or what it held at
first; and a matrix is no more than what it allows, so that writes which leave the same flags
leave the same matrix.
-/
import AccessControl.Rights
import Mathlib.Data.List.Induction

namespace AccessControl

/-! ## The order of permissions -/

namespace Permission

/-- One permission is declared before another: its resource is, or its action on the same
resource. -/
def Before (p q : Permission) : Prop :=
  Resource.all.idxOf p.resource < Resource.all.idxOf q.resource ∨
    p.resource = q.resource ∧ Action.all.idxOf p.action < Action.all.idxOf q.action

theorem Before.ne {p q : Permission} (h : p.Before q) : p ≠ q := by
  rintro rfl
  rcases h with h | ⟨-, h⟩
  · exact Nat.lt_irrefl _ h
  · exact Nat.lt_irrefl _ h

/-- All permissions are listed by resources, and on each resource by actions. -/
theorem pairwise_all : all.Pairwise Before := by
  refine List.pairwise_flatMap.2
    ⟨fun r _ => ?_, Resource.pairwise_idxOf_all.imp fun hlt p hp q hq => ?_⟩
  · exact List.pairwise_map.2 (Action.pairwise_idxOf_all.imp fun hlt => .inr ⟨rfl, hlt⟩)
  · obtain ⟨a, -, rfl⟩ := List.mem_map.1 hp
    obtain ⟨b, -, rfl⟩ := List.mem_map.1 hq
    exact .inl hlt

/-- The distinct permissions of a list stand in their order, each once. -/
theorem pairwise_distinct (ps : List Permission) : (distinct ps).Pairwise Before :=
  pairwise_all.filter _

theorem mem_distinct {ps : List Permission} {p : Permission} : p ∈ distinct ps ↔ p ∈ ps := by
  rw [distinct, List.mem_filter, decide_eq_true_eq]
  exact and_iff_right p.mem_all

end Permission

/-! ## Last writes -/

/-- A flag that is put into the cell of a permission. -/
structure Write where
  permission : Permission
  allowed : Bool
  deriving DecidableEq, Repr

/-- The flag of the last write to a cell, if there is any. -/
def Write.last? (writes : List Write) (p : Permission) : Option Bool :=
  (writes.filter fun w => w.permission = p).getLast?.map Write.allowed

/-- Each cell written once, in the order of the permissions. -/
def Write.each (cell : Resource → Action → Bool) : List Write :=
  Permission.all.map fun p => ⟨p, cell p.resource p.action⟩

theorem Write.last?_concat (writes : List Write) (w : Write) (p : Permission) :
    last? (writes ++ [w]) p = if p = w.permission then some w.allowed else last? writes p := by
  unfold last?
  rw [List.filter_append]
  by_cases h : p = w.permission
  · simp [h]
  · simp [h, Ne.symm h]

namespace AccessRights

variable {rights other : AccessRights} {writes others : List Write} {p : Permission}

/-- The matrix after writes, one after the other. -/
def writeAll (rights : AccessRights) (writes : List Write) : AccessRights :=
  writes.foldl (fun m w => m.update w.permission.resource w.permission.action w.allowed) rights

/-- What a cell holds after writes: the flag last written to it, or what it held before. -/
def flagAfter (rights : AccessRights) (writes : List Write) (p : Permission) : Bool :=
  (Write.last? writes p).getD (rights.allows p.resource p.action)

/-! ## Cells -/

theorem writeAll_concat (rights : AccessRights) (writes : List Write) (w : Write) :
    rights.writeAll (writes ++ [w])
      = (rights.writeAll writes).update w.permission.resource w.permission.action w.allowed := by
  rw [writeAll, List.foldl_append]
  rfl

theorem flagAfter_concat (rights : AccessRights) (writes : List Write) (w : Write)
    (p : Permission) :
    rights.flagAfter (writes ++ [w]) p
      = if p = w.permission then w.allowed else rights.flagAfter writes p := by
  rw [flagAfter, Write.last?_concat]
  split
  · rfl
  · rfl

/-- A cell holds what was last written to it. -/
theorem allows_writeAll (rights : AccessRights) (writes : List Write) (p : Permission) :
    (rights.writeAll writes).allows p.resource p.action = rights.flagAfter writes p := by
  induction writes using List.reverseRecOn with
  | nil => rfl
  | append_singleton writes w ih =>
    obtain ⟨resource, action⟩ := p
    obtain ⟨⟨r, a⟩, allowed⟩ := w
    -- the write after all the others is the last one to its cell
    rw [writeAll_concat, allows_update, flagAfter_concat, ih]
    simp only [Permission.mk.injEq]

/-- Writes leave the same matrix when they leave the same flags. -/
theorem writeAll_eq_writeAll_iff :
    rights.writeAll writes = other.writeAll others ↔
      ∀ p, rights.flagAfter writes p = other.flagAfter others p := by
  constructor
  · intro h p
    rw [← allows_writeAll, ← allows_writeAll, h]
  · intro h
    refine ext_allows fun r a => ?_
    rw [allows_writeAll rights writes ⟨r, a⟩, allows_writeAll other others ⟨r, a⟩, h]

/-- The flags of a matrix make it again. -/
theorem ofCells_allows (rights : AccessRights) : ofCells rights.allows = rights :=
  ext_allows (allows_ofCells rights.allows)

/-- Once every cell is written, nothing is left of what was there before. -/
theorem writeAll_each (rights : AccessRights) (cell : Resource → Action → Bool) :
    rights.writeAll (Write.each cell) = ofCells cell := by
  rw [writeAll, Write.each, List.foldl_map]
  exact foldl_update rights cell

/-! ## Listing -/

/-- What is granted is listed by resources, and on each resource by actions. -/
theorem pairwise_granted (rights : AccessRights) : rights.granted.Pairwise Permission.Before := by
  rw [granted_eq_filter]
  exact Permission.pairwise_all.filter _

/--
**The last writes stand.**  After any writes a cell holds the flag that was last written to
it, and what it held at first if none was.  Two histories of writes leave the same matrix
exactly when they leave the same flag in every cell.  The permissions granted afterwards are
those of the cells that are allowed then, by resources and actions in order of declaration,
each once.  The flags that a matrix has make it again, and making a matrix from flags is to
write every cell.
-/
theorem last_writes_stand (rights : AccessRights) (writes : List Write) :
    (∀ r a, (rights.writeAll writes).allows r a = rights.flagAfter writes ⟨r, a⟩) ∧
      (∀ (other : AccessRights) (others : List Write),
        rights.writeAll writes = other.writeAll others ↔
          ∀ p, rights.flagAfter writes p = other.flagAfter others p) ∧
      (∀ p, p ∈ (rights.writeAll writes).granted ↔ rights.flagAfter writes p = true) ∧
      (rights.writeAll writes).granted.Pairwise Permission.Before ∧
      (rights.writeAll writes).granted.Nodup ∧
      ofCells (rights.writeAll writes).allows = rights.writeAll writes ∧
      ∀ cell, ofCells cell = rights.writeAll (Write.each cell) := by
  refine ⟨fun r a => allows_writeAll rights writes ⟨r, a⟩,
    fun other others => writeAll_eq_writeAll_iff, fun p => ?_, pairwise_granted _, ?_,
    ofCells_allows _, fun cell => (rights.writeAll_each cell).symm⟩
  · rw [mem_granted, allows_writeAll]
  · exact (pairwise_granted _).imp Permission.Before.ne

example : (empty.writeAll [⟨⟨.users, .list⟩, true⟩, ⟨⟨.roles, .edit⟩, true⟩,
    ⟨⟨.users, .list⟩, false⟩]).granted = [⟨.roles, .edit⟩] := by decide

end AccessRights

end AccessControl
