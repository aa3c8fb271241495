/-
# Tables

A finite map from keys to values, kept as a list of entries with distinct keys.
The order of the entries carries no meaning: the laws of this module describe a
table by its look-ups, and whatever is built on tables has to answer the same
for two tables whose entries are permutations of each other.
-/
namespace AccessControl

/-- A finite map from keys to values. -/
structure Table (κ : Type) (α : Type) where
  /-- The entries, in no meaningful order. -/
  entries : List (κ × α)
  /-- No key occurs twice. -/
  nodup : (entries.map Prod.fst).Nodup

namespace Table

variable {κ α : Type}

/-- The table without entries. -/
def empty : Table κ α := ⟨[], List.nodup_nil⟩

/-- The values of a table, in the order of its entries. -/
def values (t : Table κ α) : List α := t.entries.map Prod.snd

/-- The number of entries. -/
def size (t : Table κ α) : Nat := t.entries.length

/-- The entries that satisfy a condition. -/
def filter (t : Table κ α) (keep : κ → α → Bool) : Table κ α where
  entries := t.entries.filter fun entry => keep entry.1 entry.2
  nodup := t.nodup.sublist (List.filter_sublist.map Prod.fst)

variable [DecidableEq κ]

/-- The value stored under `key`, if any. -/
def find? (t : Table κ α) (key : κ) : Option α := t.entries.lookup key

/-- Whether something is stored under `key`. -/
def contains (t : Table κ α) (key : κ) : Bool := (t.find? key).isSome

/-- The table without the entry of `key`. -/
def erase (t : Table κ α) (key : κ) : Table κ α := t.filter fun k _ => k ≠ key

theorem key_notMem_erase (t : Table κ α) (key : κ) :
    key ∉ (t.erase key).entries.map Prod.fst := by
  simp [erase, filter]

/-- The table with `value` stored under `key`, in place of what was there. -/
def insert (t : Table κ α) (key : κ) (value : α) : Table κ α where
  entries := (key, value) :: (t.erase key).entries
  nodup := List.nodup_cons.2 ⟨t.key_notMem_erase key, (t.erase key).nodup⟩

/-! ## Look-up -/

@[simp]
theorem find?_empty (key : κ) : (empty : Table κ α).find? key = none := rfl

/-- An entry is what a look-up of its key finds. -/
theorem mem_entries_iff {t : Table κ α} {key : κ} {value : α} :
    (key, value) ∈ t.entries ↔ t.find? key = some value := by
  obtain ⟨entries, nodup⟩ := t
  unfold find?
  induction entries with
  | nil => simp
  | cons entry rest ih =>
    obtain ⟨k, v⟩ := entry
    obtain ⟨hk, hrest⟩ := List.nodup_cons.1 (List.map_cons ▸ nodup)
    simp only [List.mem_cons, Prod.mk.injEq, List.lookup_cons]
    by_cases h : key = k
    · subst h
      have hnot : (key, value) ∉ rest := fun hm => hk (List.mem_map.2 ⟨_, hm, rfl⟩)
      simp [hnot, eq_comm]
    · simpa [beq_false_of_ne h, h] using ih hrest

theorem find?_filter (t : Table κ α) (keep : κ → α → Bool) (key : κ) :
    (t.filter keep).find? key = (t.find? key).filter (keep key) := by
  apply Option.ext
  intro value
  rw [← mem_entries_iff, Option.filter_eq_some_iff, ← mem_entries_iff]
  simp [filter]

/-- Erasing a key forgets it and nothing else. -/
@[simp]
theorem find?_erase (t : Table κ α) (key other : κ) :
    (t.erase key).find? other = if other = key then none else t.find? other := by
  rw [erase, find?_filter]
  by_cases h : other = key
  · simp [h]
  · cases t.find? other <;> simp [h]

/-- Storing a value is seen under its key and nowhere else. -/
@[simp]
theorem find?_insert (t : Table κ α) (key other : κ) (value : α) :
    (t.insert key value).find? other = if other = key then some value else t.find? other := by
  have h : (t.insert key value).find? other
      = if other = key then some value else (t.erase key).find? other := by
    simp only [find?, insert, List.lookup_cons]
    by_cases h : other = key
    · simp [h]
    · simp [beq_false_of_ne h, h]
  rw [h, find?_erase]
  split <;> rfl

theorem find?_insert_eq_some_iff {t : Table κ α} {key other : κ} {value found : α} :
    (t.insert key value).find? other = some found ↔
      other = key ∧ found = value ∨ other ≠ key ∧ t.find? other = some found := by
  rw [find?_insert]
  by_cases h : other = key
  · simp [h, eq_comm]
  · simp [h]

theorem find?_erase_eq_some_iff {t : Table κ α} {key other : κ} {found : α} :
    (t.erase key).find? other = some found ↔ other ≠ key ∧ t.find? other = some found := by
  rw [find?_erase]
  by_cases h : other = key <;> simp [h]

/-- A key is present when a look-up of it finds something. -/
theorem contains_eq_true_iff {t : Table κ α} {key : κ} :
    t.contains key = true ↔ ∃ value, t.find? key = some value :=
  Option.isSome_iff_exists

theorem contains_eq_false_iff {t : Table κ α} {key : κ} :
    t.contains key = false ↔ t.find? key = none := by
  rw [contains, Option.isSome_eq_false_iff, Option.isNone_iff_eq_none]

/-- The values are what the look-ups find. -/
theorem mem_values_iff {t : Table κ α} {value : α} :
    value ∈ t.values ↔ ∃ key, t.find? key = some value := by
  rw [values, List.mem_map]
  constructor
  · rintro ⟨⟨key, _⟩, hmem, rfl⟩
    exact ⟨key, mem_entries_iff.1 hmem⟩
  · rintro ⟨key, hfind⟩
    exact ⟨(key, value), mem_entries_iff.2 hfind, rfl⟩

/-! ## Traits of the values -/

/-- Every value stands under the key that it carries. -/
def KeyedBy (t : Table κ α) (key : α → κ) : Prop :=
  ∀ k value, t.find? k = some value → key value = k

/-- No two entries have values that agree in a trait. -/
def Distinct {β : Type} (t : Table κ α) (trait : α → β) : Prop :=
  ∀ i j a b, t.find? i = some a → t.find? j = some b → trait a = trait b → i = j

theorem keyedBy_empty (key : α → κ) : (empty : Table κ α).KeyedBy key := by
  intro k value hfind
  simp at hfind

theorem distinct_empty {β : Type} (trait : α → β) :
    (empty : Table κ α).Distinct trait := by
  intro i j a b hi
  simp at hi

theorem KeyedBy.insert {t : Table κ α} {key : α → κ} (ht : t.KeyedBy key) {k : κ} {value : α}
    (hkey : key value = k) : (t.insert k value).KeyedBy key := by
  intro other found hfind
  rcases find?_insert_eq_some_iff.1 hfind with ⟨rfl, rfl⟩ | ⟨-, hold⟩
  · exact hkey
  · exact ht other found hold

theorem KeyedBy.erase {t : Table κ α} {key : α → κ} (ht : t.KeyedBy key) (k : κ) :
    (t.erase k).KeyedBy key := by
  intro other found hfind
  exact ht other found (find?_erase_eq_some_iff.1 hfind).2

/-- The new value must differ from those under other keys, not from the one it replaces. -/
theorem Distinct.insert {β : Type} {t : Table κ α} {trait : α → β} (ht : t.Distinct trait)
    {k : κ} {value : α}
    (hnew : ∀ i a, t.find? i = some a → trait a = trait value → i = k) :
    (t.insert k value).Distinct trait := by
  intro i j a b hi hj hab
  rcases find?_insert_eq_some_iff.1 hi with ⟨hik, ha⟩ | ⟨-, hiOld⟩
  · rcases find?_insert_eq_some_iff.1 hj with ⟨hjk, -⟩ | ⟨-, hjOld⟩
    · rw [hik, hjk]
    · rw [hik, hnew j b hjOld (by rw [← hab, ha])]
  · rcases find?_insert_eq_some_iff.1 hj with ⟨hjk, hb⟩ | ⟨-, hjOld⟩
    · rw [hjk, hnew i a hiOld (by rw [hab, hb])]
    · exact ht i j a b hiOld hjOld hab

theorem Distinct.erase {β : Type} {t : Table κ α} {trait : α → β} (ht : t.Distinct trait)
    (k : κ) : (t.erase k).Distinct trait := by
  intro i j a b hi hj
  exact ht i j a b (find?_erase_eq_some_iff.1 hi).2 (find?_erase_eq_some_iff.1 hj).2

/-- Tables with the same entries in another order look up the same. -/
theorem find?_eq_of_perm {s t : Table κ α} (h : s.entries.Perm t.entries) (key : κ) :
    s.find? key = t.find? key := by
  apply Option.ext
  intro value
  rw [← mem_entries_iff, ← mem_entries_iff, h.mem_iff]

end Table

end AccessControl
