/-
# Entries in key order

Lists of named values held in increasing order of their names, one value per
name.  Names are ordered by code point, which is also the byte order of their
UTF-8 forms.  `Keyed.insert` is the only way such a list grows; the look-up
lemmas hold for every list, the order lemma for lists that are in order.
-/
namespace AccessControl.Keyed

variable {α : Type}

/-- The entries with `key` bound to `value`, in place of any earlier binding. -/
def insert (key : String) (value : α) : List (String × α) → List (String × α)
  | [] => [(key, value)]
  | (k, v) :: rest =>
    if key = k then (key, value) :: rest
    else if key < k then (key, value) :: (k, v) :: rest
    else (k, v) :: insert key value rest

/-- The entries of a list of bindings; of two bindings of one key the later counts. -/
def ofList (bindings : List (String × α)) : List (String × α) :=
  bindings.foldl (fun entries binding => insert binding.1 binding.2 entries) []

/-- The value bound to `key`, if any. -/
def find? (entries : List (String × α)) (key : String) : Option α := entries.lookup key

/-- The entries without the binding of `key`. -/
def erase (entries : List (String × α)) (key : String) : List (String × α) :=
  entries.filter fun entry => entry.1 ≠ key

/-- The keys stand in strictly increasing order. -/
def Increasing (entries : List (String × α)) : Prop :=
  entries.Pairwise fun a b => a.1 < b.1

/-! ## Look-up -/

@[simp]
theorem find?_nil (key : String) : find? ([] : List (String × α)) key = none := rfl

theorem find?_cons (k : String) (v : α) (rest : List (String × α)) (key : String) :
    find? ((k, v) :: rest) key = if key = k then some v else find? rest key := by
  unfold find?
  rw [List.lookup_cons]
  by_cases h : key = k
  · simp [h]
  · simp [beq_false_of_ne h, h]

/-- Looking up the key just bound finds its value. -/
theorem find?_insert_self (key : String) (value : α) (entries : List (String × α)) :
    find? (insert key value entries) key = some value := by
  induction entries with
  | nil => simp [insert, find?_cons]
  | cons entry rest ih =>
    obtain ⟨k, v⟩ := entry
    unfold insert
    split
    · simp [find?_cons]
    · split
      · simp [find?_cons]
      · rename_i hne _
        simp [find?_cons, hne, ih]

/-- Binding one key leaves what is bound to the others. -/
theorem find?_insert_of_ne {key other : String} (h : other ≠ key) (value : α)
    (entries : List (String × α)) :
    find? (insert key value entries) other = find? entries other := by
  induction entries with
  | nil => simp [insert, find?_cons, h]
  | cons entry rest ih =>
    obtain ⟨k, v⟩ := entry
    unfold insert
    split
    · rename_i hk
      subst hk
      simp [find?_cons, h]
    · split
      · simp [find?_cons, h]
      · simp [find?_cons, ih]

/-- Dropping one key leaves what is bound to the others. -/
theorem find?_erase (entries : List (String × α)) (key other : String) :
    find? (erase entries key) other = if other = key then none else find? entries other := by
  induction entries with
  | nil => simp [erase]
  | cons entry rest ih =>
    obtain ⟨k, v⟩ := entry
    rw [erase] at ih
    by_cases hk : k = key
    · rw [erase, List.filter_cons_of_neg (by simp [hk]), ih]
      by_cases h : other = key
      · rw [if_pos h, if_pos h]
      · rw [if_neg h, if_neg h, find?_cons, if_neg (hk ▸ h)]
    · rw [erase, List.filter_cons_of_pos (by simp [hk]), find?_cons, ih, find?_cons]
      by_cases h : other = k
      · rw [if_pos h, if_pos h, if_neg (h ▸ hk)]
      · rw [if_neg h, if_neg h]

/-! ## Order -/

/-- The entries after an insertion are the new one and old ones. -/
theorem mem_insert {key : String} {value : α} {entries : List (String × α)} {e : String × α}
    (h : e ∈ insert key value entries) : e = (key, value) ∨ e ∈ entries := by
  induction entries with
  | nil => simpa [insert] using h
  | cons entry rest ih =>
    obtain ⟨k, v⟩ := entry
    unfold insert at h
    split at h
    · rcases List.mem_cons.1 h with h | h
      · exact .inl h
      · exact .inr (List.mem_cons_of_mem _ h)
    · split at h
      · rcases List.mem_cons.1 h with h | h
        · exact .inl h
        · exact .inr h
      · rcases List.mem_cons.1 h with h | h
        · exact .inr (h ▸ List.mem_cons_self)
        · rcases ih h with h | h
          · exact .inl h
          · exact .inr (List.mem_cons_of_mem _ h)

/-- Insertion keeps the order. -/
theorem Increasing.insert {entries : List (String × α)} (h : Increasing entries)
    (key : String) (value : α) : Increasing (insert key value entries) := by
  induction entries with
  | nil => simp [Keyed.insert, Increasing]
  | cons entry rest ih =>
    obtain ⟨k, v⟩ := entry
    obtain ⟨hhead, htail⟩ := List.pairwise_cons.1 h
    unfold Keyed.insert
    split
    · rename_i hk
      subst hk
      exact List.pairwise_cons.2 ⟨hhead, htail⟩
    · rename_i hne
      split
      · rename_i hlt
        refine List.pairwise_cons.2 ⟨fun e he => ?_, h⟩
        rcases List.mem_cons.1 he with he | he
        · exact he ▸ hlt
        · exact String.lt_trans hlt (hhead e he)
      · rename_i hnlt
        refine List.pairwise_cons.2 ⟨fun e he => ?_, ih htail⟩
        rcases mem_insert he with he | he
        · subst he
          exact Std.lt_of_le_of_ne (String.not_lt.1 hnlt) (Ne.symm hne)
        · exact hhead e he

/-- Dropping a key keeps the order. -/
theorem Increasing.erase {entries : List (String × α)} (h : Increasing entries) (key : String) :
    Increasing (erase entries key) := h.filter _

/-- What is found stands among the entries. -/
theorem mem_of_find? {entries : List (String × α)} {key : String} {value : α}
    (h : find? entries key = some value) : (key, value) ∈ entries := by
  induction entries with
  | nil => cases h
  | cons entry rest ih =>
    obtain ⟨k, v⟩ := entry
    rw [find?_cons] at h
    by_cases hkey : key = k
    · rw [if_pos hkey, Option.some.injEq] at h
      subst hkey h
      exact List.mem_cons_self
    · rw [if_neg hkey] at h
      exact List.mem_cons_of_mem _ (ih h)

/-- A key that stands among the entries is found. -/
theorem exists_find?_of_mem {entries : List (String × α)} {key : String} {value : α}
    (h : (key, value) ∈ entries) : ∃ found, find? entries key = some found := by
  induction entries with
  | nil => cases h
  | cons entry rest ih =>
    obtain ⟨k, v⟩ := entry
    rw [find?_cons]
    by_cases hkey : key = k
    · exact ⟨v, if_pos hkey⟩
    · rw [if_neg hkey]
      rcases List.mem_cons.1 h with heq | hrest
      · cases heq
        exact absurd rfl hkey
      · exact ih hrest

/-- In entries that are in order, an entry is what a look-up of its key finds. -/
theorem Increasing.mem_iff {entries : List (String × α)} (h : Increasing entries) {key : String}
    {value : α} : (key, value) ∈ entries ↔ find? entries key = some value := by
  refine ⟨?_, mem_of_find?⟩
  induction entries with
  | nil => exact fun hmem => absurd hmem List.not_mem_nil
  | cons entry rest ih =>
    obtain ⟨k, v⟩ := entry
    obtain ⟨hhead, htail⟩ := List.pairwise_cons.1 h
    intro hmem
    rw [find?_cons]
    rcases List.mem_cons.1 hmem with heq | hrest
    · cases heq
      rw [if_pos rfl]
    · have hlt : k < key := hhead (key, value) hrest
      have hne : key ≠ k := fun heq => String.lt_irrefl k (heq ▸ hlt)
      rw [if_neg hne]
      exact ih htail hrest

theorem Increasing.nodup {entries : List (String × α)} (h : Increasing entries) :
    entries.Nodup := by
  refine List.Pairwise.imp ?_ h
  rintro a b hlt rfl
  exact String.lt_irrefl _ hlt

/-- Entries in order are determined by what look-ups find. -/
theorem Increasing.eq_of_find?_eq {entries others : List (String × α)} (h : Increasing entries)
    (h' : Increasing others) (hfind : ∀ key, find? entries key = find? others key) :
    entries = others := by
  have hperm : entries.Perm others := by
    refine (List.perm_ext_iff_of_nodup h.nodup h'.nodup).2 ?_
    rintro ⟨key, value⟩
    rw [h.mem_iff, h'.mem_iff, hfind]
  refine hperm.eq_of_pairwise ?_ h h'
  intro a b _ _ hlt hgt
  exact absurd (String.lt_trans hlt hgt) (String.lt_irrefl _)

/-- A list of bindings is held in order. -/
theorem increasing_ofList (bindings : List (String × α)) : Increasing (ofList bindings) := by
  have step : ∀ (bs entries : List (String × α)), Increasing entries →
      Increasing (bs.foldl (fun es b => insert b.1 b.2 es) entries) := by
    intro bs
    induction bs with
    | nil => exact fun _ h => h
    | cons b bs ih => exact fun _ h => ih _ (h.insert b.1 b.2)
  exact step bindings [] List.Pairwise.nil

/-- A key that comes after all others is added at the end. -/
theorem insert_of_forall_lt {key : String} (value : α) {entries : List (String × α)}
    (h : ∀ entry ∈ entries, entry.1 < key) :
    insert key value entries = entries ++ [(key, value)] := by
  induction entries with
  | nil => rfl
  | cons entry rest ih =>
    obtain ⟨k, v⟩ := entry
    have hlt : k < key := h (k, v) List.mem_cons_self
    have hne : key ≠ k := fun heq => String.lt_irrefl k (heq ▸ hlt)
    have hnlt : ¬ key < k := fun hgt => String.lt_irrefl k (String.lt_trans hlt hgt)
    have hrest : insert key value rest = rest ++ [(key, value)] :=
      ih fun other hother => h other (List.mem_cons_of_mem _ hother)
    rw [insert, if_neg hne, if_neg hnlt, hrest]
    rfl

/-- Bindings in order are the entries that they make. -/
theorem ofList_of_increasing {entries : List (String × α)} (h : Increasing entries) :
    ofList entries = entries := by
  have step : ∀ bs before : List (String × α), Increasing (before ++ bs) →
      bs.foldl (fun es b => insert b.1 b.2 es) before = before ++ bs := by
    intro bs
    induction bs with
    | nil => exact fun before _ => (List.append_nil before).symm
    | cons b bs ih =>
      intro before hall
      obtain ⟨-, -, hcross⟩ := List.pairwise_append.1 hall
      have hlast : insert b.1 b.2 before = before ++ [b] :=
        insert_of_forall_lt b.2 fun entry hentry => hcross entry hentry b List.mem_cons_self
      rw [List.foldl_cons, hlast, ih _ (by rwa [List.append_assoc]), List.append_assoc]
      rfl
  exact step entries [] h

/-! ## Entries for the items of a list -/

/-- When no two items share a name, a look-up finds the value of the item of that name. -/
theorem find?_ofList_map {β : Type} {name : β → String} {value : β → α} {items : List β}
    (hnames : (items.map name).Nodup) (key : String) :
    find? (ofList (items.map fun item => (name item, value item))) key
      = (items.find? fun item => name item = key).map value := by
  have step : ∀ (items : List β) (entries : List (String × α)), (items.map name).Nodup →
      find? ((items.map fun item => (name item, value item)).foldl
          (fun es b => insert b.1 b.2 es) entries) key
        = ((items.find? fun item => name item = key).map value).or (find? entries key) := by
    intro items
    induction items with
    | nil => exact fun _ _ => rfl
    | cons item rest ih =>
      intro entries hnames
      obtain ⟨hnew, hrest⟩ := List.nodup_cons.1 (List.map_cons ▸ hnames)
      rw [List.map_cons, List.foldl_cons, ih _ hrest, List.find?_cons]
      by_cases hkey : name item = key
      · -- no later item has the name, so the entry just bound stays
        have hnone : (rest.find? fun item => name item = key) = none := by
          rw [List.find?_eq_none]
          intro other hother hsame
          have hsame := of_decide_eq_true hsame
          exact hnew (List.mem_map.2 ⟨other, hother, hsame.trans hkey.symm⟩)
        simp [hnone, hkey, find?_insert_self]
      · simp [hkey, find?_insert_of_ne (Ne.symm hkey)]
  rw [ofList, step items [] hnames, find?_nil, Option.or_none]

/-- When no two items share a name, the first item of a name is the only one. -/
theorem find?_name_eq_some_iff {β : Type} {name : β → String} {items : List β}
    (hnames : (items.map name).Nodup) {key : String} {item : β} :
    (items.find? fun item => name item = key) = some item ↔ item ∈ items ∧ name item = key := by
  induction items with
  | nil => simp
  | cons first rest ih =>
    obtain ⟨hnew, hrest⟩ := List.nodup_cons.1 (List.map_cons ▸ hnames)
    rw [List.find?_cons, List.mem_cons]
    by_cases hkey : name first = key
    · have hlater : item ∈ rest → name item ≠ key := fun hmem hname =>
        hnew (List.mem_map.2 ⟨item, hmem, hname.trans hkey.symm⟩)
      simp only [hkey, decide_true, Option.some.injEq]
      constructor
      · rintro rfl
        exact ⟨.inl rfl, hkey⟩
      · rintro ⟨rfl | hmem, hname⟩
        · rfl
        · exact absurd hname (hlater hmem)
    · simp only [hkey, decide_false, ih hrest]
      constructor
      · rintro ⟨hmem, hname⟩
        exact ⟨.inr hmem, hname⟩
      · rintro ⟨rfl | hmem, hname⟩
        · exact absurd hname hkey
        · exact ⟨hmem, hname⟩

theorem find?_ofList_map_eq_some_iff {β : Type} {name : β → String} {value : β → α}
    {items : List β} (hnames : (items.map name).Nodup) {key : String} {found : α} :
    find? (ofList (items.map fun item => (name item, value item))) key = some found ↔
      ∃ item ∈ items, name item = key ∧ value item = found := by
  rw [find?_ofList_map hnames, Option.map_eq_some_iff]
  simp only [find?_name_eq_some_iff hnames, and_assoc]

/-- Bindings of different keys make the same entries in any order. -/
theorem ofList_of_perm {bindings entries : List (String × α)} (h : Increasing entries)
    (hperm : bindings.Perm entries) : ofList bindings = entries := by
  have hkeys : (bindings.map Prod.fst).Nodup := by
    refine (hperm.map Prod.fst).nodup_iff.2 (List.pairwise_map.2 (h.imp ?_))
    rintro a b hlt hsame
    exact String.lt_irrefl _ (hsame ▸ hlt)
  apply (increasing_ofList bindings).eq_of_find?_eq h
  intro key
  apply Option.ext
  intro found
  have hfind : find? (ofList (bindings.map fun b => (b.1, b.2))) key = some found ↔
      ∃ b ∈ bindings, b.1 = key ∧ b.2 = found :=
    find?_ofList_map_eq_some_iff hkeys
  rw [List.map_id'] at hfind
  rw [hfind, ← h.mem_iff, ← hperm.mem_iff]
  constructor
  · rintro ⟨_, hmem, rfl, rfl⟩
    exact hmem
  · exact fun hmem => ⟨_, hmem, rfl, rfl⟩

/-- The entries are the values of the items, each under the name of its item. -/
theorem mem_ofList_iff {β : Type} {bindings : List (String × α)} {ofName? : String → Option β}
    {value : β → α} (hfind : ∀ key, find? (ofList bindings) key = (ofName? key).map value)
    {key : String} {found : α} :
    (key, found) ∈ ofList bindings ↔ ∃ item, ofName? key = some item ∧ value item = found := by
  rw [(increasing_ofList bindings).mem_iff, hfind, Option.map_eq_some_iff]

/-- Entries in order whose keys are names, with one entry for every name, are determined by them. -/
theorem Increasing.eq_of_names {β : Type} {entries others : List (String × α)}
    (h : Increasing entries) (h' : Increasing others) {ofName? : String → Option β} {value : β → α}
    (hothers : ∀ key, find? others key = (ofName? key).map value)
    (hkeys : ∀ entry ∈ entries, (ofName? entry.1).isSome)
    (hvalues : ∀ key item, ofName? key = some item → find? entries key = some (value item)) :
    entries = others := by
  apply h.eq_of_find?_eq h'
  intro key
  rw [hothers]
  cases hname : ofName? key with
  | some item => exact hvalues key item hname
  | none =>
    rw [Option.map_none, Option.eq_none_iff_forall_ne_some]
    intro found hfound
    have hkey := hkeys _ (mem_of_find? hfound)
    rw [hname] at hkey
    cases hkey

end AccessControl.Keyed
