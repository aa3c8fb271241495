/-
# What is read is canonical

What every part of a series keeps, the whole series keeps, and so does a record that is read
field by field.  So a value that is read from a text is canonical: whatever the order of the
members in the text, and however often a key is repeated, its objects hold one value per key
in key order.
-/
import AccessControl.Json.Record
import AccessControl.Proofs.Steps

namespace AccessControl.Json

/-! ## Series -/

section Series

variable {σ : Type} {step : σ → List Char → Reading (σ × List Char)} {P : σ → Prop}
  {close : Char} {state final : σ} {cs rest : List Char}

/-- A state that no part takes out of a property is in it after all of them. -/
theorem readParts_induction
    (hstep : ∀ {state next cs rest}, P state → step state cs = .ok (next, rest) → P next)
    {limit : Nat} (hstate : P state) (h : readParts step close limit state cs = .ok (final, rest)) :
    P final := by
  induction limit generalizing state cs with
  | zero => cases h
  | succ limit ih =>
    obtain ⟨⟨next, others⟩, hpart, h⟩ := bind_eq_ok_iff.1 h
    have hnext : P next := hstep hstate hpart
    dsimp only at h
    split at h
    · exact ih hnext h
    · split at h
      · cases h
        exact hnext
      · cases h
    · cases h

theorem readSeries_induction
    (hstep : ∀ {state next cs rest}, P state → step state cs = .ok (next, rest) → P next)
    (hstate : P state) (h : readSeries step close state cs = .ok (final, rest)) : P final := by
  unfold readSeries at h
  split at h
  · split at h
    · cases h
      exact hstate
    · exact readParts_induction hstep hstate h
  · cases h

end Series

/-! ## Values -/

/-- A text is read when something is read at its start and nothing but blanks follow. -/
theorem Reader.readAll_eq_ok_iff {α : Type} {reader : Reader α} {text : String} {a : α} :
    reader.readAll text = .ok a ↔
      ∃ rest, reader nestingLimit text.toList = .ok (a, rest) ∧ skipSpace rest = [] := by
  unfold readAll
  rw [bind_eq_ok_iff]
  constructor
  · rintro ⟨⟨read, rest⟩, hread, h⟩
    dsimp only at h
    split at h
    case isTrue hrest =>
      cases h
      exact ⟨rest, hread, hrest⟩
    case isFalse => cases h
  · rintro ⟨rest, hread, hrest⟩
    exact ⟨(a, rest), hread, if_pos hrest⟩

namespace Value

variable {value : Value} {cs rest : List Char} {nesting : Nat} {text : String}

theorem canonical_of_readScalar (h : readScalar cs = .ok (value, rest)) : value.Canonical := by
  unfold readScalar at h
  split at h
  all_goals
    obtain ⟨_, -, h⟩ := bind_eq_ok_iff.1 h
    cases h
    trivial

/-- What is read is canonical, as its members are put in their places one by one. -/
theorem canonical_of_readValue (h : readValue nesting cs = .ok (value, rest)) :
    value.Canonical := by
  induction nesting generalizing value cs rest with
  | zero => exact canonical_of_readScalar h
  | succ nesting ih =>
    unfold readValue at h
    split at h
    · obtain ⟨⟨items, others⟩, hitems, h⟩ := bind_eq_ok_iff.1 h
      cases h
      have hall : ∀ item ∈ items, item.Canonical := by
        refine readSeries_induction (P := fun items => ∀ item ∈ items, item.Canonical)
          (fun hstate hstep => ?_) (List.forall_mem_nil _) hitems
        obtain ⟨⟨item, _⟩, hitem, hstep⟩ := bind_eq_ok_iff.1 hstep
        cases hstep
        exact List.forall_mem_cons.2 ⟨ih hitem, hstate⟩
      exact itemsCanonical_iff.2 fun item hmem => hall item (List.mem_reverse.1 hmem)
    · obtain ⟨⟨members, others⟩, hmembers, h⟩ := bind_eq_ok_iff.1 h
      cases h
      refine readSeries_induction (P := fun members => (object members).Canonical)
        (fun hstate hstep => ?_) ⟨List.Pairwise.nil, trivial⟩ hmembers
      obtain ⟨⟨key, _⟩, -, hstep⟩ := bind_eq_ok_iff.1 hstep
      obtain ⟨_, -, hstep⟩ := bind_eq_ok_iff.1 hstep
      obtain ⟨⟨value, _⟩, hvalue, hstep⟩ := bind_eq_ok_iff.1 hstep
      cases hstep
      exact hstate.insert key (ih hvalue)
    · exact canonical_of_readScalar h

/-- **A value that a text denotes is canonical.** -/
theorem canonical_of_ofText (h : ofText text = .ok value) : value.Canonical := by
  obtain ⟨rest, hread, -⟩ := Reader.readAll_eq_ok_iff.1 h
  exact canonical_of_readValue hread

end Value

/-! ## Records -/

section Records

variable {α β δ : Type} {P : δ → Prop} {record : Record δ α} {draft next : δ} {nesting : Nat}
  {cs rest : List Char}

/-- Reading the field takes no draft out of a property. -/
structure Field.Keeps (P : δ → Prop) (field : Field δ) : Prop where
  keeps : ∀ {draft next nesting cs rest}, P draft →
    field.read draft nesting cs = .ok (next, rest) → P next

section

variable {get : δ → Option β} {set : δ → β → δ} {reader : Reader β}

theorem Field.keeps_required (name : String)
    (hset : ∀ {draft value nesting cs rest}, P draft → reader nesting cs = .ok (value, rest) →
      P (set draft value)) : (Field.required name get set reader).Keeps P := by
  constructor
  intro draft next nesting cs rest hdraft h
  obtain ⟨⟨value, _⟩, hvalue, h⟩ := bind_eq_ok_iff.1 h
  cases h
  exact hset hdraft hvalue

theorem Field.keeps_trailing (name : String)
    (hset : ∀ {draft value nesting cs rest}, P draft → reader nesting cs = .ok (value, rest) →
      P (set draft value)) : (Field.trailing name get set reader).Keeps P := by
  have hrequired : (Field.required name get set reader).Keeps P := Field.keeps_required name hset
  exact ⟨hrequired.keeps⟩

end

namespace Record

/-- The fields of an array are read into the draft one after the other. -/
theorem readItems_induction {fields : List (Field δ)}
    (hfields : ∀ field ∈ fields, field.Keeps P) {index : Nat} (hdraft : P draft)
    (h : record.readItems nesting fields index draft cs = .ok (next, rest)) : P next := by
  induction fields generalizing index draft cs with
  | nil =>
    unfold readItems at h
    split at h
    · cases h
      exact hdraft
    · cases h
  | cons field fields ih =>
    obtain ⟨hfield, hrest⟩ := List.forall_mem_cons.1 hfields
    unfold readItems at h
    split at h
    · cases h
    · split at h
      · -- the array ends here, which only some fields allow
        split at h
        · exact ih hrest hdraft h
        · cases h
      · -- the first item stands behind the bracket, a further one behind a comma
        split at h
        · obtain ⟨⟨read, _⟩, hread, h⟩ := bind_eq_ok_iff.1 h
          exact ih hrest (hfield.keeps hdraft hread) h
        · split at h
          · obtain ⟨⟨read, _⟩, hread, h⟩ := bind_eq_ok_iff.1 h
            exact ih hrest (hfield.keeps hdraft hread) h
          · cases h

variable (hfields : ∀ field ∈ record.fields, field.Keeps P)
include hfields

/-- Unknown members do not change the draft, the others are read into it. -/
theorem readMember_induction (hdraft : P draft)
    (h : record.readMember nesting draft cs = .ok (next, rest)) : P next := by
  obtain ⟨⟨key, _⟩, -, h⟩ := bind_eq_ok_iff.1 h
  dsimp only at h
  split at h
  case h_1 field hfield =>
    split at h
    · cases h
    · obtain ⟨_, -, h⟩ := bind_eq_ok_iff.1 h
      exact (hfields field (List.mem_of_find?_eq_some hfield)).keeps hdraft h
  case h_2 =>
    split at h
    · cases h
    · obtain ⟨_, -, h⟩ := bind_eq_ok_iff.1 h
      obtain ⟨_, -, h⟩ := bind_eq_ok_iff.1 h
      cases h
      exact hdraft

/-- A record comes of a draft that has every property that its fields keep. -/
theorem exists_draft_of_reader {a : α} (hblank : P record.blank)
    (h : record.reader nesting cs = .ok (a, rest)) :
    ∃ draft, P draft ∧ record.finish draft = .ok a := by
  unfold reader at h
  split at h
  · cases h
  · cases h
  · obtain ⟨⟨draft, _⟩, hdraft, h⟩ := bind_eq_ok_iff.1 h
    obtain ⟨_, hfinish, h⟩ := bind_eq_ok_iff.1 h
    cases h
    exact ⟨draft, readSeries_induction (readMember_induction hfields) hblank hdraft, hfinish⟩
  · obtain ⟨⟨draft, _⟩, hdraft, h⟩ := bind_eq_ok_iff.1 h
    obtain ⟨_, hfinish, h⟩ := bind_eq_ok_iff.1 h
    cases h
    exact ⟨draft, readItems_induction hfields hblank hdraft, hfinish⟩
  · cases h

theorem exists_draft_of_ofText {text : String} {a : α} (hblank : P record.blank)
    (h : record.ofText text = .ok a) : ∃ draft, P draft ∧ record.finish draft = .ok a := by
  obtain ⟨rest, hread, -⟩ := Reader.readAll_eq_ok_iff.1 h
  exact exists_draft_of_reader hfields hblank hread

end Record

end Records

end AccessControl.Json
