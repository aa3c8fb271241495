/-
# The order of identifiers

An identifier is a number, sixteen bytes, thirty-two digits and a text.  All four stand in
one order: the first place in which two numbers differ decides, as long as both have the same
number of places, and so does the first character of their texts, as the hyphens stand in the
same positions.  So a list of identifiers is in order when the list of their texts is.
-/
import AccessControl.Error
import AccessControl.Sorted
import AccessControl.Proofs.Identifier.Texts
import AccessControl.Proofs.Text.Bytes

namespace AccessControl

/-! ## Places -/

section Lists

variable {α : Type} [LT α] {xs ys zs ws : List α}

/-- Lists that start with equally many items are compared by these first. -/
theorem append_lt_append_iff (h : xs.length = ys.length) :
    xs ++ zs < ys ++ ws ↔ xs < ys ∨ xs = ys ∧ zs < ws := by
  induction xs generalizing ys with
  | nil =>
    cases ys with
    | nil => simp
    | cons y ys => cases h
  | cons x xs ih =>
    cases ys with
    | nil => cases h
    | cons y ys =>
      rw [List.cons_append, List.cons_append, List.cons_lt_cons_iff, List.cons_lt_cons_iff,
        ih (Nat.succ.inj h), List.cons.injEq]
      constructor
      · rintro (hlt | ⟨rfl, hlt | ⟨rfl, hrest⟩⟩)
        · exact .inl (.inl hlt)
        · exact .inl (.inr ⟨rfl, hlt⟩)
        · exact .inr ⟨⟨rfl, rfl⟩, hrest⟩
      · rintro ((hlt | ⟨rfl, hlt⟩) | ⟨⟨rfl, rfl⟩, hrest⟩)
        · exact .inl hlt
        · exact .inr ⟨rfl, .inl hlt⟩
        · exact .inr ⟨rfl, .inr ⟨rfl, hrest⟩⟩

end Lists

namespace Digits

variable {α : Type} {symbol : Nat → α} {base width m n : Nat}

/-- The last `width` digits of a number, most significant first, each as a symbol. -/
def places (symbol : Nat → α) (base : Nat) : (width : Nat) → Nat → List α
  | 0, _ => []
  | width + 1, n => places symbol base width (n / base) ++ [symbol (n % base)]

theorem length_places (symbol : Nat → α) (base width n : Nat) :
    (places symbol base width n).length = width := by
  induction width generalizing n with
  | zero => rfl
  | succ width ih => rw [places, List.length_append, ih, List.length_singleton]

theorem fixed_eq_places (base width n : Nat) :
    fixed base width n = places Nat.digitChar base width n := by
  induction width generalizing n with
  | zero => rfl
  | succ width ih => rw [fixed, places, ih]

/-- Numbers with equally many digits are in the order of their digits. -/
theorem places_lt_places [LT α]
    (hsymbol : ∀ i j, i < j → j < base → symbol i < symbol j) (hmn : m < n)
    (hn : n < Nat.pow base width) : places symbol base width m < places symbol base width n := by
  induction width generalizing m n with
  | zero =>
    have hone : n < 1 := hn
    omega
  | succ width ih =>
    have hlengths : (places symbol base width (m / base)).length
        = (places symbol base width (n / base)).length := by
      rw [length_places, length_places]
    have hbase : 0 < base := by
      refine Nat.pos_of_ne_zero fun hzero => ?_
      subst hzero
      exact Nat.not_lt_zero n hn
    have hfront : n / base < Nat.pow base width := Nat.div_lt_of_lt_mul (Nat.mul_comm _ _ ▸ hn)
    rw [places, places, append_lt_append_iff hlengths]
    rcases Nat.lt_or_eq_of_le (Nat.div_le_div_right (c := base) hmn.le) with hlt | heq
    · exact .inl (ih hlt hfront)
    · -- the last places decide
      have hlast : m % base < n % base := by
        have hm := Nat.div_add_mod m base
        have hn := Nat.div_add_mod n base
        rw [heq] at hm
        omega
      rw [heq]
      exact .inr ⟨rfl, List.Lex.rel (hsymbol _ _ hlast (Nat.mod_lt n hbase))⟩

end Digits

namespace Identifier

variable {a b : Identifier}

/-- The sixteen bytes of an identifier, most significant first. -/
def octets (id : Identifier) : List UInt8 := Digits.places UInt8.ofNat 256 16 id.value.toNat

theorem octets_lt_octets (h : a < b) : a.octets < b.octets := by
  refine Digits.places_lt_places (fun i j hij hj => ?_) h b.value.isLt
  rw [UInt8.lt_iff_toNat_lt, UInt8.toNat_ofNat', UInt8.toNat_ofNat', Nat.mod_eq_of_lt hj,
    Nat.mod_eq_of_lt (Nat.lt_trans hij hj)]
  exact hij

theorem digits_lt_digits (h : a < b) : a.digits < b.digits := by
  have key : ∀ i j : Fin 16, i < j → Nat.digitChar i.val < Nat.digitChar j.val := by decide
  rw [digits, digits, Digits.fixed_eq_places, Digits.fixed_eq_places]
  refine Digits.places_lt_places (fun i j hij hj => ?_) h b.value.isLt
  exact key ⟨i, Nat.lt_trans hij hj⟩ ⟨j, hj⟩ hij

/-- Hyphens in the same positions decide nothing. -/
theorem hyphenate_lt_hyphenate {sizes : List Nat} {cs ds : List Char}
    (hcs : cs.length = sizes.sum) (hds : ds.length = sizes.sum) (h : cs < ds) :
    hyphenate sizes cs < hyphenate sizes ds := by
  induction sizes generalizing cs ds with
  | nil =>
    rw [List.length_eq_zero_iff.1 hcs, List.length_eq_zero_iff.1 hds] at h
    exact absurd h (List.lt_irrefl _)
  | cons size sizes ih =>
    cases sizes with
    | nil =>
      rw [hyphenate, hyphenate, List.take_of_length_le (Nat.le_of_eq (by simpa using hcs)),
        List.take_of_length_le (Nat.le_of_eq (by simpa using hds))]
      exact h
    | cons next sizes =>
      rw [List.sum_cons] at hcs hds
      have hfronts : (cs.take size).length = (ds.take size).length := by
        rw [List.length_take_of_le (by omega), List.length_take_of_le (by omega)]
      rw [← List.take_append_drop size cs, ← List.take_append_drop size ds,
        append_lt_append_iff hfronts] at h
      rw [hyphenate_cons_cons, hyphenate_cons_cons, append_lt_append_iff hfronts]
      rcases h with hlt | ⟨heq, hlt⟩
      · exact .inl hlt
      · refine .inr ⟨heq, List.cons_lt_cons_iff.2 (.inr ⟨rfl, ih ?_ ?_ hlt⟩)⟩
        · rw [List.length_drop]
          omega
        · rw [List.length_drop]
          omega

theorem bytes_text_lt (h : a < b) : Text.bytes a.text < Text.bytes b.text := by
  rw [Text.bytes_lt_bytes_iff, String.lt_iff, text, text, String.toList_ofList,
    String.toList_ofList]
  exact hyphenate_lt_hyphenate a.length_digits b.length_digits (digits_lt_digits h)

/-- What follows the order of identifiers has the same order. -/
theorem lt_iff_of_lt_imp (f : Identifier → List UInt8) (hf : ∀ a b, a < b → f a < f b) :
    a < b ↔ f a < f b := by
  refine ⟨hf a b, fun h => ?_⟩
  rcases Nat.lt_trichotomy a.value.toNat b.value.toNat with hlt | heq | hgt
  · exact hlt
  · have hsame : a = b := by rw [← ofNat_toNat a, heq, ofNat_toNat]
    exact absurd (hsame ▸ h) (List.lt_irrefl _)
  · exact absurd (hf b a hgt) (List.lt_asymm h)

theorem lt_iff_octets_lt : a < b ↔ a.octets < b.octets :=
  lt_iff_of_lt_imp octets fun _ _ => octets_lt_octets

theorem lt_iff_bytes_text_lt : a < b ↔ Text.bytes a.text < Text.bytes b.text :=
  lt_iff_of_lt_imp (fun id => Text.bytes id.text) fun _ _ => bytes_text_lt

end Identifier

/-! ## Texts of a type of identifiers -/

section Faithful

variable {α : Type} [LT α]

/-- What the texts of a type of identifiers are relied on for. -/
structure FaithfulTexts (identifier : α → Identifier) (text : α → String)
    (ofText? : String → Option α) : Prop where
  /-- Every identifier is read back from its text. -/
  readsBack : ∀ a, ofText? (text a) = some a
  /-- What is read are the spellings of thirty-two digits. -/
  reads : ∀ s : String, (∃ a, ofText? s = some a) ↔ ∃ digits, Identifier.Spells digits s.toList
  /-- The text of an identifier is canonical, and no other canonical text denotes it. -/
  canonical : ∀ (a : α) (s : String),
    Identifier.IsCanonical s.toList ∧ ofText? s = some a ↔ s = text a
  /-- Two spellings denote the same identifier when their digits agree, case aside. -/
  same : ∀ (s t : String) digits others, Identifier.Spells digits s.toList →
    Identifier.Spells others t.toList →
      (ofText? s = ofText? t ↔ digits.map Char.toLower = others.map Char.toLower)
  /-- Identifiers are in the order of their sixteen bytes, -/
  octets : ∀ a b, a < b ↔ (identifier a).octets < (identifier b).octets
  /-- which is the order of the bytes of their texts. -/
  order : ∀ a b, a < b ↔ Text.bytes (text a) < Text.bytes (text b)
  /-- So the texts of sorted identifiers are the sorted texts. -/
  sorts : ∀ (ids sorted : List α) (texts : List String),
    sorted.Perm ids → sorted.Pairwise (fun a b => ¬ b < a) →
      texts.Perm (ids.map text) → texts.Pairwise (fun s t => ¬ Text.bytes t < Text.bytes s) →
        texts = sorted.map text

variable {identifier : α → Identifier} {ofIdentifier : Identifier → α}

/-- Identifiers of a type of their own have faithful texts when they are nothing but
identifiers. -/
theorem faithfulTexts_of_inverse (hleft : ∀ a, ofIdentifier (identifier a) = a)
    (hright : ∀ id, identifier (ofIdentifier id) = id)
    (hlt : ∀ a b, a < b ↔ identifier a < identifier b) :
    FaithfulTexts identifier (fun a => (identifier a).text)
      (fun s => (Identifier.ofText? s).map ofIdentifier) := by
  have hread : ∀ s a, (Identifier.ofText? s).map ofIdentifier = some a ↔
      Identifier.ofText? s = some (identifier a) := by
    intro s a
    rw [Option.map_eq_some_iff]
    constructor
    · rintro ⟨id, hid, rfl⟩
      rw [hright]
      exact hid
    · intro h
      exact ⟨identifier a, h, hleft a⟩
  have hback : ∀ a, (Identifier.ofText? (identifier a).text).map ofIdentifier = some a :=
    fun a => (hread _ a).2 (Identifier.ofText?_text _)
  have horder : ∀ a b, a < b ↔
      Text.bytes (identifier a).text < Text.bytes (identifier b).text :=
    fun a b => (hlt a b).trans Identifier.lt_iff_bytes_text_lt
  refine
    { readsBack := hback
      reads := fun s => ?_
      canonical := fun a s => ?_
      same := fun s t digits others hs ht => ?_
      octets := fun a b => (hlt a b).trans Identifier.lt_iff_octets_lt
      order := horder
      sorts := fun ids sorted texts hids hsorted htexts hordered => ?_ }
  · rw [← Identifier.exists_ofChars?_iff]
    constructor
    · rintro ⟨a, ha⟩
      exact ⟨identifier a, (hread s a).1 ha⟩
    · rintro ⟨id, hid⟩
      exact ⟨ofIdentifier id, (hread s _).2 ((hright id).symm ▸ hid)⟩
  · have htext : s = (identifier a).text ↔ s.toList = (identifier a).chars := by
      rw [Identifier.text, ← String.toList_inj, String.toList_ofList]
    rw [hread, htext]
    exact Identifier.isCanonical_and_ofChars?_iff
  · have hinjective : Function.Injective ofIdentifier := Function.LeftInverse.injective hright
    rw [(Option.map_injective hinjective).eq_iff]
    exact hs.ofChars?_eq_iff ht
  · have hsorted' : (sorted.map fun a => (identifier a).text).Pairwise
        fun s t => ¬ Text.bytes t < Text.bytes s := by
      refine List.pairwise_map.2 (hsorted.imp fun hab => ?_)
      rwa [← horder]
    -- two sorted lists of the same texts are the same list
    refine List.Perm.eq_of_pairwise (fun s t _ _ hst hts => ?_) hordered hsorted'
      (htexts.trans (hids.map _).symm)
    rw [Text.bytes_lt_bytes_iff, String.not_lt] at hst hts
    exact String.le_antisymm hst hts

namespace FaithfulTexts

variable {text : α → String} {ofText? : String → Option α}
  (h : FaithfulTexts identifier text ofText?)
include h

/-- A text is refused when it spells no thirty-two digits. -/
theorem eq_none_iff {s : String} :
    ofText? s = none ↔ ¬ ∃ digits, Identifier.Spells digits s.toList := by
  rw [← h.reads, Option.eq_none_iff_forall_ne_some, not_exists]

variable [DecidableEq α] [DecidableLT α]

/-- Sorted identifiers have strictly increasing texts. -/
theorem pairwise_sortDistinct (ids : List α) :
    (sortDistinct ids).Pairwise fun a b => text a < text b := by
  have hlt : ∀ a b, a < b ↔ text a < text b := fun a b =>
    (h.order a b).trans Text.bytes_lt_bytes_iff
  have hinjective : Function.Injective text := injective_of_readsBack text ofText? h.readsBack
  refine (AccessControl.pairwise_sortDistinct ?_ ?_ ids).imp fun {a b} => (hlt a b).1
  · intro a b c hab hbc
    exact (hlt a c).2 (String.lt_trans ((hlt a b).1 hab) ((hlt b c).1 hbc))
  · intro a b hne hnlt
    rw [hlt] at hnlt ⊢
    exact Std.lt_of_le_of_ne (String.not_lt.1 hnlt) fun heq => hne (hinjective heq.symm)

/-- The texts of some identifiers, each once and in the order of their bytes, are those of the
sorted identifiers. -/
theorem eq_map_sortDistinct_iff {ids : List α} {texts : List String} :
    texts = (sortDistinct ids).map text ↔
      texts.Pairwise (fun s t => Text.bytes s < Text.bytes t) ∧
        ∀ s, s ∈ texts ↔ ∃ a ∈ ids, text a = s := by
  have hsorted : ((sortDistinct ids).map text).Pairwise (· < ·) :=
    List.pairwise_map.2 (h.pairwise_sortDistinct ids)
  have hmem : ∀ s, s ∈ (sortDistinct ids).map text ↔ ∃ a ∈ ids, text a = s := by
    intro s
    simp only [List.mem_map, mem_sortDistinct]
  simp only [Text.bytes_lt_bytes_iff]
  constructor
  · rintro rfl
    exact ⟨hsorted, hmem⟩
  · rintro ⟨htexts, hsame⟩
    have hperm : texts.Perm ((sortDistinct ids).map text) :=
      (List.perm_ext_iff_of_nodup (htexts.imp String.ne_of_lt) (hsorted.imp String.ne_of_lt)).2
        fun s => (hsame s).trans (hmem s).symm
    exact hperm.eq_of_pairwise (fun s t _ _ hst hts => absurd hst (String.lt_asymm hts))
      htexts hsorted

end FaithfulTexts

end Faithful

/-- Identifiers of roles have faithful texts. -/
theorem RoleId.faithfulTexts : FaithfulTexts RoleId.id RoleId.text RoleId.ofText? :=
  faithfulTexts_of_inverse (fun _ => rfl) (fun _ => rfl) fun _ _ => Iff.rfl

/-- Identifiers of principals have faithful texts. -/
theorem PrincipalId.faithfulTexts :
    FaithfulTexts PrincipalId.id PrincipalId.text PrincipalId.ofText? :=
  faithfulTexts_of_inverse (fun _ => rfl) (fun _ => rfl) fun _ _ => Iff.rfl

/-- A role identifier is read back from its text. -/
theorem RoleId.ofText_text (roleId : RoleId) : RoleId.ofText roleId.text = .ok roleId :=
  ofText_eq_ok_iff.2 (faithfulTexts.readsBack roleId)

/-- A principal identifier is read back from its text. -/
theorem PrincipalId.ofText_text (principalId : PrincipalId) :
    PrincipalId.ofText principalId.text = .ok principalId :=
  ofText_eq_ok_iff.2 (faithfulTexts.readsBack principalId)

/-- What is refused as the identifier of a role spells none, and the error says of what. -/
theorem RoleId.ofText_eq_error_iff_not_spells {s : String} {error : DomainError} :
    RoleId.ofText s = .error error ↔
      (¬ ∃ digits, Identifier.Spells digits s.toList) ∧ error = .invalidId "RoleId" := by
  rw [ofText_eq_error_iff, faithfulTexts.eq_none_iff]

/-- What is refused as the identifier of a principal spells none, and the error says of what. -/
theorem PrincipalId.ofText_eq_error_iff_not_spells {s : String} {error : DomainError} :
    PrincipalId.ofText s = .error error ↔
      (¬ ∃ digits, Identifier.Spells digits s.toList) ∧ error = .invalidId "PrincipalId" := by
  rw [ofText_eq_error_iff, faithfulTexts.eq_none_iff]

/--
**Identifiers and their texts stand for each other.**  For the identifiers of roles and for
those of principals: an identifier is read back from its text, the texts that are read are
thirty-two hexadecimal digits in either case and in one of four forms, what is written is the
one canonical text, digits that differ by nothing but case denote the same identifier, and the
order of identifiers is that of their sixteen bytes and that of the bytes of their texts.
-/
theorem identifiers_faithful :
    FaithfulTexts RoleId.id RoleId.text RoleId.ofText? ∧
      FaithfulTexts PrincipalId.id PrincipalId.text PrincipalId.ofText? :=
  ⟨RoleId.faithfulTexts, PrincipalId.faithfulTexts⟩

end AccessControl
