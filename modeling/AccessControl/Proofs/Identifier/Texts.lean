/-
# Identifiers and their texts

The text of an identifier denotes it (`ofText?_text`), and it is the canonical one among all
texts that do: digits in lower case and in groups.  Two texts that are read denote the same
identifier when their digits differ by nothing but case.
-/
import AccessControl.Proofs.Identifier.Forms
import AccessControl.Proofs.Steps

namespace AccessControl

namespace Identifier

variable {id : Identifier} {cs digits others : List Char}

/-! ## Spellings -/

/-- Every spelling denotes the identifier that is written with its digits. -/
theorem Spells.exists_id (h : Spells digits cs) :
    ∃ id, ofChars? cs = some id ∧ digits.map Char.toLower = id.digits := by
  obtain ⟨id, hdigits⟩ := exists_map_toLower_eq_iff.2 ⟨h.length, h.hex⟩
  exact ⟨id, ofChars?_of_inForm h.form hdigits, hdigits⟩

theorem exists_ofChars?_iff : (∃ id, ofChars? cs = some id) ↔ ∃ digits, Spells digits cs := by
  constructor
  · rintro ⟨id, h⟩
    obtain ⟨digits, hform, hdigits⟩ := ofChars?_eq_some_iff.1 h
    obtain ⟨hlength, hhex⟩ := exists_map_toLower_eq_iff.1 ⟨id, hdigits⟩
    exact ⟨digits, hlength, hhex, hform⟩
  · rintro ⟨digits, h⟩
    obtain ⟨id, hid, -⟩ := h.exists_id
    exact ⟨id, hid⟩

theorem map_toLower_digits (id : Identifier) : id.digits.map Char.toLower = id.digits :=
  Digits.map_toLower_eq fun _ hc => Digits.isLowerHex_of_mem_fixed hc

theorem digits_injective : Function.Injective Identifier.digits :=
  injective_of_readsBack Identifier.digits ofDigits? fun id =>
    ofDigits?_eq_some_iff.2 id.map_toLower_digits

/-- Two spellings denote the same when their digits agree, case aside. -/
theorem Spells.ofChars?_eq_iff {text : List Char} (h : Spells digits cs)
    (h' : Spells others text) :
    ofChars? cs = ofChars? text ↔ digits.map Char.toLower = others.map Char.toLower := by
  obtain ⟨id, hid, hdigits⟩ := h.exists_id
  obtain ⟨other, hother, hothers⟩ := h'.exists_id
  rw [hid, hother, hdigits, hothers, Option.some.injEq, digits_injective.eq_iff]

/-! ## Canonical texts -/

/-- A text is canonical: hexadecimal digits in lower case and in hyphenated groups. -/
def IsCanonical (text : List Char) : Prop :=
  ∃ digits, (∀ c ∈ digits, Digits.IsLowerHex c) ∧ Grouped [8, 4, 4, 4, 12] digits text

theorem grouped_chars (id : Identifier) : Grouped [8, 4, 4, 4, 12] id.digits id.chars :=
  grouped_hyphenate (List.cons_ne_nil _ _) id.length_digits

/-- The characters of an identifier denote it. -/
theorem ofChars?_chars (id : Identifier) : ofChars? id.chars = some id :=
  ofChars?_of_inForm (.hyphenated id.grouped_chars) id.map_toLower_digits

/-- An identifier has one canonical text, the one that is written. -/
theorem isCanonical_and_ofChars?_iff : IsCanonical cs ∧ ofChars? cs = some id ↔ cs = id.chars := by
  constructor
  · rintro ⟨⟨digits, hlower, hcs⟩, hread⟩
    have hspells : Spells digits cs :=
      ⟨hcs.length_eq, fun c hc => (hlower c hc).isHex, .hyphenated hcs⟩
    obtain ⟨other, hother, hdigits⟩ := hspells.exists_id
    rw [hread, Option.some.injEq] at hother
    rw [Digits.map_toLower_eq hlower, ← hother] at hdigits
    rw [← hcs.hyphenate_eq, hdigits]
    rfl
  · intro h
    rw [h]
    exact ⟨⟨id.digits, fun c hc => Digits.isLowerHex_of_mem_fixed hc, id.grouped_chars⟩,
      id.ofChars?_chars⟩

/-- **An identifier survives its text.** -/
theorem ofText?_text (id : Identifier) : ofText? id.text = some id := by
  rw [ofText?, text, String.toList_ofList]
  exact id.ofChars?_chars

end Identifier

theorem RoleId.ofText?_text (roleId : RoleId) : RoleId.ofText? roleId.text = some roleId := by
  rw [RoleId.ofText?, RoleId.text, Identifier.ofText?_text]
  rfl

theorem PrincipalId.ofText?_text (principalId : PrincipalId) :
    PrincipalId.ofText? principalId.text = some principalId := by
  rw [PrincipalId.ofText?, PrincipalId.text, Identifier.ofText?_text]
  rfl

end AccessControl
