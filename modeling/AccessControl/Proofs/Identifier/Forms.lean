/-
# Forms of identifiers

Thirty-two hexadecimal digits denote an identifier, in either case of the letters and in one
of four forms: alone, in hyphenated groups, in such groups between braces, or with a scheme
in front of the groups.  Every text in one of these forms is read and no other text is
(`ofChars?_eq_some_iff`).  The hyphens stand between groups whose sizes are fixed, so the
groups are found again; and a text that starts with a hexadecimal digit has neither a brace
nor a scheme in front.
-/
import AccessControl.Identifier
import AccessControl.Proofs.Number.Hexadecimal
import Mathlib.Data.List.TakeDrop

namespace AccessControl

namespace Identifier

/-! ## Groups -/

/-- Characters in groups of the given sizes, with a hyphen between one group and the next. -/
def Grouped (sizes : List Nat) (digits text : List Char) : Prop :=
  ∃ parts : List (List Char),
    parts.map List.length = sizes ∧ parts.flatten = digits ∧ ['-'].intercalate parts = text

theorem hyphenate_cons_cons (size next : Nat) (sizes : List Nat) (cs : List Char) :
    hyphenate (size :: next :: sizes) cs
      = cs.take size ++ '-' :: hyphenate (next :: sizes) (cs.drop size) := rfl

section Groups

variable {sizes : List Nat} {size next : Nat} {digits cs : List Char}

theorem grouped_singleton_iff : Grouped [size] digits cs ↔ digits.length = size ∧ digits = cs := by
  constructor
  · rintro ⟨parts, hsizes, rfl, rfl⟩
    obtain ⟨part, rfl, rfl⟩ := List.map_eq_singleton_iff.1 hsizes
    rw [List.flatten_singleton, List.intercalate_singleton]
    exact ⟨rfl, rfl⟩
  · rintro ⟨rfl, rfl⟩
    exact ⟨[digits], rfl, List.flatten_singleton, List.intercalate_singleton⟩

theorem grouped_cons_cons_iff :
    Grouped (size :: next :: sizes) digits cs ↔
      ∃ front back rest, front.length = size ∧ digits = front ++ back ∧
        cs = front ++ '-' :: rest ∧ Grouped (next :: sizes) back rest := by
  constructor
  · rintro ⟨parts, hsizes, rfl, rfl⟩
    obtain ⟨front, parts, rfl, rfl, hparts⟩ := List.map_eq_cons_iff.1 hsizes
    obtain ⟨second, others, rfl, -, -⟩ := List.map_eq_cons_iff.1 hparts
    refine ⟨front, (second :: others).flatten, ['-'].intercalate (second :: others), rfl, rfl, ?_,
      second :: others, hparts, rfl, rfl⟩
    rw [List.intercalate_cons_cons, List.append_assoc, List.singleton_append]
  · rintro ⟨front, back, rest, rfl, rfl, rfl, parts, hsizes, rfl, rfl⟩
    obtain ⟨second, others, rfl, -, -⟩ := List.map_eq_cons_iff.1 hsizes
    refine ⟨front :: second :: others, by rw [List.map_cons, hsizes], rfl, ?_⟩
    rw [List.intercalate_cons_cons, List.append_assoc, List.singleton_append]

/-- The groups of a text are found when it has them. -/
theorem ungroup?_eq_some_iff (hsome : sizes ≠ []) :
    ungroup? sizes cs = some digits ↔ Grouped sizes digits cs := by
  induction sizes generalizing cs digits with
  | nil => exact absurd rfl hsome
  | cons size sizes ih =>
    cases sizes with
    | nil =>
      rw [ungroup?, grouped_singleton_iff]
      constructor
      · intro h
        split at h
        · rename_i hsize
          cases h
          exact ⟨hsize, rfl⟩
        · cases h
      · rintro ⟨hsize, rfl⟩
        rw [if_pos hsize]
    | cons next sizes =>
      rw [grouped_cons_cons_iff, ungroup?]
      · constructor
        · intro h
          split at h
          · rename_i rest hdrop
            obtain ⟨back, hback, rfl⟩ := Option.map_eq_some_iff.1 h
            have hlength : (cs.take size).length = size := by
              have hpositive := congrArg List.length hdrop
              rw [List.length_drop, List.length_cons] at hpositive
              exact List.length_take_of_le (by omega)
            refine ⟨cs.take size, back, rest, hlength, rfl, ?_,
              (ih (List.cons_ne_nil _ _)).1 hback⟩
            rw [← hdrop, List.take_append_drop]
          · cases h
        · rintro ⟨front, back, rest, rfl, rfl, rfl, hrest⟩
          have hback := (ih (List.cons_ne_nil _ _)).2 hrest
          simp only [List.drop_left, List.take_left, hback, Option.map_some]
      · exact List.cons_ne_nil _ _

theorem Grouped.length_eq (h : Grouped sizes digits cs) : digits.length = sizes.sum := by
  obtain ⟨parts, rfl, rfl, -⟩ := h
  exact List.length_flatten

/-- Characters are grouped when they are hyphenated. -/
theorem grouped_hyphenate (hsome : sizes ≠ []) (hlength : digits.length = sizes.sum) :
    Grouped sizes digits (hyphenate sizes digits) := by
  induction sizes generalizing digits with
  | nil => exact absurd rfl hsome
  | cons size sizes ih =>
    cases sizes with
    | nil =>
      have hsize : digits.length = size := by simpa using hlength
      exact grouped_singleton_iff.2 ⟨hsize, (List.take_of_length_le (Nat.le_of_eq hsize)).symm⟩
    | cons next sizes =>
      rw [List.sum_cons] at hlength
      have hrest : (digits.drop size).length = (next :: sizes).sum := by
        rw [List.length_drop]
        omega
      exact grouped_cons_cons_iff.2 ⟨digits.take size, digits.drop size, _,
        List.length_take_of_le (by omega), (List.take_append_drop size digits).symm,
        hyphenate_cons_cons size next sizes digits, ih (List.cons_ne_nil _ _) hrest⟩

/-- A grouped text is made of its digits. -/
theorem Grouped.hyphenate_eq (h : Grouped sizes digits cs) : hyphenate sizes digits = cs := by
  induction sizes generalizing digits cs with
  | nil =>
    obtain ⟨parts, hsizes, -, rfl⟩ := h
    rw [List.map_eq_nil_iff.1 hsizes]
    rfl
  | cons size sizes ih =>
    cases sizes with
    | nil =>
      obtain ⟨rfl, rfl⟩ := grouped_singleton_iff.1 h
      exact List.take_length
    | cons next sizes =>
      obtain ⟨front, back, rest, rfl, rfl, rfl, hrest⟩ := grouped_cons_cons_iff.1 h
      rw [hyphenate_cons_cons, List.take_left, List.drop_left, ih hrest]

end Groups

/-! ## Forms -/

/-- The forms in which digits stand in a text. -/
inductive InForm (digits : List Char) : List Char → Prop
  | plain : InForm digits digits
  | hyphenated {cs : List Char} : Grouped [8, 4, 4, 4, 12] digits cs → InForm digits cs
  | braced {cs : List Char} :
      Grouped [8, 4, 4, 4, 12] digits cs → InForm digits ('\x7b' :: cs ++ ['\x7d'])
  | named {front cs : List Char} :
      front.map Char.toLower = "urn:uuid:".toList → Grouped [8, 4, 4, 4, 12] digits cs →
        InForm digits (front ++ cs)

/-- A text is a spelling of thirty-two hexadecimal digits. -/
structure Spells (digits text : List Char) : Prop where
  length : digits.length = 32
  hex : ∀ c ∈ digits, Digits.IsHex c
  form : InForm digits text

section Reading

variable {id : Identifier} {cs digits text : List Char}

theorem toNat_lt (id : Identifier) : id.value.toNat < Nat.pow 16 32 := id.value.isLt

theorem toNat_ofNat {n : Nat} (h : n < Nat.pow 16 32) : (ofNat n).value.toNat = n := by
  rw [ofNat, BitVec.toNat_ofNat]
  exact Nat.mod_eq_of_lt h

theorem ofNat_toNat (id : Identifier) : ofNat id.value.toNat = id := by
  rw [ofNat, BitVec.ofNat_toNat, BitVec.setWidth_eq]

theorem length_digits (id : Identifier) : id.digits.length = 32 := Digits.length_fixed 16 32 _

/-- Digits denote the identifier that is written with them, case aside. -/
theorem ofDigits?_eq_some_iff :
    ofDigits? digits = some id ↔ digits.map Char.toLower = id.digits := by
  constructor
  · intro h
    unfold ofDigits? at h
    split at h
    · rename_i hlength
      obtain ⟨n, hn, rfl⟩ := Option.map_eq_some_iff.1 h
      obtain ⟨hlt, hdigits⟩ := Digits.value?_sixteen_iff.1 hn
      rw [hlength] at hlt hdigits
      rw [hdigits, Identifier.digits, toNat_ofNat hlt]
    · cases h
  · intro h
    have hlength : digits.length = 32 := by
      rw [← List.length_map Char.toLower, h, id.length_digits]
    have hvalue : Digits.value? 16 digits = some id.value.toNat := by
      rw [Digits.value?_sixteen_iff, hlength]
      exact ⟨id.toNat_lt, h⟩
    rw [ofDigits?, if_pos hlength, hvalue, Option.map_some, ofNat_toNat]

theorem ofHyphenated?_eq_some_iff :
    ofHyphenated? cs = some id ↔
      ∃ digits, Grouped [8, 4, 4, 4, 12] digits cs ∧ digits.map Char.toLower = id.digits := by
  rw [ofHyphenated?, Option.bind_eq_some_iff]
  simp only [ungroup?_eq_some_iff (List.cons_ne_nil _ _), groups, ofDigits?_eq_some_iff]

/-- Thirty-two hexadecimal digits denote some identifier, and nothing else does. -/
theorem exists_map_toLower_eq_iff :
    (∃ id : Identifier, digits.map Char.toLower = id.digits) ↔
      digits.length = 32 ∧ ∀ c ∈ digits, Digits.IsHex c := by
  constructor
  · rintro ⟨id, h⟩
    refine ⟨by rw [← List.length_map Char.toLower, h, id.length_digits], fun c hc => ?_⟩
    exact Digits.isLowerHex_of_mem_fixed (h ▸ List.mem_map_of_mem hc : c.toLower ∈ id.digits)
  · rintro ⟨hlength, hhex⟩
    obtain ⟨n, hn, hfixed⟩ := Digits.exists_fixed_eq (List.forall_mem_map.2 hhex)
    rw [List.length_map, hlength] at hn hfixed
    refine ⟨ofNat n, ?_⟩
    rw [Identifier.digits, toNat_ofNat hn, hfixed]

/-! ## Reading each form -/

theorem length_of_grouped (hcs : Grouped [8, 4, 4, 4, 12] digits cs)
    (hlength : digits.length = 32) : cs.length = 36 := by
  rw [← hcs.hyphenate_eq]
  simp [hyphenate, hlength]

/-- A grouped text starts as its digits do. -/
theorem exists_cons_of_grouped (hcs : Grouped [8, 4, 4, 4, 12] digits cs)
    (hlength : digits.length = 32) : ∃ c rest, c ∈ digits ∧ cs = c :: rest := by
  cases digits with
  | nil => cases hlength
  | cons c digits =>
    refine ⟨c, cs.tail, List.mem_cons_self, ?_⟩
    rw [← hcs.hyphenate_eq]
    rfl

/-- A hexadecimal digit starts neither a brace nor a scheme. -/
theorem ne_of_isHex {c : Char} (h : Digits.IsHex c) : c ≠ '\x7b' ∧ c.toLower ≠ 'u' := by
  constructor
  · rintro rfl
    have hbrace : ¬ Digits.IsLowerHex '\x7b' := by decide
    exact hbrace h
  · intro hc
    have hletter : ¬ Digits.IsLowerHex 'u' := by decide
    exact hletter (hc ▸ h)

/-- A text that starts neither a brace nor a scheme is read as hyphenated groups. -/
theorem ofChars?_cons {c : Char} {rest : List Char} (hlength : (c :: rest).length ≠ 32)
    (hbrace : c ≠ '\x7b') (hscheme : c.toLower ≠ 'u') :
    ofChars? (c :: rest) = ofHyphenated? (c :: rest) := by
  have hbraced : ¬ (((c :: rest).head? = some '\x7b'
      && (c :: rest).getLast? = some '\x7d') = true) := by
    simp [hbrace]
  have hnamed : ((c :: rest).take scheme.length).map Char.toLower ≠ scheme := by
    intro h
    exact hscheme (List.cons.inj h).1
  rw [ofChars?, if_neg hlength, if_neg hbraced, if_neg hnamed]

/-- Digits in one of the forms are read as the identifier that is written with them. -/
theorem ofChars?_of_inForm (hform : InForm digits cs)
    (hdigits : digits.map Char.toLower = id.digits) : ofChars? cs = some id := by
  obtain ⟨hlength, hhex⟩ := exists_map_toLower_eq_iff.1 ⟨id, hdigits⟩
  -- the lengths 32, 36, 38 and 45 and the first characters tell the forms apart
  cases hform with
  | plain => rw [ofChars?, if_pos hlength, ofDigits?_eq_some_iff.2 hdigits]
  | hyphenated hcs =>
    have hread := ofHyphenated?_eq_some_iff.2 ⟨digits, hcs, hdigits⟩
    have hlong := length_of_grouped hcs hlength
    obtain ⟨c, rest, hc, rfl⟩ := exists_cons_of_grouped hcs hlength
    obtain ⟨hbrace, hscheme⟩ := ne_of_isHex (hhex c hc)
    rw [ofChars?_cons (by omega) hbrace hscheme, hread]
  | @braced cs hcs =>
    have hread := ofHyphenated?_eq_some_iff.2 ⟨digits, hcs, hdigits⟩
    have hlong := length_of_grouped hcs hlength
    have hinside : (('\x7b' :: cs ++ ['\x7d']).drop 1).dropLast = cs := List.dropLast_concat
    have hlast : ('\x7b' :: cs ++ ['\x7d']).getLast? = some '\x7d' := List.getLast?_concat
    rw [ofChars?, if_neg (by simp [hlong]), if_pos (by rw [hlast]; rfl), hinside, hread]
  | @named front cs hfront hcs =>
    have hread := ofHyphenated?_eq_some_iff.2 ⟨digits, hcs, hdigits⟩
    have hlong := length_of_grouped hcs hlength
    have hnine : front.length = scheme.length := by
      rw [← List.length_map Char.toLower, hfront]
      rfl
    have hbraced : ¬ (((front ++ cs).head? = some '\x7b'
        && (front ++ cs).getLast? = some '\x7d') = true) := by
      cases front with
      | nil => cases hnine
      | cons c front =>
        have hu : c.toLower = 'u' := (List.cons.inj hfront).1
        have hbrace : c ≠ '\x7b' := by
          rintro rfl
          exact absurd hu (by decide)
        simp [hbrace]
    rw [ofChars?, if_neg (by simp [hlong, hnine, scheme]), if_neg hbraced,
      if_pos (by rw [← hnine, List.take_left]; exact hfront), ← hnine, List.drop_left, hread]

/-- What is read has one of the forms. -/
theorem exists_inForm_of_ofChars? (h : ofChars? cs = some id) :
    ∃ digits, InForm digits cs ∧ digits.map Char.toLower = id.digits := by
  unfold ofChars? at h
  split_ifs at h with hlength hbraces hnamed
  · exact ⟨cs, .plain, ofDigits?_eq_some_iff.1 h⟩
  · obtain ⟨digits, hcs, hdigits⟩ := ofHyphenated?_eq_some_iff.1 h
    rw [Bool.and_eq_true, decide_eq_true_eq, decide_eq_true_eq] at hbraces
    obtain ⟨hfirst, hlast⟩ := hbraces
    -- the two braces are not one character
    obtain ⟨rest, rfl⟩ := List.head?_eq_some_iff.1 hfirst
    obtain ⟨front, hfront⟩ := List.getLast?_eq_some_iff.1 hlast
    cases front with
    | nil => cases hfront
    | cons first inside =>
      rw [List.cons_append] at hfront
      obtain ⟨rfl, rfl⟩ := List.cons.inj hfront
      rw [List.drop_one, List.tail_cons, List.dropLast_concat] at hcs
      exact ⟨digits, .braced hcs, hdigits⟩
  · obtain ⟨digits, hcs, hdigits⟩ := ofHyphenated?_eq_some_iff.1 h
    refine ⟨digits, ?_, hdigits⟩
    rw [← List.take_append_drop scheme.length cs]
    exact .named hnamed hcs
  · obtain ⟨digits, hcs, hdigits⟩ := ofHyphenated?_eq_some_iff.1 h
    exact ⟨digits, .hyphenated hcs, hdigits⟩

theorem ofChars?_eq_some_iff :
    ofChars? cs = some id ↔ ∃ digits, InForm digits cs ∧ digits.map Char.toLower = id.digits := by
  constructor
  · exact exists_inForm_of_ofChars?
  · rintro ⟨digits, hform, hdigits⟩
    exact ofChars?_of_inForm hform hdigits

end Reading

end Identifier

end AccessControl
