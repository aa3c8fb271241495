/-
# Numerals

Which texts are numbers, and which number each of them is: an optional sign and at least
one decimal digit, where every digit counts ten times as much as the one after it.
Reading goes from the left and stops at the first number that does not fit a word of 64
bits.  It accepts the texts of exactly those numbers that fit (`ofChars_eq_ok_iff`),
however many digits they have: one more digit never brings a number back into the word.
-/
import AccessControl.Number.Whole
import Mathlib.Data.List.Induction
import Mathlib.Data.Nat.Digits.Defs

namespace AccessControl

/-! ## Digits -/

namespace Digits

variable {cs : List Char} {c : Char} {base k n : Nat}

/-- A decimal digit. -/
def IsDigit (c : Char) : Prop := '0' ≤ c ∧ c ≤ '9'

instance (c : Char) : Decidable (IsDigit c) := by unfold IsDigit; infer_instance

/-- The number that a digit stands for. -/
def worth (c : Char) : Nat := c.toNat - '0'.toNat

/-- The number that decimal digits stand for, by their places. -/
def denoted (digits : List Char) : Nat := Nat.ofDigits 10 (digits.reverse.map worth)

theorem worth_lt (h : IsDigit c) : worth c < 10 := by
  have hle : c.toNat ≤ '9'.toNat := h.2
  have hnine : '9'.toNat = 57 := rfl
  have hzero : '0'.toNat = 48 := rfl
  unfold worth
  omega

/-- The digits to the base ten are the decimal ones. -/
theorem digit?_eq_some_iff : digit? 10 c = some n ↔ IsDigit c ∧ n = worth c := by
  by_cases hc : IsDigit c
  · have hvalue : digit? 10 c = some (worth c) := by
      unfold digit?
      dsimp only
      rw [if_pos (show '0' ≤ c ∧ c ≤ '9' from hc)]
      exact Option.filter_some_pos (decide_eq_true (worth_lt hc))
    rw [hvalue, Option.some.injEq, and_iff_right hc, eq_comm]
  · refine ⟨fun h => ?_, fun h => absurd h.1 hc⟩
    obtain ⟨hvalue, hlt⟩ := Option.filter_eq_some_iff.1 h
    rw [if_neg (show ¬ ('0' ≤ c ∧ c ≤ '9') from hc)] at hvalue
    -- a letter stands for ten at least
    have hten : 10 ≤ n := by
      split_ifs at hvalue <;> cases hvalue <;> omega
    exact absurd (of_decide_eq_true hlt) (Nat.not_lt.2 hten)

theorem extend?_concat (base k : Nat) (cs : List Char) (c : Char) :
    extend? base k (cs ++ [c])
      = (extend? base k cs).bind fun n => (digit? base c).map (base * n + ·) := by
  rw [extend?, List.foldlM_append]
  simp only [List.foldlM_cons, List.foldlM_nil, bind_pure]
  rfl

theorem denoted_concat (cs : List Char) (c : Char) :
    denoted (cs ++ [c]) = 10 * denoted cs + worth c := by
  rw [denoted, List.reverse_append, List.reverse_singleton, List.singleton_append, List.map_cons,
    Nat.ofDigits_cons, ← denoted, Nat.add_comm]

/-- Digits are read as the number that they stand for. -/
theorem value?_eq_some_iff : value? 10 cs = some n ↔ (∀ c ∈ cs, IsDigit c) ∧ n = denoted cs := by
  induction cs using List.reverseRecOn generalizing n with
  | nil => simp [value?, extend?, denoted, eq_comm]
  | append_singleton cs c ih =>
    rw [value?, extend?_concat, ← value?, Option.bind_eq_some_iff, denoted_concat]
    simp only [ih, Option.map_eq_some_iff, digit?_eq_some_iff, List.forall_mem_append,
      List.forall_mem_singleton]
    constructor
    · rintro ⟨_, ⟨hcs, rfl⟩, _, ⟨hc, rfl⟩, rfl⟩
      exact ⟨⟨hcs, hc⟩, rfl⟩
    · rintro ⟨⟨hcs, hc⟩, rfl⟩
      exact ⟨_, ⟨hcs, rfl⟩, _, ⟨hc, rfl⟩, rfl⟩

/-- More digits make a number no smaller. -/
theorem le_of_extend? (hbase : 0 < base) (h : extend? base k cs = some n) : k ≤ n := by
  induction cs using List.reverseRecOn generalizing n with
  | nil =>
    cases h
    exact Nat.le_refl k
  | append_singleton cs c ih =>
    rw [extend?_concat, Option.bind_eq_some_iff] at h
    obtain ⟨m, hm, hn⟩ := h
    obtain ⟨d, -, rfl⟩ := Option.map_eq_some_iff.1 hn
    calc k ≤ m := ih hm
      _ ≤ base * m := Nat.le_mul_of_pos_left m hbase
      _ ≤ base * m + d := Nat.le_add_right _ _

end Digits

/-! ## Signs -/

namespace Whole

variable {cs digits : List Char} {negative : Bool} {n : Int} {k m : Nat}

/-- At least one digit, and digits only. -/
def IsNumeral (digits : List Char) : Prop := digits ≠ [] ∧ ∀ c ∈ digits, Digits.IsDigit c

/-- The whole number that a text stands for: digits, maybe after one sign. -/
inductive Denotes : List Char → Int → Prop
  | plain {digits : List Char} : IsNumeral digits → Denotes digits (Digits.denoted digits)
  | plus {digits : List Char} : IsNumeral digits → Denotes ('+' :: digits) (Digits.denoted digits)
  | minus {digits : List Char} :
      IsNumeral digits → Denotes ('-' :: digits) (-(Digits.denoted digits : Int))

/-- The number fits a signed word of 64 bits. -/
def Fits (n : Int) : Prop := least ≤ n ∧ n ≤ greatest

instance (n : Int) : Decidable (Fits n) := by unfold Fits; infer_instance

/-- A number with a sign. -/
def signed (negative : Bool) (k : Nat) : Int := if negative then -k else k

/-- What fits, fits with fewer digits. -/
theorem fits_of_le (h : k ≤ m) (hm : Fits (signed negative m)) : Fits (signed negative k) := by
  unfold Fits least greatest signed at *
  cases negative with
  | false =>
    simp only [Bool.false_eq_true, if_false] at hm ⊢
    omega
  | true =>
    simp only [if_true] at hm ⊢
    omega

/-- One more digit on either side of zero. -/
theorem signed_next (negative : Bool) (k d : Nat) :
    (if negative then 10 * signed negative k - d else 10 * signed negative k + d)
      = signed negative (10 * k + d) := by
  unfold signed
  cases negative with
  | false =>
    simp only [Bool.false_eq_true, if_false]
    omega
  | true =>
    simp only [if_true]
    omega

/-- Digits are appended as long as the number fits; a number that does not fit is never
brought back by the digits after it. -/
theorem readDigits_eq_ok_iff (hk : Fits (signed negative k)) :
    readDigits negative (signed negative k) cs = .ok n ↔
      ∃ m, Digits.extend? 10 k cs = some m ∧ n = signed negative m ∧ Fits n := by
  induction cs generalizing k with
  | nil =>
    show Except.ok (signed negative k) = Except.ok n ↔ ∃ m, some k = some m ∧ _
    constructor
    · rintro ⟨⟩
      exact ⟨k, rfl, rfl, hk⟩
    · rintro ⟨_, ⟨⟩, rfl, -⟩
      rfl
  | cons c rest ih =>
    unfold readDigits
    have hextend : Digits.extend? 10 k (c :: rest)
        = (Digits.digit? 10 c).bind fun d => Digits.extend? 10 (10 * k + d) rest := by
      rw [Digits.extend?, List.foldlM_cons]
      cases Digits.digit? 10 c <;> rfl
    rw [hextend]
    cases Digits.digit? 10 c with
    | none => simp
    | some d =>
      simp only [signed_next, Option.bind_some]
      by_cases hnext : Fits (signed negative (10 * k + d))
      · rw [if_neg (Int.not_lt.2 hnext.2), if_neg (Int.not_lt.2 hnext.1)]
        exact ih hnext
      · have hnone : ¬ ∃ m, Digits.extend? 10 (10 * k + d) rest = some m ∧
            n = signed negative m ∧ Fits n := by
          rintro ⟨m, hm, rfl, hfits⟩
          exact hnext (fits_of_le (Digits.le_of_extend? (by decide) hm) hfits)
        simp only [hnone, iff_false]
        split_ifs with hlarge hsmall
        · exact not_false
        · exact not_false
        · exact absurd ⟨Int.not_lt.1 hsmall, Int.not_lt.1 hlarge⟩ hnext

/-- Digits on their own are read as the number that they stand for, if it fits. -/
theorem readDigits_zero_eq_ok_iff :
    readDigits negative 0 digits = .ok n ↔
      (∀ c ∈ digits, Digits.IsDigit c) ∧ n = signed negative (Digits.denoted digits) ∧ Fits n := by
  have hzero : signed negative 0 = 0 := by cases negative <;> rfl
  have hfits : Fits (signed negative 0) := by
    rw [hzero]
    decide
  have hread : readDigits negative (signed negative 0) digits = .ok n ↔ _ :=
    readDigits_eq_ok_iff hfits
  rw [hzero] at hread
  rw [hread]
  show (∃ m, Digits.value? 10 digits = some m ∧ _) ↔ _
  simp only [Digits.value?_eq_some_iff]
  constructor
  · rintro ⟨_, ⟨hdigits, rfl⟩, hn, hfits⟩
    exact ⟨hdigits, hn, hfits⟩
  · rintro ⟨hdigits, hn, hfits⟩
    exact ⟨_, ⟨hdigits, rfl⟩, hn, hfits⟩

/-! ## Texts -/

theorem not_isNumeral_nil : ¬ IsNumeral [] := fun h => h.1 rfl

theorem not_isDigit_plus : ¬ Digits.IsDigit '+' := by decide

theorem not_isDigit_minus : ¬ Digits.IsDigit '-' := by decide

theorem denotes_plus_iff :
    Denotes ('+' :: digits) n ↔ IsNumeral digits ∧ n = Digits.denoted digits := by
  constructor
  · intro h
    cases h with
    | plain hnumeral => exact absurd (hnumeral.2 '+' List.mem_cons_self) not_isDigit_plus
    | plus hnumeral => exact ⟨hnumeral, rfl⟩
  · rintro ⟨hnumeral, rfl⟩
    exact .plus hnumeral

theorem denotes_minus_iff :
    Denotes ('-' :: digits) n ↔ IsNumeral digits ∧ n = -(Digits.denoted digits : Int) := by
  constructor
  · intro h
    cases h with
    | plain hnumeral => exact absurd (hnumeral.2 '-' List.mem_cons_self) not_isDigit_minus
    | minus hnumeral => exact ⟨hnumeral, rfl⟩
  · rintro ⟨hnumeral, rfl⟩
    exact .minus hnumeral

theorem denotes_iff (hplus : ∀ rest, cs ≠ '+' :: rest) (hminus : ∀ rest, cs ≠ '-' :: rest) :
    Denotes cs n ↔ IsNumeral cs ∧ n = Digits.denoted cs := by
  constructor
  · intro h
    cases h with
    | plain hnumeral => exact ⟨hnumeral, rfl⟩
    | plus _ => exact absurd rfl (hplus _)
    | minus _ => exact absurd rfl (hminus _)
  · rintro ⟨hnumeral, rfl⟩
    exact .plain hnumeral

/-- **A text is read as a number exactly when it stands for one that fits.** -/
theorem ofChars_eq_ok_iff : ofChars cs = .ok n ↔ Denotes cs n ∧ Fits n := by
  unfold ofChars
  split
  · -- no characters
    refine ⟨fun h => (by cases h), fun h => ?_⟩
    rw [denotes_iff (by simp) (by simp)] at h
    exact absurd h.1.1 not_isNumeral_nil
  · refine ⟨fun h => (by cases h), fun h => ?_⟩
    exact absurd (denotes_plus_iff.1 h.1).1 not_isNumeral_nil
  · refine ⟨fun h => (by cases h), fun h => ?_⟩
    exact absurd (denotes_minus_iff.1 h.1).1 not_isNumeral_nil
  · rename_i digits hsome
    rw [readDigits_zero_eq_ok_iff, denotes_plus_iff, IsNumeral, and_iff_right hsome, and_assoc]
    rfl
  · rename_i digits hsome
    rw [readDigits_zero_eq_ok_iff, denotes_minus_iff, IsNumeral, and_iff_right hsome, and_assoc]
    rfl
  · rename_i hsome _ _ hplus hminus
    rw [readDigits_zero_eq_ok_iff, denotes_iff hplus hminus, IsNumeral, and_iff_right hsome,
      and_assoc]
    rfl

end Whole

end AccessControl
