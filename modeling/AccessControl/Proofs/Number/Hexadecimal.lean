/-
# Hexadecimal digits

Sixteen digits in lower case are written, and their capitals are read as well: a number is
read from digits exactly when they are the digits that it is written with, case aside
(`value?_sixteen_iff`).
-/
import AccessControl.Proofs.Number.Numerals

namespace AccessControl.Digits

variable {cs : List Char} {c : Char} {d n : Nat}

/-- A hexadecimal digit in lower case. -/
def IsLowerHex (c : Char) : Prop := '0' ≤ c ∧ c ≤ '9' ∨ 'a' ≤ c ∧ c ≤ 'f'

/-- A hexadecimal digit in either case. -/
def IsHex (c : Char) : Prop := IsLowerHex c.toLower

instance (c : Char) : Decidable (IsLowerHex c) := by unfold IsLowerHex; infer_instance

/-- What holds of the first characters by number holds of each of them. -/
theorem of_ascii {P : Char → Prop} (h : ∀ n : Fin 128, P (Char.ofNat n.val))
    (hc : c.toNat < 128) : P c := by
  have hn := h ⟨c.toNat, hc⟩
  rwa [Char.ofNat_toNat] at hn

theorem isLowerHex_iff : IsLowerHex c ↔ ∃ d, d < 16 ∧ c = Nat.digitChar d := by
  constructor
  · intro h
    have hascii : c.toNat < 128 := by
      rcases h with ⟨-, h⟩ | ⟨-, h⟩
      · exact Nat.lt_of_le_of_lt h (by decide)
      · exact Nat.lt_of_le_of_lt h (by decide)
    revert h
    exact of_ascii (P := fun c => IsLowerHex c → ∃ d, d < 16 ∧ c = Nat.digitChar d)
      (by decide) hascii
  · rintro ⟨d, hd, rfl⟩
    have key : ∀ d : Fin 16, IsLowerHex (Nat.digitChar d.val) := by decide
    exact key ⟨d, hd⟩

theorem IsLowerHex.toLower_eq (h : IsLowerHex c) : c.toLower = c := by
  have key : ∀ d : Fin 16, (Nat.digitChar d.val).toLower = Nat.digitChar d.val := by decide
  obtain ⟨d, hd, rfl⟩ := isLowerHex_iff.1 h
  exact key ⟨d, hd⟩

theorem IsLowerHex.isHex (h : IsLowerHex c) : IsHex c := by
  rw [IsHex, h.toLower_eq]
  exact h

theorem map_toLower_eq (h : ∀ c ∈ cs, IsLowerHex c) : cs.map Char.toLower = cs := by
  rw [List.map_congr_left fun c hc => (h c hc).toLower_eq, List.map_id']

/-- Only capitals are changed, so nothing becomes one of the first characters. -/
theorem toNat_lt_of_toLower (h : c.toLower.toNat < 128) : c.toNat < 128 := by
  unfold Char.toLower at h
  split at h
  · rename_i hcapital
    exact Nat.lt_of_le_of_lt hcapital.2 (by decide)
  · exact h

theorem digit?_sixteen_iff_of_ascii (hc : c.toNat < 128) (hd : d < 16) :
    digit? 16 c = some d ↔ c.toLower = Nat.digitChar d := by
  have key : ∀ n : Fin 128, ∀ d : Fin 16,
      digit? 16 (Char.ofNat n.val) = some d.val ↔
        (Char.ofNat n.val).toLower = Nat.digitChar d.val := by decide +kernel
  exact of_ascii (P := fun c => ∀ d : Fin 16, digit? 16 c = some d.val ↔
    c.toLower = Nat.digitChar d.val) key hc ⟨d, hd⟩

/-- A character is read as the digit that its lower case is written for. -/
theorem digit?_sixteen_iff : digit? 16 c = some d ↔ d < 16 ∧ c.toLower = Nat.digitChar d := by
  constructor
  · intro h
    obtain ⟨hvalue, hlt⟩ := Option.filter_eq_some_iff.1 h
    have hd : d < 16 := of_decide_eq_true hlt
    have hascii : c.toNat < 128 := by
      split_ifs at hvalue with hdecimal hlower hupper
      · exact Nat.lt_of_le_of_lt hdecimal.2 (by decide)
      · exact Nat.lt_of_le_of_lt hlower.2 (by decide)
      · exact Nat.lt_of_le_of_lt hupper.2 (by decide)
    exact ⟨hd, (digit?_sixteen_iff_of_ascii hascii hd).1 h⟩
  · rintro ⟨hd, h⟩
    have hdigit : ∀ d : Fin 16, (Nat.digitChar d.val).toNat < 128 := by decide
    have hascii : c.toNat < 128 := toNat_lt_of_toLower (h ▸ hdigit ⟨d, hd⟩)
    exact (digit?_sixteen_iff_of_ascii hascii hd).2 h

/-- A number is written with digits in lower case. -/
theorem isLowerHex_of_mem_fixed {width : Nat} (h : c ∈ fixed 16 width n) : IsLowerHex c :=
  isLowerHex_iff.2 (exists_digitChar_of_mem_fixed (by decide) h)

/-- Digits denote the number that is written with them, case aside. -/
theorem value?_sixteen_iff :
    value? 16 cs = some n ↔
      n < Nat.pow 16 cs.length ∧ cs.map Char.toLower = fixed 16 cs.length n := by
  induction cs using List.reverseRecOn generalizing n with
  | nil => simp [value?, extend?, fixed, eq_comm]
  | append_singleton cs c ih =>
    -- the last digit is the remainder, the digits before it are the quotient
    rw [value?, extend?_concat, ← value?, Option.bind_eq_some_iff, List.length_append,
      List.length_singleton, fixed, List.map_append, List.map_singleton]
    simp only [ih, Option.map_eq_some_iff, digit?_sixteen_iff]
    constructor
    · rintro ⟨m, ⟨hm, hcs⟩, d, ⟨hd, hc⟩, rfl⟩
      have hdiv : (16 * m + d) / 16 = m := by omega
      have hmod : (16 * m + d) % 16 = d := by omega
      rw [hdiv, hmod, hcs, hc]
      refine ⟨?_, rfl⟩
      show 16 * m + d < Nat.pow 16 cs.length * 16
      omega
    · rintro ⟨hn, hcs⟩
      obtain ⟨hfront, hlast⟩ := List.append_inj' hcs rfl
      have hn' : n < Nat.pow 16 cs.length * 16 := hn
      exact ⟨n / 16, ⟨by omega, hfront⟩, n % 16, ⟨by omega, (List.cons.inj hlast).1⟩, by omega⟩

/-- Every list of digits is written for some number. -/
theorem exists_fixed_eq (h : ∀ c ∈ cs, IsLowerHex c) :
    ∃ n, n < Nat.pow 16 cs.length ∧ fixed 16 cs.length n = cs := by
  induction cs using List.reverseRecOn with
  | nil => exact ⟨0, by decide, rfl⟩
  | append_singleton cs c ih =>
    obtain ⟨n, hn, hcs⟩ := ih fun c hc => h c (List.mem_append_left _ hc)
    obtain ⟨d, hd, rfl⟩ := isLowerHex_iff.1 (h c (by simp))
    have hdiv : (16 * n + d) / 16 = n := by omega
    have hmod : (16 * n + d) % 16 = d := by omega
    rw [List.length_append, List.length_singleton]
    refine ⟨16 * n + d, ?_, by rw [fixed, hdiv, hmod, hcs]⟩
    show 16 * n + d < Nat.pow 16 cs.length * 16
    omega

end AccessControl.Digits
