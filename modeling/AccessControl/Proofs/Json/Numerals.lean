/-
# Printed numbers are numerals

What is written for a number is read as a numeral (`exists_readNumeral?_chars`): no zero
stands in front of other digits, a point has digits on both sides and an exponent has some.
It holds of every number, whether there is a double with its magnitude or not; the shortest
decimal of a magnitude that is not zero is not zero either, which is why its digits do not
start with a zero.
-/
import AccessControl.Proofs.Json.Series
import Mathlib.Data.List.TakeDrop
import Mathlib.Data.List.TakeWhile
import Mathlib.Tactic.SplitIfs

namespace AccessControl

/-! ## Digits -/

namespace Digits

/-- Decimal digits, and at least one. -/
def IsRun (digits : List Char) : Prop := digits ≠ [] ∧ ∀ c ∈ digits, isDecimal c = true

theorem decimal_ne_nil (n : Nat) : decimal n ≠ [] := Nat.toDigits_ne_nil

theorem isRun_decimal (n : Nat) : IsRun (decimal n) :=
  ⟨decimal_ne_nil n, fun _ => isDecimal_of_mem_decimal⟩

/-- The digits of a positive number do not start with a zero. -/
theorem head?_decimal_ne {n : Nat} (hn : 0 < n) : (decimal n).head? ≠ some '0' := by
  induction n using Nat.strongRecOn with
  | ind n ih =>
    by_cases hlt : n < 10
    · have h : ∀ d : Fin 10, 0 < d.val → Nat.digitChar d.val ≠ '0' := by decide
      rw [decimal_of_lt hlt]
      exact fun heq => h ⟨n, hlt⟩ hn (Option.some.inj heq)
    · have hfront : 0 < n / 10 := by omega
      have hne := decimal_ne_nil (n / 10)
      rw [decimal_of_le (Nat.le_of_not_lt hlt), List.head?_append, List.head?_eq_some_head hne,
        Option.some_or, ← List.head?_eq_some_head hne]
      exact ih (n / 10) (by omega) hfront

end Digits

/-! ## The shortest decimal -/

namespace Magnitude

theorem pos_of_inside {low high down d : Nat} {even : Prop} [Decidable even] (hlow : 0 < low)
    (h : (if even then decide (low ≤ d * down) && decide (d * down ≤ high)
      else decide (low < d * down) && decide (d * down < high)) = true) : 0 < d := by
  refine Nat.pos_of_ne_zero ?_
  rintro rfl
  split at h
  · simp only [Nat.zero_mul, Bool.and_eq_true, decide_eq_true_eq] at h
    omega
  · simp only [Nat.zero_mul, Bool.and_eq_true, decide_eq_true_eq] at h
    omega

/-- A point of a grid that stands for a positive magnitude is positive. -/
theorem pos_of_pointOn? {m : Magnitude} (hm : m.significand ≠ 0) {grid : Int} {d : Nat}
    (h : m.pointOn? grid = some d) : 0 < d := by
  have hpow : ∀ b k : Nat, 0 < b → 0 < Nat.pow b k := fun _ _ hb => Nat.pow_pos hb
  have hup : 0 < Nat.pow 2 (m.exponent - 2).toNat * Nat.pow 10 (-grid).toNat :=
    Nat.mul_pos (hpow _ _ (by decide)) (hpow _ _ (by decide))
  have hquarters : ∀ c : Prop, [Decidable c] → 0 < 4 * m.significand - if c then 1 else 2 := by
    intro c _
    split <;> omega
  unfold pointOn? at h
  dsimp only at h
  -- whichever of the two neighbours is taken, it lies above the lower end, which is positive
  split at h
  · rename_i hbelow _
    have hpos := pos_of_inside (Nat.mul_pos (hquarters _) hup) hbelow
    rw [← Option.some.inj h]
    split_ifs
    · exact hpos
    · exact Nat.succ_pos _
    · exact Nat.add_pos_left hpos _
  · rename_i hbelow _
    rw [← Option.some.inj h]
    exact pos_of_inside (Nat.mul_pos (hquarters _) hup) hbelow
  · rw [← Option.some.inj h]
    exact Nat.succ_pos _
  · cases h

/-- The shortest decimal of a positive magnitude is positive, or the zero that stands for none. -/
theorem shortest_pos {m : Magnitude} (hm : m.significand ≠ 0) :
    0 < m.shortest.1 ∨ m.shortest = (0, 0) := by
  unfold shortest
  cases hfound : grids.findSome? fun grid => (m.pointOn? grid).map (·, grid) with
  | none => exact .inr rfl
  | some found =>
    obtain ⟨grid, -, hgrid⟩ := List.exists_of_findSome?_eq_some hfound
    obtain ⟨d, hd, rfl⟩ := Option.map_eq_some_iff.1 hgrid
    exact .inl (pos_of_pointOn? hm hd)

end Magnitude

namespace Json

open Digits (IsRun isDecimal)

variable {cs digits rest : List Char}

/-! ## What may follow -/

/-- Characters that do not start with a digit. -/
def NoDigit (rest : List Char) : Prop := ∀ c ∈ rest.head?, isDecimal c = false

theorem noDigit_cons {c : Char} (hc : isDecimal c = false) (rest : List Char) :
    NoDigit (c :: rest) := by
  rintro _ ⟨⟩
  exact hc

theorem Ends.noDigit (h : Ends rest) : NoDigit rest := by
  intro c hc
  rcases h c hc with rfl | rfl | rfl <;> decide

/-- What ends a value is no point. -/
theorem readFraction?_of_ends (h : Ends rest) : readFraction? rest = some (none, rest) := by
  cases rest with
  | nil => rfl
  | cons c rest =>
    rcases h c rfl with rfl | rfl | rfl <;> rfl

/-- What ends a value starts no exponent. -/
theorem readExponent?_of_ends (h : Ends rest) : readExponent? rest = some (none, rest) := by
  cases rest with
  | nil => rfl
  | cons c rest =>
    rcases h c rfl with rfl | rfl | rfl <;> rfl

/-! ## The parts of a numeral -/

/-- Digits are read as far as they go. -/
theorem readDigits?_append (hdigits : IsRun digits) (hrest : NoDigit rest) :
    readDigits? (digits ++ rest) = some (digits, rest) := by
  obtain ⟨hsome, hall⟩ := hdigits
  have htake : rest.takeWhile isDecimal = [] := by
    cases rest with
    | nil => rfl
    | cons c rest => rw [List.takeWhile_cons, hrest c rfl]; rfl
  have hdrop : rest.dropWhile isDecimal = rest := by
    cases rest with
    | nil => rfl
    | cons c rest => rw [List.dropWhile_cons, hrest c rfl]; rfl
  unfold readDigits?
  rw [List.span_eq_takeWhile_dropWhile, List.takeWhile_append_of_pos hall,
    List.dropWhile_append_of_pos hall, htake, hdrop, List.append_nil]
  cases digits with
  | nil => exact absurd rfl hsome
  | cons c digits => rfl

theorem readDigits?_of_noDigit (h : NoDigit rest) : readDigits? rest = none := by
  unfold readDigits?
  rw [List.span_eq_takeWhile_dropWhile]
  cases rest with
  | nil => rfl
  | cons c rest =>
    rw [List.takeWhile_cons, h c rfl]
    rfl

/-- Digits in front of a point: a zero that comes first stands alone. -/
structure IsWhole (digits : List Char) : Prop where
  run : IsRun digits
  alone : digits.head? = some '0' → digits = ['0']

theorem readWhole?_append (hdigits : IsWhole digits) (hrest : NoDigit rest) :
    readWhole? (digits ++ rest) = some (digits, rest) := by
  obtain ⟨hrun, halone⟩ := hdigits
  by_cases hzero : digits.head? = some '0'
  · rw [halone hzero]
    show (if (readDigits? rest).isSome then none else some (['0'], rest)) = _
    rw [readDigits?_of_noDigit hrest]
    rfl
  · have hread := readDigits?_append hrun hrest
    cases digits with
    | nil => exact absurd rfl hrun.1
    | cons c digits =>
      have hc : c ≠ '0' := fun h => hzero (congrArg some h)
      rw [List.cons_append] at hread ⊢
      rw [readWhole?]
      · exact hread
      · rintro _ ⟨⟩
        exact hc rfl

/-- A point and the digits behind it, or nothing. -/
inductive IsFraction : List Char → Prop
  | none : IsFraction []
  | digits {digits : List Char} (hdigits : IsRun digits) : IsFraction ('.' :: digits)

/-- A signed exponent, or nothing. -/
inductive IsExponent : List Char → Prop
  | none : IsExponent []
  | minus {digits : List Char} (hdigits : IsRun digits) : IsExponent ('e' :: '-' :: digits)
  | plus {digits : List Char} (hdigits : IsRun digits) : IsExponent ('e' :: '+' :: digits)

theorem exists_readExponent?_append (h : IsExponent cs) (hrest : Ends rest) :
    ∃ exponent, readExponent? (cs ++ rest) = some (exponent, rest) := by
  cases h with
  | none => exact ⟨_, readExponent?_of_ends hrest⟩
  | @minus digits hdigits =>
    refine ⟨some (true, digits), ?_⟩
    show (readDigits? (digits ++ rest)).map _ = _
    rw [readDigits?_append hdigits hrest.noDigit]
    rfl
  | @plus digits hdigits =>
    refine ⟨some (false, digits), ?_⟩
    show (readDigits? (digits ++ rest)).map _ = _
    rw [readDigits?_append hdigits hrest.noDigit]
    rfl

theorem IsExponent.noDigit (h : IsExponent cs) (hrest : Ends rest) : NoDigit (cs ++ rest) := by
  cases h with
  | none => exact hrest.noDigit
  | minus _ => exact noDigit_cons (by decide) _
  | plus _ => exact noDigit_cons (by decide) _

theorem readFraction?_of_isExponent (h : IsExponent cs) (hrest : Ends rest) :
    readFraction? (cs ++ rest) = some (none, cs ++ rest) := by
  cases h with
  | none => exact readFraction?_of_ends hrest
  | minus _ => rfl
  | plus _ => rfl

/-- The parts of a numeral without its sign. -/
def IsUnsigned (cs : List Char) : Prop :=
  ∃ whole fraction exponent, IsWhole whole ∧ IsFraction fraction ∧ IsExponent exponent ∧
    cs = whole ++ (fraction ++ exponent)

/-- A numeral without its sign is read up to what ends a value. -/
theorem exists_readUnsigned?_append (h : IsUnsigned cs) (negative : Bool) (hrest : Ends rest) :
    ∃ numeral, readUnsigned? negative (cs ++ rest) = some (numeral, rest) := by
  obtain ⟨whole, fraction, exponent, hwhole, hfraction, hexponent, rfl⟩ := h
  obtain ⟨e, hreadExponent⟩ := exists_readExponent?_append hexponent hrest
  rw [List.append_assoc, List.append_assoc]
  unfold readUnsigned?
  cases hfraction with
  | none =>
    simp only [List.nil_append, readWhole?_append hwhole (hexponent.noDigit hrest),
      readFraction?_of_isExponent hexponent hrest, hreadExponent, Option.bind_eq_bind,
      Option.bind_some]
    exact ⟨_, rfl⟩
  | digits hdigits =>
    have hpoint : isDecimal '.' = false := by decide
    have hreadFraction : readFraction? ('.' :: _ ++ (exponent ++ rest)) = _ :=
      congrArg (Option.map _) (readDigits?_append hdigits (hexponent.noDigit hrest))
    rw [List.cons_append] at hreadFraction
    simp only [List.cons_append, readWhole?_append hwhole (noDigit_cons hpoint _), hreadFraction,
      Option.map_some, hreadExponent, Option.bind_eq_bind, Option.bind_some]
    exact ⟨_, rfl⟩

/-- A numeral starts with a digit. -/
theorem exists_cons_of_isUnsigned (h : IsUnsigned cs) :
    ∃ c tail, cs = c :: tail ∧ isDecimal c = true := by
  obtain ⟨whole, fraction, exponent, ⟨⟨hsome, hall⟩, -⟩, -, -, rfl⟩ := h
  cases whole with
  | nil => exact absurd rfl hsome
  | cons c whole => exact ⟨c, _, rfl, hall c List.mem_cons_self⟩

/-! ## Printed numbers -/

theorem isWhole_decimal (n : Nat) : IsWhole (Digits.decimal n) where
  run := Digits.isRun_decimal n
  alone h := by
    rcases Nat.eq_zero_or_pos n with rfl | hn
    · rfl
    · exact absurd h (Digits.head?_decimal_ne hn)

theorem isUnsigned_of_isWhole (h : IsWhole cs) : IsUnsigned cs :=
  ⟨cs, [], [], h, .none, .none, by simp⟩

theorem isWhole_zero : IsWhole ['0'] := isWhole_decimal 0

theorem isRun_replicate_append {n : Nat} (h : IsRun digits) :
    IsRun (List.replicate n '0' ++ digits) := by
  refine ⟨fun hnil => h.1 (List.append_eq_nil_iff.1 hnil).2, fun c hc => ?_⟩
  rcases List.mem_append.1 hc with hzero | hc
  · rw [(List.mem_replicate.1 hzero).2]
    decide
  · exact h.2 c hc

/-- Digits in front of a point, filled up with zeros, start as they did. -/
theorem isWhole_take_append (hdigits : IsRun digits) (hzero : digits.head? ≠ some '0')
    (n m : Nat) :
    IsWhole (digits.take (n + 1) ++ List.replicate m '0') := by
  cases digits with
  | nil => exact absurd rfl hdigits.1
  | cons c digits =>
    refine ⟨⟨List.cons_ne_nil _ _, fun d hd => ?_⟩, fun h => absurd h hzero⟩
    rcases List.mem_append.1 hd with hd | hd
    · exact hdigits.2 d (List.mem_of_mem_take hd)
    · rw [(List.mem_replicate.1 hd).2]
      decide

/-- The digits behind a point, or a zero when there are none. -/
theorem isFraction_ite (hdigits : ∀ c ∈ digits, isDecimal c = true) :
    IsFraction ('.' :: if digits = [] then ['0'] else digits) := by
  split
  · exact .digits (Digits.isRun_decimal 0)
  · rename_i hsome
    exact .digits ⟨hsome, hdigits⟩

/-- Decimal digits with a point among them are a numeral. -/
theorem isUnsigned_positionalChars {value : Nat} {exponent : Int}
    (h : 0 < value ∨ exponent = 0) :
    IsUnsigned (positionalChars (Digits.decimal value) exponent) := by
  have hrun := Digits.isRun_decimal value
  unfold positionalChars
  split
  · rcases Nat.eq_zero_or_pos value with rfl | hpos
    · obtain rfl : exponent = 0 := by simpa using h
      exact ⟨['0'], ['.', '0'], [], isWhole_zero, .digits (Digits.isRun_decimal 0), .none, rfl⟩
    · have hfraction := isFraction_ite fun c hc =>
        hrun.2 c (List.mem_of_mem_drop (i := exponent.toNat + 1) hc)
      have hwhole := isWhole_take_append hrun (Digits.head?_decimal_ne hpos) exponent.toNat
        (exponent.toNat + 1 - (Digits.decimal value).length)
      refine ⟨_, _, [], hwhole, hfraction, .none, ?_⟩
      rw [List.append_nil]
  · have hfraction := isRun_replicate_append (n := (-exponent - 1).toNat) hrun
    refine ⟨['0'], _, [], isWhole_zero, .digits hfraction, .none, ?_⟩
    rw [List.append_nil]
    rfl

/-- The first of some digits may be a zero, as it stands alone. -/
theorem isWhole_take_one (hdigits : IsRun digits) : IsWhole (digits.take 1) := by
  cases digits with
  | nil => exact absurd rfl hdigits.1
  | cons c digits =>
    refine ⟨⟨List.cons_ne_nil _ _, fun d hd => ?_⟩, fun h => congrArg (· :: []) (Option.some.inj h)⟩
    exact hdigits.2 d (List.mem_of_mem_take hd)

/-- Decimal digits with a point behind the first one and an exponent are a numeral. -/
theorem isUnsigned_scientificChars (value : Nat) (exponent : Int) :
    IsUnsigned (scientificChars (Digits.decimal value) exponent) := by
  have hrun := Digits.isRun_decimal value
  have hfraction : IsFraction (if (Digits.decimal value).drop 1 = [] then []
      else '.' :: (Digits.decimal value).drop 1) := by
    split
    · exact .none
    · rename_i hsome
      exact .digits ⟨hsome, fun c hc => hrun.2 c (List.mem_of_mem_drop hc)⟩
  have hexponent : IsExponent
      ('e' :: (if exponent < 0 then '-' else '+') :: Digits.decimal exponent.natAbs) := by
    split
    · exact .minus (Digits.isRun_decimal _)
    · exact .plus (Digits.isRun_decimal _)
  exact ⟨_, _, _, isWhole_take_one hrun, hfraction, hexponent, List.append_assoc _ _ _⟩

/-- A magnitude is printed as a numeral. -/
theorem isUnsigned_magnitudeChars (m : Magnitude) : IsUnsigned (magnitudeChars m) := by
  unfold magnitudeChars
  split
  · exact ⟨['0'], ['.', '0'], [], isWhole_zero, .digits (Digits.isRun_decimal 0), .none, rfl⟩
  · rename_i hm
    have hshortest := Magnitude.shortest_pos hm
    generalize m.shortest = decimal at *
    obtain ⟨value, grid⟩ := decimal
    dsimp only
    split
    · refine isUnsigned_positionalChars (hshortest.imp_right ?_)
      rintro ⟨⟩
      rfl
    · exact isUnsigned_scientificChars _ _

theorem signed_eq_or_eq (negative : Prop) [Decidable negative] (cs : List Char) :
    (if negative then '-' :: cs else cs) = cs ∨
      (if negative then '-' :: cs else cs) = '-' :: cs := by
  split
  · exact .inr rfl
  · exact .inl rfl

/-- A printed number is a numeral, with or without a sign. -/
theorem exists_isUnsigned (n : Number) :
    ∃ cs, IsUnsigned cs ∧ (n.chars = cs ∨ n.chars = '-' :: cs) := by
  cases n with
  | whole n => exact ⟨_, isUnsigned_of_isWhole (isWhole_decimal n.natAbs), signed_eq_or_eq _ _⟩
  | double d => exact ⟨_, isUnsigned_magnitudeChars d.magnitude, signed_eq_or_eq _ _⟩

/-- **A printed number is read as a numeral**, up to what ends a value. -/
theorem exists_readNumeral?_chars (n : Number) (hrest : Ends rest) :
    ∃ numeral, readNumeral? (n.chars ++ rest) = some (numeral, rest) := by
  obtain ⟨cs, hcs, hchars | hchars⟩ := exists_isUnsigned n
  · obtain ⟨numeral, hread⟩ := exists_readUnsigned?_append hcs false hrest
    obtain ⟨c, tail, rfl, hc⟩ := exists_cons_of_isUnsigned hcs
    refine ⟨numeral, ?_⟩
    rw [hchars, List.cons_append]
    rw [readNumeral?]
    · exact hread
    · rintro _ ⟨⟩
      cases hc
  · obtain ⟨numeral, hread⟩ := exists_readUnsigned?_append hcs true hrest
    refine ⟨numeral, ?_⟩
    rw [hchars]
    exact hread

/-- A printed number starts with a digit or a sign. -/
theorem exists_chars_cons (n : Number) :
    ∃ c tail, n.chars = c :: tail ∧ (c = '-' ∨ isDecimal c = true) := by
  obtain ⟨cs, hcs, hchars | hchars⟩ := exists_isUnsigned n
  · obtain ⟨c, tail, rfl, hc⟩ := exists_cons_of_isUnsigned hcs
    exact ⟨c, tail, hchars, .inr hc⟩
  · exact ⟨'-', cs, hchars, .inl rfl⟩

end Json

end AccessControl
