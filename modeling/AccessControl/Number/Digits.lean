/-
# Digits

Numbers as lists of digits, most significant first.  `Digits.fixed` writes a
number with a given count of digits, `Digits.value?` reads a list of digits back,
in either case of the letters; `value?_fixed` says that they agree.
-/
namespace AccessControl.Digits

/-- The value of a digit to a base of at most sixteen. -/
def digit? (base : Nat) (c : Char) : Option Nat :=
  let value :=
    if '0' ≤ c ∧ c ≤ '9' then some (c.toNat - '0'.toNat)
    else if 'a' ≤ c ∧ c ≤ 'f' then some (c.toNat - 'a'.toNat + 10)
    else if 'A' ≤ c ∧ c ≤ 'F' then some (c.toNat - 'A'.toNat + 10)
    else none
  value.filter (· < base)

/-- Whether a character is a decimal digit. -/
def isDecimal (c : Char) : Bool := (digit? 10 c).isSome

/-- The number read so far, followed by one more digit after another. -/
def extend? (base : Nat) (n : Nat) (cs : List Char) : Option Nat :=
  cs.foldlM (fun n c => (digit? base c).map (base * n + ·)) n

/-- The number that a list of digits denotes; the empty list denotes zero. -/
def value? (base : Nat) (cs : List Char) : Option Nat := extend? base 0 cs

/-- The last `width` digits of a number. -/
def fixed (base : Nat) : (width : Nat) → Nat → List Char
  | 0, _ => []
  | width + 1, n => fixed base width (n / base) ++ [Nat.digitChar (n % base)]

/-- The decimal digits of a number. -/
def decimal (n : Nat) : List Char := Nat.toDigits 10 n

/-! ## Reading back -/

/-- A digit is read as its value. -/
theorem digit?_digitChar {base d : Nat} (hd : d < base) (hb : base ≤ 16) :
    digit? base (Nat.digitChar d) = some d := by
  have h16 : d < 16 := Nat.lt_of_lt_of_le hd hb
  have key : ∀ d : Fin 16, digit? 16 (Nat.digitChar d) = some d.val := by decide
  have h := key ⟨d, h16⟩
  simp only [digit?, Option.filter_eq_some_iff] at h ⊢
  exact ⟨h.1, by simpa using hd⟩

@[simp]
theorem length_fixed (base width n : Nat) : (fixed base width n).length = width := by
  induction width generalizing n with
  | zero => rfl
  | succ width ih => simp [fixed, ih]

/-- One more digit at the end adds its value to the shifted number. -/
theorem value?_concat {base d n : Nat} {cs : List Char} (hb : base ≤ 16) (hd : d < base)
    (h : value? base cs = some n) :
    value? base (cs ++ [Nat.digitChar d]) = some (base * n + d) := by
  have hdigits : extend? base 0 cs = some n := h
  rw [value?, extend?, List.foldlM_append, ← extend?, hdigits]
  simp only [List.foldlM_cons, List.foldlM_nil, bind_pure, Option.bind_eq_bind, Option.bind_some,
    digit?_digitChar hd hb, Option.map_some]

/-- Reading a written number gives it back, as far as its digits reach. -/
theorem value?_fixed {base : Nat} (hb : 0 < base) (hb' : base ≤ 16) (width n : Nat) :
    value? base (fixed base width n) = some (n % Nat.pow base width) := by
  induction width generalizing n with
  | zero => simp [fixed, value?, extend?, Nat.mod_one]
  | succ width ih =>
    rw [fixed, value?_concat hb' (Nat.mod_lt n hb) (ih (n / base)),
      show Nat.pow base (width + 1) = base * Nat.pow base width from Nat.mul_comm _ _,
      Nat.mod_mul, Nat.add_comm]

/-! ## Characters of numbers -/

/-- The characters of a number of fixed width are digits to its base. -/
theorem exists_digitChar_of_mem_fixed {base width n : Nat} {c : Char} (hbase : 0 < base)
    (h : c ∈ fixed base width n) : ∃ d < base, c = Nat.digitChar d := by
  induction width generalizing n with
  | zero => cases h
  | succ width ih =>
    rcases List.mem_append.1 h with hfront | hlast
    · exact ih hfront
    · exact ⟨n % base, Nat.mod_lt n hbase, List.mem_singleton.1 hlast⟩

/-- The characters of a number are digits to its base. -/
theorem exists_digitChar_of_mem_toDigits {base n : Nat} {c : Char} (hbase : 1 < base)
    (h : c ∈ Nat.toDigits base n) : ∃ d < base, c = Nat.digitChar d := by
  induction n using Nat.strongRecOn with
  | ind n ih =>
    by_cases hn : n < base
    · rw [Nat.toDigits_of_lt_base hn] at h
      exact ⟨n, hn, List.mem_singleton.1 h⟩
    · have hpos : 0 < n := by omega
      rw [Nat.toDigits_of_base_le hbase (Nat.le_of_not_lt hn)] at h
      rcases List.mem_append.1 h with hfront | hlast
      · exact ih (n / base) (Nat.div_lt_self hpos hbase) hfront
      · exact ⟨n % base, Nat.mod_lt n (by omega), List.mem_singleton.1 hlast⟩

/-! ## Decimal digits -/

theorem isDecimal_digitChar {d : Nat} (hd : d < 10) : isDecimal (Nat.digitChar d) = true := by
  rw [isDecimal, digit?_digitChar hd (by decide)]
  rfl

/-- A number is written with decimal digits only. -/
theorem isDecimal_of_mem_fixed {c : Char} {width n : Nat} (h : c ∈ fixed 10 width n) :
    isDecimal c = true := by
  obtain ⟨d, hd, rfl⟩ := exists_digitChar_of_mem_fixed (by decide) h
  exact isDecimal_digitChar hd

theorem isDecimal_of_mem_decimal {c : Char} {n : Nat} (h : c ∈ decimal n) :
    isDecimal c = true := by
  obtain ⟨d, hd, rfl⟩ := exists_digitChar_of_mem_toDigits (by decide) h
  exact isDecimal_digitChar hd

theorem decimal_of_lt {n : Nat} (hn : n < 10) : decimal n = [Nat.digitChar n] :=
  Nat.toDigits_of_lt_base hn

theorem decimal_of_le {n : Nat} (hn : 10 ≤ n) :
    decimal n = decimal (n / 10) ++ [Nat.digitChar (n % 10)] :=
  Nat.toDigits_of_base_le (by decide) hn

/-- Reading the decimal digits of a number gives it back. -/
theorem value?_decimal (n : Nat) : value? 10 (decimal n) = some n := by
  induction n using Nat.strongRecOn with
  | ind n ih =>
    by_cases hn : n < 10
    · rw [decimal_of_lt hn, value?, extend?, List.foldlM_cons, digit?_digitChar hn (by decide)]
      simp
    · rw [decimal_of_le (Nat.le_of_not_lt hn),
        value?_concat (by decide) (Nat.mod_lt n (by decide)) (ih (n / 10) (by omega)),
        Nat.div_add_mod]

end AccessControl.Digits
