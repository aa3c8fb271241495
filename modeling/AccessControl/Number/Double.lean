/-
# Finite doubles

The numbers `significand * 2 ^ exponent` of the binary format with 53 digits and
exponents from -1074, as exact data.  `Magnitude.nearest` rounds a fraction to
the closest of them, a tie to the even significand.
-/
namespace AccessControl

/-- A binary floating-point number without its sign: `significand * 2 ^ exponent`. -/
structure Magnitude where
  significand : Nat
  exponent : Int
  deriving DecidableEq, Repr

/-- A finite double. -/
structure Double where
  negative : Bool
  magnitude : Magnitude
  deriving DecidableEq, Repr

/-- The whole number closest to `num / den`, a tie to the even one. -/
def halfEven (num den : Nat) : Nat :=
  let quotient := num / den
  let remainder := num % den
  if 2 * remainder < den then quotient
  else if den < 2 * remainder then quotient + 1
  else quotient + quotient % 2

namespace Magnitude

/-- The least significand of 53 digits. -/
def leastNormal : Nat := Nat.pow 2 52

/-- The smallest exponent. -/
def leastExponent : Int := -1074

/-- The largest exponent of a finite number in normal form. -/
def greatestExponent : Int := 971

/-- The number zero. -/
def zero : Magnitude := ⟨0, leastExponent⟩

/-- `num / den` counted in units of `2 ^ exponent`, as a fraction. -/
def inUnits (num den : Nat) (exponent : Int) : Nat × Nat :=
  (num * Nat.pow 2 (-exponent).toNat, den * Nat.pow 2 exponent.toNat)

/-- The exponent at which `num / den` has 53 digits, or the smallest one. -/
def exponentOf (num den : Nat) : Int :=
  let guess := max ((num.log2 : Int) - den.log2 - 52) leastExponent
  let (n, d) := inUnits num den guess
  if n < d * leastNormal then max (guess - 1) leastExponent else guess

/-- The magnitude closest to `num / den`, a tie to the even significand. -/
def nearest (num den : Nat) : Magnitude :=
  if num = 0 then zero
  else
    let exponent := exponentOf num den
    let (n, d) := inUnits num den exponent
    let significand := halfEven n d
    if significand = 2 * leastNormal then ⟨leastNormal, exponent + 1⟩
    else ⟨significand, exponent⟩

/-- The numerator of a magnitude. -/
def num (m : Magnitude) : Nat := m.significand * Nat.pow 2 m.exponent.toNat

/-- The denominator of a magnitude. -/
def den (m : Magnitude) : Nat := Nat.pow 2 (-m.exponent).toNat

/-- The rounded product. -/
def mul (a b : Magnitude) : Magnitude := nearest (a.num * b.num) (a.den * b.den)

/-- The rounded quotient. -/
def div (a b : Magnitude) : Magnitude := nearest (a.num * b.den) (a.den * b.num)

/-- Whether a magnitude in normal form is that of a finite double. -/
def isFinite (m : Magnitude) : Bool := m.exponent ≤ greatestExponent

/-- The rounded power of ten. -/
def tenTo (n : Nat) : Magnitude := nearest (Nat.pow 10 n) 1

/-- The largest power of ten that is finite. -/
def greatestTen : Nat := 308

/-- A magnitude divided by `10 ^ n`, in steps of finite powers, each rounded. -/
def divTen (m : Magnitude) (n : Nat) : Magnitude :=
  if n ≤ greatestTen then m.div (tenTo n)
  else if m.significand = 0 then m
  else (m.div (tenTo greatestTen)).divTen (n - greatestTen)
termination_by n
decreasing_by all_goals simp only [greatestTen] at *; omega

/--
The magnitude read from `significand * 10 ^ exponent`: the significand is rounded
first, then multiplied or divided by rounded powers of ten.  There is none when
the result is too large.
-/
def ofDecimal? (significand : Nat) (exponent : Int) : Option Magnitude :=
  let m := nearest significand 1
  if exponent < 0 then some (m.divTen (-exponent).toNat)
  else if m.significand = 0 then some m
  else if exponent ≤ greatestTen then
    some (m.mul (tenTo exponent.toNat)) |>.filter isFinite
  else none

/-! ## Small facts -/

example : nearest (2 * leastNormal + 1) 1 = ⟨leastNormal, 1⟩ := by decide +kernel
example : nearest 1 (Nat.pow 2 1074) = ⟨1, -1074⟩ := by decide +kernel
example : nearest 1 (Nat.pow 2 1075) = ⟨0, -1074⟩ := by decide +kernel
example : ofDecimal? 1 308 = some (tenTo 308) := by decide +kernel
example : ofDecimal? 2 308 = none := by decide +kernel

end Magnitude

end AccessControl
