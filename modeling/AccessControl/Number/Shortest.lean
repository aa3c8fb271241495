/-
# Shortest decimals

The decimal with the fewest digits that reads back as a given double: the point
on the coarsest decimal grid that lies among the reals rounding to the double,
of two such points the nearer one, of two equally near ones the even one.
-/
import AccessControl.Number.Double

namespace AccessControl.Magnitude

/-- The decimal grids that can hold a double, as exponents of ten, coarsest first. -/
def grids : List Int := (List.range 640).map fun (n : Nat) => 308 - (n : Int)

/--
The point of the grid `10 ^ grid` among the reals that round to `m`, if there is
one.  Lengths are counted in quarters of the unit of `m`, and the two ends count
as inside when the significand is even.
-/
def pointOn? (m : Magnitude) (grid : Int) : Option Nat :=
  let up := Nat.pow 2 (m.exponent - 2).toNat * Nat.pow 10 (-grid).toNat
  let down := Nat.pow 2 (2 - m.exponent).toNat * Nat.pow 10 grid.toNat
  let narrow := m.significand = leastNormal ∧ leastExponent < m.exponent
  let low := (4 * m.significand - if narrow then 1 else 2) * up
  let middle := 4 * m.significand * up
  let high := (4 * m.significand + 2) * up
  let inside (d : Nat) : Bool :=
    if m.significand % 2 = 0 then low ≤ d * down && d * down ≤ high
    else low < d * down && d * down < high
  let below := middle / down
  let above := below + 1
  match inside below, inside above with
  | true, true =>
    let lowerGap := middle - below * down
    let upperGap := above * down - middle
    some (if lowerGap < upperGap then below else if upperGap < lowerGap then above
      else below + below % 2)
  | true, false => some below
  | false, true => some above
  | false, false => none

/-- The shortest decimal `digits * 10 ^ exponent` of a positive magnitude. -/
def shortest (m : Magnitude) : Nat × Int :=
  (grids.findSome? fun grid => (m.pointOn? grid).map (·, grid)).getD (0, 0)

/-! ## Small facts -/

example : (nearest 1 10).shortest = (1, -1) := by decide +kernel
example : (nearest (Nat.pow 2 64) 1).shortest = (18446744073709552, 3) := by decide +kernel
example : (⟨1, -1074⟩ : Magnitude).shortest = (5, -324) := by decide +kernel

end AccessControl.Magnitude
