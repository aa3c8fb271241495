/-
# Printing JSON

The compact text of a JSON value: no blanks, members in the order in which the
value holds them, and of every double the fewest digits that read back.
-/
import AccessControl.Json.Value
import AccessControl.Number.Digits
import AccessControl.Number.Shortest

namespace AccessControl.Json

/-! ## Numbers -/

/-- Doubles with a decimal exponent in this range are written without an exponent. -/
def isPositional (exponent : Int) : Bool := -5 ≤ exponent && exponent ≤ 15

/-- Decimal digits with the point after the digit of value `10 ^ 0`, at least one on each side. -/
def positionalChars (digits : List Char) (exponent : Int) : List Char :=
  if 0 ≤ exponent then
    let whole := digits.take (exponent.toNat + 1)
    let fraction := digits.drop (exponent.toNat + 1)
    whole ++ List.replicate (exponent.toNat + 1 - digits.length) '0' ++ '.' ::
      (if fraction = [] then ['0'] else fraction)
  else '0' :: '.' :: List.replicate (-exponent - 1).toNat '0' ++ digits

/-- Decimal digits with the point after the first one, and a signed exponent. -/
def scientificChars (digits : List Char) (exponent : Int) : List Char :=
  let fraction := digits.drop 1
  digits.take 1 ++ (if fraction = [] then [] else '.' :: fraction) ++
    'e' :: (if exponent < 0 then '-' else '+') :: Digits.decimal exponent.natAbs

/-- A magnitude in decimal. -/
def magnitudeChars (m : Magnitude) : List Char :=
  if m.significand = 0 then ['0', '.', '0']
  else
    let (value, grid) := m.shortest
    let digits := Digits.decimal value
    let exponent := grid + digits.length - 1
    if isPositional exponent then positionalChars digits exponent
    else scientificChars digits exponent

/-- A number. -/
def Number.chars : Number → List Char
  | .whole n => if n < 0 then '-' :: Digits.decimal n.natAbs else Digits.decimal n.natAbs
  | .double d =>
    if d.negative then '-' :: magnitudeChars d.magnitude else magnitudeChars d.magnitude

/-! ## Texts -/

/-- One character inside a JSON text: only quotes, backslashes and controls are escaped. -/
def escapedChar (c : Char) : List Char :=
  match c with
  | '"' => ['\\', '"']
  | '\\' => ['\\', '\\']
  | '\x08' => ['\\', 'b']
  | '\t' => ['\\', 't']
  | '\n' => ['\\', 'n']
  | '\x0c' => ['\\', 'f']
  | '\r' => ['\\', 'r']
  | c => if c.toNat < 0x20 then '\\' :: 'u' :: Digits.fixed 16 4 c.toNat else [c]

/-- A text in quotes. -/
def textChars (text : String) : List Char := '"' :: text.toList.flatMap escapedChar ++ ['"']

/-! ## Values -/

mutual

/-- The characters of a value. -/
def Value.chars : Value → List Char
  | .null => ['n', 'u', 'l', 'l']
  | .bool true => ['t', 'r', 'u', 'e']
  | .bool false => ['f', 'a', 'l', 's', 'e']
  | .number n => n.chars
  | .string text => textChars text
  | .array items => '[' :: Value.itemsChars items ++ [']']
  | .object members => '{' :: Value.membersChars members ++ ['}']

/-- The items of an array, separated by commas. -/
def Value.itemsChars : List Value → List Char
  | [] => []
  | [item] => item.chars
  | item :: rest => item.chars ++ ',' :: Value.itemsChars rest

/-- The members of an object, separated by commas. -/
def Value.membersChars : List (String × Value) → List Char
  | [] => []
  | [(key, value)] => textChars key ++ ':' :: value.chars
  | (key, value) :: rest => textChars key ++ ':' :: value.chars ++ ',' :: Value.membersChars rest

end

/-- The compact text of a value. -/
def Value.render (value : Value) : String := String.ofList value.chars

/-! ## Examples -/

/-- The double closest to a decimal, as a number. -/
def Number.ofDecimal (negative : Bool) (significand : Nat) (exponent : Int) : Number :=
  .double ⟨negative, (Magnitude.ofDecimal? significand exponent).getD .zero⟩

example : (Number.ofDecimal true 0 0).chars = "-0.0".toList := by decide +kernel
example : (Number.ofDecimal false 1 2).chars = "100.0".toList := by decide +kernel
example : (Number.ofDecimal true 25 (-4)).chars = "-0.0025".toList := by decide +kernel
example : (Number.ofDecimal false 1 15).chars = "1000000000000000.0".toList := by decide +kernel
example : (Number.ofDecimal false 1 16).chars = "1e+16".toList := by decide +kernel
example : (Number.ofDecimal false 15 (-8)).chars = "1.5e-7".toList := by decide +kernel
example : (Number.ofDecimal false 1234 (-2)).chars = "12.34".toList := by decide +kernel

end AccessControl.Json
