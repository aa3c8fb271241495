/-
# Whole numbers of 64 bits

Reading a whole number from a text: an optional sign and decimal digits whose
value fits a signed word of 64 bits.  The first thing wrong from the left is the
one reported.
-/
import AccessControl.Number.Digits

namespace AccessControl

/-- Why a text is not a whole number of 64 bits. -/
inductive WholeFault where
  | empty
  | invalidDigit
  | tooLarge
  | tooSmall
  deriving DecidableEq, Repr

/-- The wording of each fault. -/
def WholeFault.message : WholeFault → String
  | .empty => "cannot parse integer from empty string"
  | .invalidDigit => "invalid digit found in string"
  | .tooLarge => "number too large to fit in target type"
  | .tooSmall => "number too small to fit in target type"

namespace Whole

/-- The least number of 64 bits. -/
def least : Int := -9223372036854775808

/-- The greatest number of 64 bits. -/
def greatest : Int := 9223372036854775807

/-- Appends digits to a number, downwards when it is negative. -/
def readDigits (negative : Bool) : Int → List Char → Except WholeFault Int
  | n, [] => .ok n
  | n, c :: rest =>
    match Digits.digit? 10 c with
    | none => .error .invalidDigit
    | some d =>
      let next := if negative then 10 * n - d else 10 * n + d
      if greatest < next then .error .tooLarge
      else if next < least then .error .tooSmall
      else readDigits negative next rest

/-- The number that a text denotes. -/
def ofChars : List Char → Except WholeFault Int
  | [] => .error .empty
  | ['+'] => .error .invalidDigit
  | ['-'] => .error .invalidDigit
  | '+' :: digits => readDigits false 0 digits
  | '-' :: digits => readDigits true 0 digits
  | digits => readDigits false 0 digits

/-! ## Small facts -/

example : ofChars "-0042".toList = .ok (-42) := by rfl
example : ofChars "9223372036854775808x".toList = .error .tooLarge := by rfl
example : ofChars "9223372036854775807x".toList = .error .invalidDigit := by rfl

end Whole

end AccessControl
