/-
# Lexemes of JSON

Texts and numerals at the front of a list of characters.  Each reading function
gives what it read and the characters that follow.  A text that is only passed
over is checked less strictly than one that is read: its escapes need not denote
characters.
-/
import AccessControl.Json.Value
import AccessControl.Number.Digits

namespace AccessControl.Json

/-- The blanks of JSON. -/
def isSpace (c : Char) : Bool := c = ' ' || c = '\n' || c = '\t' || c = '\r'

/-- The characters after the leading blanks. -/
def skipSpace (cs : List Char) : List Char := cs.dropWhile isSpace

/-! ## Texts -/

/-- The character that a one-letter escape stands for. -/
def escaped? : Char → Option Char
  | '"' => some '"'
  | '\\' => some '\\'
  | '/' => some '/'
  | 'b' => some '\x08'
  | 'f' => some '\x0c'
  | 'n' => some '\n'
  | 'r' => some '\r'
  | 't' => some '\t'
  | _ => none

/-- The number written by four hexadecimal digits. -/
def unit? (a b c d : Char) : Option Nat := Digits.value? 16 [a, b, c, d]

/-- The first half of a surrogate pair. -/
def isHighSurrogate (n : Nat) : Bool := 0xd800 ≤ n && n ≤ 0xdbff

/-- The second half of a surrogate pair. -/
def isLowSurrogate (n : Nat) : Bool := 0xdc00 ≤ n && n ≤ 0xdfff

/-- The character that a surrogate pair stands for. -/
def ofSurrogates (high low : Nat) : Char :=
  Char.ofNat (0x10000 + (high - 0xd800) * 0x400 + (low - 0xdc00))

/-- Whether a character may stand in a text as it is. -/
def isPlain (c : Char) : Bool := 0x20 ≤ c.toNat

/--
The rest of a text whose opening quote has been read, put behind the characters
`before`, which are in reverse order.
-/
def readText? (before : List Char) : List Char → Option (String × List Char)
  | [] => none
  | '"' :: rest => some (String.ofList before.reverse, rest)
  | '\\' :: 'u' :: a :: b :: c :: d :: rest =>
    match unit? a b c d with
    | none => none
    | some high =>
      if isHighSurrogate high then
        match rest with
        | '\\' :: 'u' :: e :: f :: g :: h :: rest =>
          match unit? e f g h with
          | none => none
          | some low =>
            if isLowSurrogate low then readText? (ofSurrogates high low :: before) rest else none
        | _ => none
      else if isLowSurrogate high then none
      else readText? (Char.ofNat high :: before) rest
  | '\\' :: c :: rest =>
    match escaped? c with
    | none => none
    | some c => readText? (c :: before) rest
  | c :: rest => if isPlain c then readText? (c :: before) rest else none

/-- The characters after a text whose opening quote has been read. -/
def skipText? : List Char → Option (List Char)
  | [] => none
  | '"' :: rest => some rest
  | '\\' :: 'u' :: a :: b :: c :: d :: rest =>
    if (unit? a b c d).isSome then skipText? rest else none
  | '\\' :: c :: rest => if (escaped? c).isSome then skipText? rest else none
  | c :: rest => if isPlain c then skipText? rest else none

/-! ## Numerals -/

/-- The parts of a number as they are written. -/
structure Numeral where
  negative : Bool
  whole : List Char
  /-- The digits after the point, if there is one. -/
  fraction : Option (List Char)
  /-- Whether the exponent is negative, and its digits. -/
  exponent : Option (Bool × List Char)
  deriving DecidableEq, Repr

/-- The leading digits, at least one, and what follows. -/
def readDigits? (cs : List Char) : Option (List Char × List Char) :=
  match cs.span Digits.isDecimal with
  | ([], _) => none
  | (digits, rest) => some (digits, rest)

/-- The digits before the point: a zero stands alone. -/
def readWhole? : List Char → Option (List Char × List Char)
  | '0' :: rest => if (readDigits? rest).isSome then none else some (['0'], rest)
  | cs => readDigits? cs

/-- The point and the digits after it, if there is a point. -/
def readFraction? : List Char → Option (Option (List Char) × List Char)
  | '.' :: rest => (readDigits? rest).map fun (digits, rest) => (some digits, rest)
  | cs => some (none, cs)

/-- The exponent, if there is one. -/
def readExponent? : List Char → Option (Option (Bool × List Char) × List Char)
  | c :: rest =>
    if c = 'e' || c = 'E' then
      match rest with
      | '-' :: rest => (readDigits? rest).map fun (digits, rest) => (some (true, digits), rest)
      | '+' :: rest => (readDigits? rest).map fun (digits, rest) => (some (false, digits), rest)
      | rest => (readDigits? rest).map fun (digits, rest) => (some (false, digits), rest)
    else some (none, c :: rest)
  | [] => some (none, [])

/-- A numeral without its sign. -/
def readUnsigned? (negative : Bool) (cs : List Char) : Option (Numeral × List Char) := do
  let (whole, cs) ← readWhole? cs
  let (fraction, cs) ← readFraction? cs
  let (exponent, cs) ← readExponent? cs
  return (⟨negative, whole, fraction, exponent⟩, cs)

/-- A numeral. -/
def readNumeral? : List Char → Option (Numeral × List Char)
  | '-' :: cs => readUnsigned? true cs
  | cs => readUnsigned? false cs

/-! ## The value of a numeral -/

/-- Digits of a decimal are taken up as long as the significand fits a word of 64 bits. -/
def absorb (significand : Nat) : List Char → Nat × List Char
  | [] => (significand, [])
  | c :: rest =>
    let next := 10 * significand + (Digits.digit? 10 c).getD 0
    if next < UInt64.size then absorb next rest else (significand, c :: rest)

/-- The number that decimal digits denote. -/
def natOf (digits : List Char) : Nat := (Digits.value? 10 digits).getD 0

/--
The significand and the exponent of ten of a numeral.  Digits before the point
that are not taken up raise the exponent, those after the point that are taken
up lower it.
-/
def Numeral.decimal (n : Numeral) : Nat × Int :=
  let fraction := n.fraction.getD []
  let (significand, left) := absorb 0 n.whole
  let (significand, dropped) := absorb significand fraction
  let exponent := n.exponent.elim 0 fun (negative, digits) =>
    if negative then -(natOf digits : Int) else natOf digits
  (significand, left.length - (fraction.length - dropped.length : Nat) + exponent)

/-- Whether a numeral has neither a point nor an exponent. -/
def Numeral.isWhole (n : Numeral) : Bool := n.fraction.isNone && n.exponent.isNone

/--
The number that a numeral denotes: a whole one when it is written as one and fits
64 bits, else a double; none when it is too large for a double.
-/
def Numeral.number? (n : Numeral) : Option Number :=
  let size := natOf n.whole
  if n.isWhole && !n.negative && size < UInt64.size then some (.whole size)
  else if n.isWhole && n.negative && 0 < size && 2 * size ≤ UInt64.size then
    some (.whole (-size))
  else
    let (significand, exponent) := n.decimal
    (Magnitude.ofDecimal? significand exponent).map fun m => .double ⟨n.negative, m⟩

/-- A number and the characters that follow. -/
def readNumber? (cs : List Char) : Option (Number × List Char) := do
  let (numeral, cs) ← readNumeral? cs
  let number ← numeral.number?
  return (number, cs)

end AccessControl.Json
