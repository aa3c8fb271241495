/-
# Texts of instants

An instant is written in universal time, with as many groups of three fraction
digits as it needs.  It is read with an offset from universal time; blanks before
the parts, one-digit fields and further spellings of the separators are accepted,
leap seconds are not (`Clock.IsValid`).
-/
import AccessControl.Number.Digits
import AccessControl.Text.Blank
import AccessControl.Time.Calendar
import AccessControl.Time.Instant

namespace AccessControl

/-- An hour, a minute and a second of a day. -/
structure Clock where
  hour : Nat
  minute : Nat
  second : Nat
  deriving DecidableEq, Repr

/-- The clock after a number of seconds of a day. -/
def Clock.ofSeconds (n : Nat) : Clock := ⟨n / 3600, n / 60 % 60, n % 60⟩

/-- The seconds of a day that a clock shows. -/
def Clock.seconds (c : Clock) : Nat := 3600 * c.hour + 60 * c.minute + c.second

/-- A clock that shows a time of the day.  Second 60 is not one: no instant lies within a leap
second, so that a text that names one is refused. -/
def Clock.IsValid (c : Clock) : Prop := c.hour < 24 ∧ c.minute < 60 ∧ c.second < 60

instance (c : Clock) : Decidable c.IsValid := by unfold Clock.IsValid; infer_instance

namespace Instant

/-! ## Writing -/

/-- A year of four digits, or a signed one outside 0 to 9999. -/
def yearChars (year : Int) : List Char :=
  let size := year.natAbs
  let digits := if size < 10000 then Digits.fixed 10 4 size else Digits.decimal size
  if 0 ≤ year ∧ year ≤ 9999 then digits
  else if year < 0 then '-' :: digits
  else '+' :: digits

/-- A fraction of a second in no, three, six or nine digits. -/
def fractionChars (nanoseconds : Nat) : List Char :=
  if nanoseconds = 0 then []
  else if nanoseconds % 1000000 = 0 then '.' :: Digits.fixed 10 3 (nanoseconds / 1000000)
  else if nanoseconds % 1000 = 0 then '.' :: Digits.fixed 10 6 (nanoseconds / 1000)
  else '.' :: Digits.fixed 10 9 nanoseconds

/-- A date as year, month and day. -/
def dateChars (date : Date) : List Char :=
  yearChars date.year ++ '-' :: Digits.fixed 10 2 date.month ++ '-' :: Digits.fixed 10 2 date.day

/-- A clock as hour, minute and second. -/
def clockChars (clock : Clock) : List Char :=
  Digits.fixed 10 2 clock.hour ++ ':' :: Digits.fixed 10 2 clock.minute ++
    ':' :: Digits.fixed 10 2 clock.second

/-- The characters of an instant. -/
def chars (t : Instant) : List Char :=
  let second := t.nanoseconds / 1000000000
  let date := Date.ofDayNumber (second / 86400)
  let clock := Clock.ofSeconds (second % 86400).toNat
  dateChars date ++ 'T' :: clockChars clock ++
    fractionChars (t.nanoseconds % 1000000000).toNat ++ ['Z']

/-- The text of an instant. -/
def text (t : Instant) : String := String.ofList t.chars

/-! ## Reading -/

/-- The number that decimal digits denote, if there is at least one. -/
def ofDigits? (digits : List Char) : Option Nat :=
  if digits = [] then none else Digits.value? 10 digits

/-- A number of at most `width` digits, after blanks. -/
def readNumber? (width : Nat) (cs : List Char) : Option (Nat × List Char) := do
  let cs := Text.trimStart cs
  let digits := (cs.take width).takeWhile Digits.isDecimal
  return (← ofDigits? digits, cs.drop digits.length)

/-- A year of at most four digits, or a signed one of any length, after blanks. -/
def readYear? (cs : List Char) : Option (Int × List Char) :=
  match Text.trimStart cs with
  | '-' :: cs => do
    let (digits, rest) := cs.span Digits.isDecimal
    return (-(← ofDigits? digits), rest)
  | '+' :: cs => do
    let (digits, rest) := cs.span Digits.isDecimal
    return (← ofDigits? digits, rest)
  | cs => do
    let (year, cs) ← readNumber? 4 cs
    return (year, cs)

/-- The characters after a separator, which blanks may precede. -/
def readMark? (mark : Char) (cs : List Char) : Option (List Char) :=
  match Text.trimStart cs with
  | c :: rest => if c = mark then some rest else none
  | [] => none

/-- A date. -/
def readDate? (cs : List Char) : Option (Date × List Char) := do
  let (year, cs) ← readYear? cs
  let (month, cs) ← readNumber? 2 (← readMark? '-' cs)
  let (day, cs) ← readNumber? 2 (← readMark? '-' cs)
  return (⟨year, month, day⟩, cs)

/-- A clock. -/
def readClock? (cs : List Char) : Option (Clock × List Char) := do
  let (hour, cs) ← readNumber? 2 cs
  let (minute, cs) ← readNumber? 2 (← readMark? ':' cs)
  let (second, cs) ← readNumber? 2 (← readMark? ':' cs)
  return (⟨hour, minute, second⟩, cs)

/-- The nanoseconds of a fraction, if there is one; digits after the ninth do not count. -/
def readFraction? : List Char → Option (Nat × List Char)
  | '.' :: cs => do
    let (digits, rest) := cs.span Digits.isDecimal
    let counted := digits.take 9
    return ((← ofDigits? counted) * Nat.pow 10 (9 - counted.length), rest)
  | cs => some (0, cs)

/-- The seconds of an offset whose sign has been read: two digits of hours, then of minutes. -/
def readOffsetSize? : List Char → Option (Nat × List Char)
  | a :: b :: cs => do
    let hour ← Digits.value? 10 [a, b]
    match cs.dropWhile fun c => c = ':' || Text.isBlank c with
    | c :: d :: rest => do
      let minute ← Digits.value? 10 [c, d]
      if hour < 24 ∧ minute < 60 then some (3600 * hour + 60 * minute, rest) else none
    | _ => none
  | _ => none

/-- The seconds by which a clock is ahead of universal time, after blanks. -/
def readOffset? (cs : List Char) : Option (Int × List Char) :=
  let cs := Text.trimStart cs
  if (cs.take 3).map Char.toUpper = ['U', 'T', 'C'] then some (0, cs.drop 3)
  else
    match cs with
    | 'Z' :: cs => some (0, cs)
    | 'z' :: cs => some (0, cs)
    | '+' :: cs => (readOffsetSize? cs).map fun (size, rest) => ((size : Int), rest)
    | '-' :: cs => (readOffsetSize? cs).map fun (size, rest) => (-(size : Int), rest)
    | '\u2212' :: cs => (readOffsetSize? cs).map fun (size, rest) => (-(size : Int), rest)
    | _ => none

/-- The years in which every instant can be represented. -/
def IsCovered (year : Int) : Prop := -262143 ≤ year ∧ year ≤ 262142

instance (year : Int) : Decidable (IsCovered year) := by unfold IsCovered; infer_instance

/-- The instant at which a clock with an offset shows a date and a time of the day. -/
def ofLocal? (date : Date) (clock : Clock) (nanoseconds : Nat) (offset : Int) : Option Instant :=
  if date.IsValid ∧ clock.IsValid ∧ IsCovered date.year then
    ofNanoseconds?
      ((date.dayNumber * 86400 + clock.seconds - offset) * 1000000000 + nanoseconds)
  else none

/-- The instant that characters denote. -/
def ofChars? (cs : List Char) : Option Instant := do
  let (date, cs) ← readDate? cs
  let (clock, cs) ←
    match cs with
    | 'T' :: cs => readClock? cs
    | 't' :: cs => readClock? cs
    | ' ' :: cs => readClock? cs
    | _ => none
  let (nanoseconds, cs) ← readFraction? cs
  let (offset, cs) ← readOffset? cs
  if Text.trimStart cs = [] then ofLocal? date clock nanoseconds offset else none

/-- The instant that a text denotes. -/
def ofText? (text : String) : Option Instant := ofChars? text.toList

example : latest.text = "+262142-12-31T23:59:59.999999999Z" := by decide +kernel
example : earliest.text = "-262143-01-01T00:00:00Z" := by decide +kernel
example : (ofText? "2024-03-01t00:30:00.5+01:00").map text = some "2024-02-29T23:30:00.500Z" := by
  decide +kernel
example : ofText? "2023-02-29T00:00:00Z" = none := by decide +kernel

end Instant

end AccessControl
