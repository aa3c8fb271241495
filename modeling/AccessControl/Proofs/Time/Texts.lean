/-
# Instants survive their texts

Reading the text of an instant gives the instant back (`ofText?_text`), in every year
that can be represented.  Each part of a text is read back by the function for it,
whatever follows; the parts are put together again by the calendar.
-/
import AccessControl.Proofs.Text.Trimming
import AccessControl.Proofs.Time.Dates
import Mathlib.Data.List.TakeDrop
import Mathlib.Data.List.TakeWhile

namespace AccessControl

namespace Instant

variable {digits rest : List Char} {n : Nat}

/-! ## Numbers and separators -/

/-- What starts with a digit has no blanks before it. -/
theorem trimStart_append (hdigits : ∀ c ∈ digits, Digits.isDecimal c = true)
    (hsome : digits ≠ []) (rest : List Char) :
    Text.trimStart (digits ++ rest) = digits ++ rest := by
  cases digits with
  | nil => exact absurd rfl hsome
  | cons c digits =>
    exact Text.trimStart_cons (Text.isBlank_eq_false_of_isDecimal (hdigits c List.mem_cons_self)) _

theorem ofDigits?_eq (hsome : digits ≠ []) : ofDigits? digits = Digits.value? 10 digits :=
  if_neg hsome

/-- A number that is written with the full width is read back. -/
theorem readNumber?_fixed {width : Nat} (hwidth : 0 < width) (hn : n < Nat.pow 10 width)
    (rest : List Char) : readNumber? width (Digits.fixed 10 width n ++ rest) = some (n, rest) := by
  have hlength := Digits.length_fixed 10 width n
  have hvalue : Digits.value? 10 (Digits.fixed 10 width n) = some n := by
    rw [Digits.value?_fixed (by decide) (by decide), Nat.mod_eq_of_lt hn]
  have hdigits : ∀ c ∈ Digits.fixed 10 width n, Digits.isDecimal c = true :=
    fun _ => Digits.isDecimal_of_mem_fixed
  generalize Digits.fixed 10 width n = digits at *
  have hsome : digits ≠ [] := by
    rintro rfl
    rw [← hlength] at hwidth
    exact absurd hwidth (by decide)
  have htaken : ((digits ++ rest).take width).takeWhile Digits.isDecimal = digits := by
    rw [List.take_left' hlength, List.takeWhile_eq_self_iff]
    exact hdigits
  unfold readNumber?
  simp only [trimStart_append hdigits hsome, htaken, ofDigits?_eq hsome, hvalue, List.drop_left]
  rfl

theorem readNumber?_two (hn : n < 100) (rest : List Char) :
    readNumber? 2 (Digits.fixed 10 2 n ++ rest) = some (n, rest) :=
  readNumber?_fixed (by decide) hn rest

/-- A separator is read when it is there. -/
theorem readMark?_cons {mark : Char} (hmark : Text.isBlank mark = false) (rest : List Char) :
    readMark? mark (mark :: rest) = some rest := by
  unfold readMark?
  rw [Text.trimStart_cons hmark]
  exact if_pos rfl

/-- Digits are read up to the first character that is none. -/
theorem span_digits {c : Char} (hdigits : ∀ c ∈ digits, Digits.isDecimal c = true)
    (hc : Digits.isDecimal c = false) (rest : List Char) :
    (digits ++ c :: rest).span Digits.isDecimal = (digits, c :: rest) := by
  rw [List.span_eq_takeWhile_dropWhile, List.takeWhile_append_of_pos hdigits,
    List.dropWhile_append_of_pos hdigits, List.takeWhile_cons, List.dropWhile_cons, hc]
  simp

/-! ## Dates -/

/-- The digits of a year denote its size. -/
theorem exists_yearDigits (size : Nat) :
    ∃ digits, (if size < 10000 then Digits.fixed 10 4 size else Digits.decimal size) = digits ∧
      (∀ c ∈ digits, Digits.isDecimal c = true) ∧ digits ≠ [] ∧
      Digits.value? 10 digits = some size := by
  split
  · rename_i hsize
    refine ⟨_, rfl, fun _ => Digits.isDecimal_of_mem_fixed, ?_, ?_⟩
    · intro hnil
      have hlength := Digits.length_fixed 10 4 size
      rw [hnil] at hlength
      cases hlength
    · rw [Digits.value?_fixed (by decide) (by decide), Nat.mod_eq_of_lt hsize]
  · exact ⟨_, rfl, fun _ => Digits.isDecimal_of_mem_decimal, Nat.toDigits_ne_nil,
      Digits.value?_decimal size⟩

/-- A year without a sign is read with four digits. -/
theorem readYear?_fixed (hn : n < 10000) (rest : List Char) :
    readYear? (Digits.fixed 10 4 n ++ rest) = some ((n : Int), rest) := by
  have hread : readNumber? 4 (Digits.fixed 10 4 n ++ rest) = some (n, rest) :=
    readNumber?_fixed (by decide) hn rest
  have hdigits : ∀ c ∈ Digits.fixed 10 4 n, Digits.isDecimal c = true :=
    fun _ => Digits.isDecimal_of_mem_fixed
  have hlength := Digits.length_fixed 10 4 n
  generalize Digits.fixed 10 4 n = digits at *
  cases digits with
  | nil => cases hlength
  | cons c digits =>
    have hc := hdigits c List.mem_cons_self
    unfold readYear?
    rw [List.cons_append, Text.trimStart_cons (Text.isBlank_eq_false_of_isDecimal hc)]
    rw [List.cons_append] at hread
    -- a digit is not a sign
    split
    · rename_i heq
      cases heq
      exact absurd hc (by decide)
    · rename_i heq
      cases heq
      exact absurd hc (by decide)
    · rw [hread]
      rfl

/-- A year with a sign is read up to the separator. -/
theorem readYear?_minus (hdigits : ∀ c ∈ digits, Digits.isDecimal c = true) (hsome : digits ≠ [])
    (hvalue : Digits.value? 10 digits = some n) (rest : List Char) :
    readYear? ('-' :: (digits ++ '-' :: rest)) = some (-(n : Int), '-' :: rest) := by
  have hspan := span_digits hdigits (show Digits.isDecimal '-' = false by decide) rest
  rw [readYear?, Text.trimStart_cons (by decide)]
  simp only [hspan, ofDigits?_eq hsome, hvalue]
  rfl

theorem readYear?_plus (hdigits : ∀ c ∈ digits, Digits.isDecimal c = true) (hsome : digits ≠ [])
    (hvalue : Digits.value? 10 digits = some n) (rest : List Char) :
    readYear? ('+' :: (digits ++ '-' :: rest)) = some ((n : Int), '-' :: rest) := by
  have hspan := span_digits hdigits (show Digits.isDecimal '-' = false by decide) rest
  rw [readYear?, Text.trimStart_cons (by decide)]
  simp only [hspan, ofDigits?_eq hsome, hvalue]
  rfl

/-- A year is read back when a separator follows. -/
theorem readYear?_yearChars (year : Int) (rest : List Char) :
    readYear? (yearChars year ++ '-' :: rest) = some (year, '-' :: rest) := by
  unfold yearChars
  by_cases hplain : 0 ≤ year ∧ year ≤ 9999
  · have hsize : year.natAbs < 10000 := by omega
    have hyear : (year.natAbs : Int) = year := by omega
    simp only [if_pos hplain, if_pos hsize]
    rw [readYear?_fixed hsize, hyear]
  · obtain ⟨digits, hchars, hdigits, hsome, hvalue⟩ := exists_yearDigits year.natAbs
    simp only [if_neg hplain, hchars]
    by_cases hnegative : year < 0
    · have hyear : -(year.natAbs : Int) = year := by omega
      rw [if_pos hnegative, List.cons_append, readYear?_minus hdigits hsome hvalue, hyear]
    · have hyear : (year.natAbs : Int) = year := by omega
      rw [if_neg hnegative, List.cons_append, readYear?_plus hdigits hsome hvalue, hyear]

/-- A date is read back. -/
theorem readDate?_dateChars {date : Date} (hdate : date.IsValid) (rest : List Char) :
    readDate? (dateChars date ++ rest) = some (date, rest) := by
  obtain ⟨-, hmonth, -, hday⟩ := hdate
  have hlength : Date.monthLength date.year date.month ≤ 31 := by
    unfold Date.monthLength
    split
    · split <;> decide
    · split <;> decide
  have hmark : Text.isBlank '-' = false := by decide
  unfold readDate? dateChars
  simp only [List.append_assoc, List.cons_append, readYear?_yearChars, readMark?_cons hmark,
    readNumber?_two (show date.month < 100 by omega),
    readNumber?_two (show date.day < 100 by omega),
    Option.bind_eq_bind, Option.bind_some]
  rfl

/-! ## Clocks -/

/-- A clock is read back. -/
theorem readClock?_clockChars {clock : Clock} (hclock : clock.IsValid) (rest : List Char) :
    readClock? (clockChars clock ++ rest) = some (clock, rest) := by
  obtain ⟨hhour, hminute, hsecond⟩ := hclock
  have hmark : Text.isBlank ':' = false := by decide
  unfold readClock? clockChars
  simp only [List.append_assoc, List.cons_append, readMark?_cons hmark,
    readNumber?_two (show clock.hour < 100 by omega),
    readNumber?_two (show clock.minute < 100 by omega),
    readNumber?_two (show clock.second < 100 by omega),
    Option.bind_eq_bind, Option.bind_some]
  rfl

/-- A fraction of `width` digits counts them from the left. -/
theorem readFraction?_fixed {width : Nat} (hsome : 0 < width) (hwidth : width ≤ 9)
    (hn : n < Nat.pow 10 width) (rest : List Char) :
    readFraction? ('.' :: (Digits.fixed 10 width n ++ 'Z' :: rest))
      = some (n * Nat.pow 10 (9 - width), 'Z' :: rest) := by
  have hlength := Digits.length_fixed 10 width n
  have hvalue : Digits.value? 10 (Digits.fixed 10 width n) = some n := by
    rw [Digits.value?_fixed (by decide) (by decide), Nat.mod_eq_of_lt hn]
  have hdigits : ∀ c ∈ Digits.fixed 10 width n, Digits.isDecimal c = true :=
    fun _ => Digits.isDecimal_of_mem_fixed
  generalize Digits.fixed 10 width n = digits at *
  have hsome : digits ≠ [] := by
    rintro rfl
    rw [← hlength] at hsome
    exact absurd hsome (by decide)
  have hspan := span_digits hdigits (show Digits.isDecimal 'Z' = false by decide) rest
  have htaken : digits.take 9 = digits := List.take_of_length_le (by omega)
  simp only [readFraction?, hspan, htaken, ofDigits?_eq hsome, hvalue, hlength]
  rfl

/-- A fraction of a second is read back. -/
theorem readFraction?_fractionChars (hn : n < 1000000000) (rest : List Char) :
    readFraction? (fractionChars n ++ 'Z' :: rest) = some (n, 'Z' :: rest) := by
  unfold fractionChars
  by_cases hzero : n = 0
  · rw [if_pos hzero, hzero]
    rfl
  · by_cases hmilli : n % 1000000 = 0
    · rw [if_neg hzero, if_pos hmilli, List.cons_append,
        readFraction?_fixed (by decide) (by decide) (show n / 1000000 < 1000 by omega)]
      congr 2
      show n / 1000000 * 1000000 = n
      omega
    · by_cases hmicro : n % 1000 = 0
      · rw [if_neg hzero, if_neg hmilli, if_pos hmicro, List.cons_append,
          readFraction?_fixed (by decide) (by decide) (show n / 1000 < 1000000 by omega)]
        congr 2
        show n / 1000 * 1000 = n
        omega
      · rw [if_neg hzero, if_neg hmilli, if_neg hmicro, List.cons_append,
          readFraction?_fixed (by decide) (by decide) hn]
        congr 2
        show n * 1 = n
        omega

/-! ## Instants -/

theorem isValid_ofSeconds (hn : n < 86400) : (Clock.ofSeconds n).IsValid := by
  unfold Clock.ofSeconds Clock.IsValid
  dsimp only
  omega

theorem seconds_ofSeconds (n : Nat) : (Clock.ofSeconds n).seconds = n := by
  unfold Clock.ofSeconds Clock.seconds
  dsimp only
  omega

/-- The date of an instant lies in the years that can be read. -/
theorem isCovered_date (t : Instant) :
    IsCovered (Date.ofDayNumber (t.nanoseconds / 1000000000 / 86400)).year := by
  have hleast := t.least_le
  have hgreatest := t.le_greatest
  unfold leastNanoseconds at hleast
  unfold greatestNanoseconds at hgreatest
  exact Date.isCovered_ofDayNumber (by omega) (by omega)

/-- The parts of an instant that are written determine it. -/
theorem ofLocal?_parts (t : Instant) :
    ofLocal? (Date.ofDayNumber (t.nanoseconds / 1000000000 / 86400))
      (Clock.ofSeconds (t.nanoseconds / 1000000000 % 86400).toNat)
      (t.nanoseconds % 1000000000).toNat 0 = some t := by
  have hclock : (Clock.ofSeconds (t.nanoseconds / 1000000000 % 86400).toNat).IsValid :=
    isValid_ofSeconds (by omega)
  unfold ofLocal?
  rw [if_pos ⟨Date.isValid_ofDayNumber _, hclock, isCovered_date t⟩, ofNanoseconds?_eq_some_iff,
    Date.dayNumber_ofDayNumber, seconds_ofSeconds]
  omega

/-- The characters of an instant denote it. -/
theorem ofChars?_chars (t : Instant) : ofChars? t.chars = some t := by
  have hclock : (Clock.ofSeconds (t.nanoseconds / 1000000000 % 86400).toNat).IsValid :=
    isValid_ofSeconds (by omega)
  have hdate := readDate?_dateChars
    (Date.isValid_ofDayNumber (t.nanoseconds / 1000000000 / 86400))
  have hfraction := readFraction?_fractionChars
    (show (t.nanoseconds % 1000000000).toNat < 1000000000 by omega) []
  have hoffset : readOffset? ['Z'] = some (0, []) := by decide
  unfold ofChars? chars
  simp only [List.append_assoc, List.cons_append, hdate, readClock?_clockChars hclock, hfraction,
    hoffset, Option.bind_eq_bind, Option.bind_some, Text.trimStart_nil, if_pos]
  exact ofLocal?_parts t

/-- **An instant survives its text.** -/
theorem ofText?_text (t : Instant) : ofText? t.text = some t := by
  rw [ofText?, text, String.toList_ofList]
  exact ofChars?_chars t

end Instant

end AccessControl
