/-
# What trimming leaves

A text is what trimming leaves of it with blanks before and after, and of characters none
of which is blank nothing is taken, whatever blanks stand around them.
-/
import AccessControl.Number.Digits
import AccessControl.Text.Blank
import Mathlib.Data.List.TakeWhile

namespace AccessControl.Text

theorem isBlank_eq_false_of_isDecimal {c : Char} (hc : Digits.isDecimal c = true) :
    isBlank c = false := by
  have hblanks : blanks.all (fun blank => !Digits.isDecimal blank) = true := by rfl
  cases hblank : isBlank c with
  | false => rfl
  | true =>
    have hnot := List.all_eq_true.1 hblanks c (List.contains_iff_mem.1 hblank)
    rw [hc] at hnot
    cases hnot

variable {before core after : List Char}

/-- Leading blanks are taken away. -/
theorem trimStart_blanks (hbefore : ∀ c ∈ before, isBlank c = true) (rest : List Char) :
    trimStart (before ++ rest) = trimStart rest := List.dropWhile_append_of_pos hbefore

/-- Nothing is taken away in front of a character that is not blank. -/
theorem trimStart_core (hsome : core ≠ []) (hcore : ∀ c ∈ core, isBlank c = false)
    (rest : List Char) : trimStart (core ++ rest) = core ++ rest := by
  cases core with
  | nil => exact absurd rfl hsome
  | cons c core => exact trimStart_cons (hcore c List.mem_cons_self) _

/-- The characters between blanks are what trimming leaves. -/
theorem trim_eq (hbefore : ∀ c ∈ before, isBlank c = true) (hsome : core ≠ [])
    (hcore : ∀ c ∈ core, isBlank c = false) (hafter : ∀ c ∈ after, isBlank c = true) :
    trim (before ++ core ++ after) = core := by
  have hback : trimStart (after.reverse ++ core.reverse) = core.reverse := by
    have hkept : trimStart (core.reverse ++ []) = core.reverse ++ [] :=
      trimStart_core (by simpa using hsome) (by simpa using hcore) []
    rw [trimStart_blanks (by simpa using hafter)]
    simpa using hkept
  rw [trim, List.append_assoc, trimStart_blanks hbefore, trimStart_core hsome hcore,
    List.reverse_append, hback, List.reverse_reverse]

/-- A text is what trimming leaves of it, with blanks around it. -/
theorem exists_blanks_trim (cs : List Char) :
    ∃ before after, cs = before ++ trim cs ++ after ∧ (∀ c ∈ before, isBlank c = true) ∧
      ∀ c ∈ after, isBlank c = true := by
  have hfront := List.takeWhile_append_dropWhile (p := isBlank) (l := cs)
  have hback := List.takeWhile_append_dropWhile (p := isBlank) (l := (trimStart cs).reverse)
  have hrest : trimStart cs
      = trim cs ++ ((trimStart cs).reverse.takeWhile isBlank).reverse := by
    rw [trim, ← List.reverse_append]
    exact (List.reverse_eq_iff.2 hback).symm
  refine ⟨cs.takeWhile isBlank, ((trimStart cs).reverse.takeWhile isBlank).reverse, ?_, ?_, ?_⟩
  · rw [List.append_assoc, ← hrest]
    exact hfront.symm
  · exact fun c hc => List.mem_takeWhile_imp hc
  · exact fun c hc => List.mem_takeWhile_imp (List.mem_reverse.1 hc)

end AccessControl.Text
