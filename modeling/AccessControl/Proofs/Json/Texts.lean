/-
# Texts survive JSON

A text in quotes is read back character by character, whatever follows the closing
quote (`readText?_escaped`): an escape that is printed is one that is read, and a
character that is printed as it is may stand in a text.
-/
import AccessControl.Json.Reader

namespace AccessControl.Json

/-! ## Characters -/

/-- A control character is read from its four digits. -/
theorem readText?_unicode {c : Char} (hc : c.toNat < 0x20) (before rest : List Char) :
    readText? before ('\\' :: 'u' :: (Digits.fixed 16 4 c.toNat ++ rest))
      = readText? (c :: before) rest := by
  have hvalue : Digits.value? 16 (Digits.fixed 16 4 c.toNat) = some c.toNat := by
    rw [Digits.value?_fixed (by decide) (by decide), Nat.mod_eq_of_lt]
    exact Nat.lt_of_lt_of_le hc (by decide)
  have hlength := Digits.length_fixed 16 4 c.toNat
  generalize Digits.fixed 16 4 c.toNat = digits at *
  match digits, hlength with
  | [a, b, d, e], _ =>
    have hhigh : isHighSurrogate c.toNat = false := by
      simp [isHighSurrogate]
      omega
    have hlow : isLowSurrogate c.toNat = false := by
      simp [isLowSurrogate]
      omega
    simp only [List.cons_append, List.nil_append, readText?, unit?, hvalue, hhigh, hlow,
      Char.ofNat_toNat]
    rfl

/-- A character that may stand in a text as it is stands for itself. -/
theorem readText?_plain {c : Char} (hquote : c ≠ '"') (hescape : c ≠ '\\')
    (hc : 0x20 ≤ c.toNat) (before rest : List Char) :
    readText? before (c :: rest) = readText? (c :: before) rest := by
  have hplain : isPlain c = true := decide_eq_true hc
  rw [readText?.eq_def]
  split <;> simp_all

/-- A printed character is read back. -/
theorem readText?_escapedChar (c : Char) (before rest : List Char) :
    readText? before (escapedChar c ++ rest) = readText? (c :: before) rest := by
  unfold escapedChar
  split
  -- the seven short escapes
  iterate 7 rfl
  rename_i hquote hescape _ _ _ _ _
  split
  · rename_i hc
    exact readText?_unicode hc before rest
  · rename_i hc
    exact readText?_plain hquote hescape (Nat.le_of_not_lt hc) before rest

/-! ## Texts -/

/-- The characters of a text are read back up to the closing quote. -/
theorem readText?_escaped (cs before rest : List Char) :
    readText? before (cs.flatMap escapedChar ++ '"' :: rest)
      = some (String.ofList (before.reverse ++ cs), rest) := by
  induction cs generalizing before with
  | nil => simp [readText?]
  | cons c cs ih =>
    rw [List.flatMap_cons, List.append_assoc, readText?_escapedChar, ih, List.reverse_cons,
      List.append_assoc]
    rfl

/-- A printed text is read back after its opening quote. -/
theorem readText?_textChars (text : String) (rest : List Char) :
    readText? [] (text.toList.flatMap escapedChar ++ '"' :: rest) = some (text, rest) := by
  rw [readText?_escaped, List.reverse_nil, List.nil_append, String.ofList_toList]

/-- A printed text in front of other characters. -/
theorem textChars_append (text : String) (rest : List Char) :
    textChars text ++ rest = '"' :: (text.toList.flatMap escapedChar ++ '"' :: rest) := by
  simp [textChars]

/-- A printed key is read back. -/
theorem readKey_textChars (key : String) (rest : List Char) :
    readKey (textChars key ++ rest) = .ok (key, rest) := by
  rw [textChars_append]
  show orUnreadable (readText? [] _) = _
  rw [readText?_textChars]
  rfl

end AccessControl.Json
