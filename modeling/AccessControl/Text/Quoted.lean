/-
# Quoted text

How a message shows a text that it found where something else was expected: in
double quotes, with quotes, backslashes and the common controls escaped, and with
the characters of `Text.numberedRanges` given by their code point.
-/
import AccessControl.Number.Digits
import AccessControl.Text.Numbered

namespace AccessControl.Text

/-- One character inside a quoted text. -/
def quotedChar (c : Char) : List Char :=
  match c with
  | '"' => ['\\', '"']
  | '\\' => ['\\', '\\']
  | '\n' => ['\\', 'n']
  | '\r' => ['\\', 'r']
  | '\t' => ['\\', 't']
  | '\x00' => ['\\', '0']
  | c => if isNumbered c then '\\' :: 'u' :: '{' :: Nat.toDigits 16 c.toNat ++ ['}'] else [c]

/-- A text in double quotes, as a message shows it. -/
def quoted (text : String) : String :=
  String.ofList ('"' :: text.toList.flatMap quotedChar ++ ['"'])

/-! ## Where a quoted text ends -/

/-- What follows the first quote that no backslash escapes. -/
def afterQuote? : List Char → Option (List Char)
  | [] => none
  | '"' :: rest => some rest
  | '\\' :: _ :: rest => afterQuote? rest
  | _ :: rest => afterQuote? rest

/-- Characters other than quotes and backslashes are passed over. -/
theorem afterQuote?_append {cs : List Char} (hcs : ∀ c ∈ cs, c ≠ '"' ∧ c ≠ '\\')
    (rest : List Char) : afterQuote? (cs ++ rest) = afterQuote? rest := by
  induction cs with
  | nil => rfl
  | cons c cs ih =>
    obtain ⟨⟨hquote, hbackslash⟩, hcs⟩ := List.forall_mem_cons.1 hcs
    rw [List.cons_append, afterQuote?, ih hcs]
    · exact hquote
    · rintro _ _ rfl
      exact absurd rfl hbackslash

/-- The number of a character in braces is passed over. -/
theorem afterQuote?_number (n : Nat) (rest : List Char) :
    afterQuote? ('{' :: Nat.toDigits 16 n ++ '}' :: rest) = afterQuote? rest := by
  have key : ∀ d : Fin 16, Nat.digitChar d ≠ '"' ∧ Nat.digitChar d ≠ '\\' := by decide
  have hdigits : ∀ c ∈ Nat.toDigits 16 n, c ≠ '"' ∧ c ≠ '\\' := by
    intro c hc
    obtain ⟨d, hd, rfl⟩ := Digits.exists_digitChar_of_mem_toDigits (by decide) hc
    exact key ⟨d, hd⟩
  show afterQuote? (Nat.toDigits 16 n ++ '}' :: rest) = afterQuote? rest
  rw [afterQuote?_append hdigits]
  rfl

/-- What a character becomes is passed over, as its quotes follow a backslash. -/
theorem afterQuote?_quotedChar (c : Char) (rest : List Char) :
    afterQuote? (quotedChar c ++ rest) = afterQuote? rest := by
  unfold quotedChar
  split
  case h_7 hquote hbackslash _ _ _ _ =>
    split
    · have hnumber := afterQuote?_number c.toNat rest
      simpa [afterQuote?] using hnumber
    · exact afterQuote?_append (by simpa using ⟨hquote, hbackslash⟩) rest
  all_goals rfl

/-- A quoted text ends at the first quote that no backslash escapes, whatever comes after it. -/
theorem exists_quoted_append (text : String) (rest : List Char) :
    ∃ inside, (quoted text).toList ++ rest = '"' :: inside ∧ afterQuote? inside = some rest := by
  have hinside : ∀ cs : List Char,
      afterQuote? (cs.flatMap quotedChar ++ '"' :: rest) = some rest := by
    intro cs
    induction cs with
    | nil => rfl
    | cons c cs ih =>
      rw [List.flatMap_cons, List.append_assoc, afterQuote?_quotedChar, ih]
  refine ⟨text.toList.flatMap quotedChar ++ '"' :: rest, ?_, hinside text.toList⟩
  rw [quoted, String.toList_ofList, List.append_assoc]
  rfl

example : (quoted "a\t\"\u00a0'é").toList = "\"a\\t\\\"\\u\x7ba0\x7d'é\"".toList := by
  decide +kernel

end AccessControl.Text
