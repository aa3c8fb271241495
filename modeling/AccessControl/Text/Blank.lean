/-
# White space

The characters that count as blank when a name or a setting is trimmed: the
twenty-five code points with the `White_Space` property.
-/
namespace AccessControl.Text

/-- The code points with the `White_Space` property, in increasing order. -/
def blanks : List Char :=
  ['\t', '\n', '\x0b', '\x0c', '\x0d', ' ', '\u0085', '\u00a0', '\u1680',
   '\u2000', '\u2001', '\u2002', '\u2003', '\u2004', '\u2005', '\u2006', '\u2007',
   '\u2008', '\u2009', '\u200a', '\u2028', '\u2029', '\u202f', '\u205f', '\u3000']

/-- A character is blank when it has the `White_Space` property. -/
def isBlank (c : Char) : Bool := blanks.contains c

/-- The characters after the leading blanks. -/
def trimStart (cs : List Char) : List Char := cs.dropWhile isBlank

/-- The characters between the leading and the trailing blanks. -/
def trim (cs : List Char) : List Char := (trimStart (trimStart cs).reverse).reverse

/-- A text is blank when it holds nothing but blanks. -/
def IsBlank (text : String) : Prop := ∀ c ∈ text.toList, isBlank c = true

instance (text : String) : Decidable (IsBlank text) :=
  List.decidableBAll (fun c => isBlank c = true) text.toList

/-! ## Small facts -/

example : blanks.length = 25 := rfl

@[simp]
theorem trimStart_nil : trimStart [] = [] := rfl

theorem trimStart_cons {c : Char} (hc : isBlank c = false) (rest : List Char) :
    trimStart (c :: rest) = c :: rest := by
  rw [trimStart, List.dropWhile_cons, hc]
  rfl

end AccessControl.Text
