/-
# Identifiers

Identifiers of 128 bits.  They are written as 32 lower-case hexadecimal digits in
hyphenated groups; braces, a `urn:uuid:` in front, capitals and a form without
hyphens are read as well.  Roles and principals have identifiers of their own
types, so that one is never taken for the other.
-/
import AccessControl.Number.Digits

namespace AccessControl

/-- An identifier of 128 bits. -/
structure Identifier where
  value : BitVec 128
  deriving DecidableEq, Repr

namespace Identifier

/-- Identifiers are ordered as numbers. -/
instance : LT Identifier := ⟨fun a b => a.value.toNat < b.value.toNat⟩

instance : DecidableLT Identifier := fun a b =>
  inferInstanceAs (Decidable (a.value.toNat < b.value.toNat))

/-- The identifier with a given number. -/
def ofNat (n : Nat) : Identifier := ⟨BitVec.ofNat 128 n⟩

/-! ## Writing -/

/-- The sizes of the groups of digits. -/
def groups : List Nat := [8, 4, 4, 4, 12]

/-- Characters in groups, with hyphens between them. -/
def hyphenate : List Nat → List Char → List Char
  | [], _ => []
  | [size], cs => cs.take size
  | size :: sizes, cs => cs.take size ++ '-' :: hyphenate sizes (cs.drop size)

/-- The digits of an identifier. -/
def digits (id : Identifier) : List Char := Digits.fixed 16 32 id.value.toNat

/-- The written form of an identifier. -/
def chars (id : Identifier) : List Char := hyphenate groups id.digits

/-- The text of an identifier. -/
def text (id : Identifier) : String := String.ofList id.chars

/-! ## Reading -/

/-- The characters of hyphenated groups of the given sizes, without the hyphens. -/
def ungroup? : List Nat → List Char → Option (List Char)
  | [], cs => if cs = [] then some [] else none
  | [size], cs => if cs.length = size then some cs else none
  | size :: sizes, cs =>
    match cs.drop size with
    | '-' :: rest => (ungroup? sizes rest).map (cs.take size ++ ·)
    | _ => none

/-- The identifier with the given digits. -/
def ofDigits? (cs : List Char) : Option Identifier :=
  if cs.length = 32 then (Digits.value? 16 cs).map ofNat else none

/-- The identifier written in hyphenated groups. -/
def ofHyphenated? (cs : List Char) : Option Identifier := (ungroup? groups cs).bind ofDigits?

/-- What may stand in front of hyphenated groups, in any case. -/
def scheme : List Char := ['u', 'r', 'n', ':', 'u', 'u', 'i', 'd', ':']

/-- The identifier written in one of the accepted forms. -/
def ofChars? (cs : List Char) : Option Identifier :=
  if cs.length = 32 then ofDigits? cs
  else if cs.head? = some '{' && cs.getLast? = some '}' then ofHyphenated? (cs.drop 1).dropLast
  else if (cs.take scheme.length).map Char.toLower = scheme then
    ofHyphenated? (cs.drop scheme.length)
  else ofHyphenated? cs

/-- The identifier that a text denotes. -/
def ofText? (text : String) : Option Identifier := ofChars? text.toList

example : (ofText? "URN:UUID:67E55044-10B1-426F-9247-BB680E5FE0C8").map text
    = some "67e55044-10b1-426f-9247-bb680e5fe0c8" := by decide +kernel
example : ofText? "\x7b67e5504410b1426f9247bb680e5fe0c8\x7d" = none := by decide +kernel

end Identifier

/-- The identifier of a role. -/
structure RoleId where
  id : Identifier
  deriving DecidableEq, Repr

/-- The identifier of a principal. -/
structure PrincipalId where
  id : Identifier
  deriving DecidableEq, Repr

instance : LT RoleId := ⟨fun a b => a.id < b.id⟩
instance : DecidableLT RoleId := fun a b => inferInstanceAs (Decidable (a.id < b.id))
instance : LT PrincipalId := ⟨fun a b => a.id < b.id⟩
instance : DecidableLT PrincipalId := fun a b => inferInstanceAs (Decidable (a.id < b.id))

/-- The text of a role's identifier. -/
def RoleId.text (roleId : RoleId) : String := roleId.id.text

/-- The text of a principal's identifier. -/
def PrincipalId.text (principalId : PrincipalId) : String := principalId.id.text

/-- The role identifier that a text denotes. -/
def RoleId.ofText? (text : String) : Option RoleId := (Identifier.ofText? text).map RoleId.mk

/-- The principal identifier that a text denotes. -/
def PrincipalId.ofText? (text : String) : Option PrincipalId :=
  (Identifier.ofText? text).map PrincipalId.mk

end AccessControl
