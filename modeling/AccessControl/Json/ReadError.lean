/-
# Why a JSON text cannot be read

The causes for which a text does not read as the wanted type, and their wording.
A cause that concerns the shape of the text itself has no detail.
-/
import AccessControl.Json.Printer
import AccessControl.Text.Quoted

namespace AccessControl.Json

/-- What stood where something else was expected. -/
inductive Found where
  | null
  | bool (b : Bool)
  | number (n : Number)
  | string (text : String)
  | sequence
  | map
  deriving DecidableEq, Repr

/-- How a message names what was found. -/
def Found.describe : Found → String
  | .null => "null"
  | .bool b => "boolean `" ++ (if b then "true" else "false") ++ "`"
  | .number (.whole n) => "integer `" ++ String.ofList (Number.whole n).chars ++ "`"
  | .number (.double d) => "floating point `" ++ String.ofList (Number.double d).chars ++ "`"
  | .string text => "string " ++ Text.quoted text
  | .sequence => "sequence"
  | .map => "map"

/-- Why a text does not read as the wanted type. -/
inductive ReadError where
  /-- A value of another kind than the expected one. -/
  | invalidType (found : Found) (expected : String)
  /-- An array of `count` items in place of the record `record` with `size` fields. -/
  | invalidLength (count : Nat) (record : String) (size : Nat)
  | missingField (name : String)
  | unknownField (name : String) (known : List String)
  | duplicateField (name : String)
  | unknownVariant (name : String) (known : List String)
  /-- A text that is no JSON, or an identifier or instant that cannot be read. -/
  | unreadable
  deriving DecidableEq, Repr

/-- A name between backticks. -/
def ticked (name : String) : String := "`" ++ name ++ "`"

/-- The names that would have been accepted. -/
def oneOf : List String → String
  | [a] => ticked a
  | [a, b] => ticked a ++ " or " ++ ticked b
  | names => "one of " ++ ", ".intercalate (names.map ticked)

/-- The wording of each cause. -/
def ReadError.message : ReadError → String
  | .invalidType found expected => "invalid type: " ++ found.describe ++ ", expected " ++ expected
  | .invalidLength count record size =>
    "invalid length " ++ toString count ++ ", expected struct " ++ record ++ " with " ++
      toString size ++ " elements"
  | .missingField name => "missing field " ++ ticked name
  | .unknownField name known => "unknown field " ++ ticked name ++ ", expected " ++ oneOf known
  | .duplicateField name => "duplicate field " ++ ticked name
  | .unknownVariant name known => "unknown variant " ++ ticked name ++ ", expected " ++ oneOf known
  | .unreadable => "unreadable"

end AccessControl.Json
