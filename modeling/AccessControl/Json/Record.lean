/-
# Records in JSON

A record is read from an object, in any order of its members, or from an array
that holds its fields in order.  What has been read so far is kept in a draft; a
field that is still missing is found out only when the record ends.
-/
import AccessControl.Json.Reader

namespace AccessControl.Json

/-- One field of a record whose unfinished form is `δ`. -/
structure Field (δ : Type) where
  /-- The key of its member. -/
  name : String
  /-- Whether a draft has it already. -/
  isSet : δ → Bool
  /-- Reads its value into a draft. -/
  read : δ → Reader δ
  /-- Whether an array may end before it. -/
  mayBeMissing : Bool

/-- How a record `α` is read by way of a draft `δ`. -/
structure Record (δ α : Type) where
  /-- The name that errors use. -/
  name : String
  /-- The fields, in the order in which an array holds them. -/
  fields : List (Field δ)
  /-- Whether members with other keys are refused. -/
  strict : Bool
  /-- The draft without any field. -/
  blank : δ
  /-- The record of a draft, or the first field that is missing. -/
  finish : δ → Reading α

/-- The field `name`, kept in a draft where `get` and `set` say. -/
def Field.required {δ β : Type} (name : String) (get : δ → Option β) (set : δ → β → δ)
    (reader : Reader β) : Field δ where
  name := name
  isSet draft := (get draft).isSome
  read draft nesting cs := do
    let (value, cs) ← reader nesting cs
    return (set draft value, cs)
  mayBeMissing := false

/-- As `Field.required`, for a field at whose place an array may have ended. -/
def Field.trailing {δ β : Type} (name : String) (get : δ → Option β) (set : δ → β → δ)
    (reader : Reader β) : Field δ :=
  { Field.required name get set reader with mayBeMissing := true }

/-- The value of a field that has to be there. -/
def require {β : Type} (name : String) (value : Option β) : Reading β :=
  value.elim (.error (.missingField name)) .ok

namespace Record

variable {δ α : Type}

/-- The field with a given key. -/
def field? (record : Record δ α) (key : String) : Option (Field δ) :=
  record.fields.find? fun field => field.name = key

/-- One member of an object, read into a draft. -/
def readMember (record : Record δ α) (nesting : Nat) (draft : δ) (cs : List Char) :
    Reading (δ × List Char) := do
  let (key, cs) ← readKey cs
  match record.field? key with
  | some field =>
    if field.isSet draft then throw (.duplicateField key)
    else field.read draft nesting (← expectColon cs)
  | none =>
    if record.strict then throw (.unknownField key (record.fields.map Field.name))
    else
      let (_, cs) ← skipValue (← expectColon cs)
      return (draft, cs)

/-- The remaining fields of an array, of which `index` items have been read, and its end. -/
def readItems (record : Record δ α) (nesting : Nat) :
    (fields : List (Field δ)) → (index : Nat) → δ → List Char → Reading (δ × List Char)
  | [], _, draft, cs =>
    match skipSpace cs with
    | ']' :: cs => .ok (draft, cs)
    | _ => .error .unreadable
  | field :: fields, index, draft, cs =>
    match skipSpace cs with
    | [] => .error .unreadable
    | c :: rest =>
      if c = ']' then
        if field.mayBeMissing then record.readItems nesting fields (index + 1) draft (c :: rest)
        else .error (.invalidLength index record.name record.fields.length)
      else if index = 0 then do
        let (draft, cs) ← field.read draft nesting (c :: rest)
        record.readItems nesting fields (index + 1) draft cs
      else if c = ',' then do
        let (draft, cs) ← field.read draft nesting rest
        record.readItems nesting fields (index + 1) draft cs
      else .error .unreadable

/-- Reads a record. -/
def reader (record : Record δ α) : Reader α := fun nesting cs =>
  match skipSpace cs, nesting with
  | '{' :: _, 0 => .error .unreadable
  | '[' :: _, 0 => .error .unreadable
  | '{' :: cs, nesting + 1 => do
    let (draft, cs) ← readSeries (record.readMember nesting) '}' record.blank cs
    return (← record.finish draft, cs)
  | '[' :: cs, nesting + 1 => do
    let (draft, cs) ← record.readItems nesting record.fields 0 record.blank cs
    return (← record.finish draft, cs)
  | cs, _ => .error (mismatch ("struct " ++ record.name) cs)

/-- The record that a text denotes. -/
def ofText (record : Record δ α) (text : String) : Reading α := Reader.readAll record.reader text

end Record

end AccessControl.Json
