/-
# Reading JSON

Readers take the characters of a text from the left and stop at the first thing
that is wrong, so of two problems the earlier one is reported.  A reader is given
the number of brackets that may still be opened; what is passed over unread may
be nested to any depth.
-/
import AccessControl.Json.Lexeme
import AccessControl.Json.ReadError

namespace AccessControl.Json

/-- What reading gives, or why it fails. -/
abbrev Reading := Except ReadError

/--
Reads an `α` within a number of further nesting levels, and gives the characters
that follow it.
-/
abbrev Reader (α : Type) := (nesting : Nat) → List Char → Reading (α × List Char)

/-- How deeply the brackets of a text may be nested. -/
def nestingLimit : Nat := 127

/-- What a lexeme function gives, or the text is unreadable. -/
def orUnreadable {α : Type} (result : Option α) : Reading α := result.elim (.error .unreadable) .ok

/-! ## Brackets -/

/--
The parts between two brackets after the first, separated by commas, and the
closing bracket.  The state says what the parts read so far have come to.
-/
def readParts {σ : Type} (step : σ → List Char → Reading (σ × List Char)) (close : Char) :
    (limit : Nat) → σ → List Char → Reading (σ × List Char)
  | 0, _, _ => .error .unreadable
  | limit + 1, state, cs => do
    let (state, cs) ← step state cs
    match skipSpace cs with
    | ',' :: cs => readParts step close limit state cs
    | c :: cs => if c = close then return (state, cs) else throw .unreadable
    | [] => throw .unreadable

/--
What stands behind an opening bracket, up to the closing one.  Each part takes at
least one character, so there are no more parts than characters.
-/
def readSeries {σ : Type} (step : σ → List Char → Reading (σ × List Char)) (close : Char)
    (state : σ) (cs : List Char) : Reading (σ × List Char) :=
  match skipSpace cs with
  | c :: rest =>
    if c = close then .ok (state, rest) else readParts step close cs.length state (c :: rest)
  | [] => .error .unreadable

/-- The key of a member. -/
def readKey (cs : List Char) : Reading (String × List Char) :=
  match skipSpace cs with
  | '"' :: cs => orUnreadable (readText? [] cs)
  | _ => .error .unreadable

/-- The characters after the colon between a key and its value. -/
def expectColon (cs : List Char) : Reading (List Char) :=
  match skipSpace cs with
  | ':' :: cs => .ok cs
  | _ => .error .unreadable

/-- The characters after a word. -/
def expectWord (word : List Char) (cs : List Char) : Reading (List Char) :=
  orUnreadable (word.isPrefixOf? cs)

/-! ## Values -/

/-- A value that is neither an array nor an object; the blanks before it have been passed. -/
def readScalar : List Char → Reading (Value × List Char)
  | 'n' :: cs => do return (.null, ← expectWord ['u', 'l', 'l'] cs)
  | 't' :: cs => do return (.bool true, ← expectWord ['r', 'u', 'e'] cs)
  | 'f' :: cs => do return (.bool false, ← expectWord ['a', 'l', 's', 'e'] cs)
  | '"' :: cs => do
    let (text, cs) ← orUnreadable (readText? [] cs)
    return (.string text, cs)
  | cs => do
    let (number, cs) ← orUnreadable (readNumber? cs)
    return (.number number, cs)

/-- Any value.  Its objects hold one value per key, the last one written, in key order. -/
def readValue : Reader Value
  | 0, cs => readScalar (skipSpace cs)
  | nesting + 1, cs =>
    match skipSpace cs with
    | '[' :: cs => do
      let step := fun (items : List Value) cs => do
        let (item, cs) ← readValue nesting cs
        return (item :: items, cs)
      let (items, cs) ← readSeries step ']' [] cs
      return (.array items.reverse, cs)
    | '{' :: cs => do
      let step := fun (members : List (String × Value)) cs => do
        let (key, cs) ← readKey cs
        let (value, cs) ← readValue nesting (← expectColon cs)
        return (Keyed.insert key value members, cs)
      let (members, cs) ← readSeries step '}' [] cs
      return (.object members, cs)
    | cs => readScalar cs

/-! ## Passing over a value -/

/-- Passes over a value that is neither an array nor an object. -/
def skipScalar : List Char → Reading (Unit × List Char)
  | 'n' :: cs => do return ((), ← expectWord ['u', 'l', 'l'] cs)
  | 't' :: cs => do return ((), ← expectWord ['r', 'u', 'e'] cs)
  | 'f' :: cs => do return ((), ← expectWord ['a', 'l', 's', 'e'] cs)
  | '"' :: cs => do return ((), ← orUnreadable (skipText? cs))
  | cs => do
    let (_, cs) ← orUnreadable (readNumeral? cs)
    return ((), cs)

/-- Passes over a value whose brackets are nested at most `depth` deep. -/
def skipNested : (depth : Nat) → List Char → Reading (Unit × List Char)
  | 0, cs => skipScalar (skipSpace cs)
  | depth + 1, cs =>
    match skipSpace cs with
    | '[' :: cs => readSeries (fun _ cs => skipNested depth cs) ']' () cs
    | '{' :: cs =>
      let step := fun _ cs => do
        match skipSpace cs with
        | '"' :: cs => skipNested depth (← expectColon (← orUnreadable (skipText? cs)))
        | _ => throw .unreadable
      readSeries step '}' () cs
    | cs => skipScalar cs

/-- Passes over any value: its brackets are nested no deeper than it is long. -/
def skipValue (cs : List Char) : Reading (Unit × List Char) := skipNested cs.length cs

/-! ## Wanted types -/

/-- What stands at the front of a text, seen only as far as needed to name it. -/
def found? : List Char → Option Found
  | '[' :: _ => some .sequence
  | '{' :: _ => some .map
  | cs =>
    match readScalar cs with
    | .ok (.null, _) => some .null
    | .ok (.bool b, _) => some (.bool b)
    | .ok (.number n, _) => some (.number n)
    | .ok (.string text, _) => some (.string text)
    | _ => none

/-- The error for a value of another kind than the expected one. -/
def mismatch (expected : String) (cs : List Char) : ReadError :=
  (found? cs).elim .unreadable (.invalidType · expected)

namespace Reader

/-- Any value. -/
def value : Reader Value := readValue

/-- A text; an error calls the wanted value `expected`. -/
def textFor (expected : String) : Reader String := fun _ cs =>
  match skipSpace cs with
  | '"' :: cs => orUnreadable (readText? [] cs)
  | cs => .error (mismatch expected cs)

/-- A text. -/
def text : Reader String := textFor "a string"

/-- A value with a text form. -/
def parsed {α : Type} (expected : String) (parse : String → Option α) : Reader α :=
  fun nesting cs => do
  let (text, cs) ← textFor expected nesting cs
  return (← orUnreadable (parse text), cs)

/-- A value that may be `null`. -/
def optional {α : Type} (reader : Reader α) : Reader (Option α) := fun nesting cs =>
  match skipSpace cs with
  | 'n' :: cs => do return (none, ← expectWord ['u', 'l', 'l'] cs)
  | cs => do
    let (value, cs) ← reader nesting cs
    return (some value, cs)

/-- A list in brackets. -/
def list {α : Type} (item : Reader α) : Reader (List α) := fun nesting cs =>
  match skipSpace cs, nesting with
  | '[' :: _, 0 => .error .unreadable
  | '[' :: cs, nesting + 1 => do
    let step := fun (items : List α) cs => do
      let (x, cs) ← item nesting cs
      return (x :: items, cs)
    let (items, cs) ← readSeries step ']' [] cs
    return (items.reverse, cs)
  | cs, _ => .error (mismatch "a sequence" cs)

/-- The value that bears a name, or the error that no value bears it. -/
def named {α : Type} (names : List (String × α)) (name : String) : Reading α :=
  match names.lookup name with
  | some value => .ok value
  | none => .error (.unknownVariant name (names.map Prod.fst))

/-- One of some named values: its name, or an object with that name as its only key and `null`. -/
def oneOf {α : Type} (names : List (String × α)) : Reader α := fun nesting cs =>
  match skipSpace cs, nesting with
  | '"' :: cs, _ => do
    let (name, cs) ← orUnreadable (readText? [] cs)
    return (← named names name, cs)
  | '{' :: _, 0 => .error .unreadable
  | '{' :: cs, _ + 1 => do
    let (name, cs) ← readKey cs
    let value ← named names name
    let cs ← expectColon cs
    match skipSpace cs with
    | 'n' :: cs =>
      match skipSpace (← expectWord ['u', 'l', 'l'] cs) with
      | '}' :: cs => return (value, cs)
      | _ => throw .unreadable
    | cs => throw (mismatch "unit" cs)
  | _, _ => .error .unreadable

/-- Reads a whole text: nothing but blanks may follow. -/
def readAll {α : Type} (reader : Reader α) (text : String) : Reading α := do
  let (value, rest) ← reader nestingLimit text.toList
  if skipSpace rest = [] then return value else throw .unreadable

end Reader

/-- The value that a text denotes. -/
def Value.ofText (text : String) : Reading Value := Reader.value.readAll text

end AccessControl.Json
