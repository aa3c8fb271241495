/-
# Printed values and records are read back

A reader takes the characters of a value back when it gives the value and leaves what
follows (`Reader.Takes`).  Texts and booleans are taken back, objects in key order whose
values are, and records whose fields are, in any order of the members.
-/
import AccessControl.Json.Record
import AccessControl.Proofs.Json.Series
import AccessControl.Proofs.Json.Texts

namespace AccessControl.Json

/-- A reader takes characters back as a value, and leaves what follows them. -/
def Reader.Takes {α : Type} (reader : Reader α) (nesting : Nat) (cs : List Char) (a : α) : Prop :=
  ∀ rest, Ends rest → reader nesting (cs ++ rest) = .ok (a, rest)

/-- The characters of a member of an object. -/
def memberChars (key : String) (cs : List Char) : List Char := textChars key ++ ':' :: cs

variable {α β δ : Type} {nesting : Nat} {cs : List Char} {a : α}

/-! ## Members -/

theorem starts_textChars_append (text : String) (rest : List Char) :
    Starts (textChars text ++ rest) :=
  ⟨'"', _, textChars_append text rest, by decide, by decide, by decide⟩

theorem starts_memberChars (key : String) (cs : List Char) : Starts (memberChars key cs) :=
  starts_textChars_append key (':' :: cs)

/-- The key of a printed member is read back. -/
theorem readKey_memberChars (key : String) (cs rest : List Char) :
    readKey (memberChars key cs ++ rest) = .ok (key, ':' :: (cs ++ rest)) := by
  rw [memberChars, List.append_assoc, readKey_textChars]
  rfl

theorem expectColon_cons (rest : List Char) : expectColon (':' :: rest) = .ok rest := rfl

/-- The members of an object as they are printed. -/
def printed (members : List (String × Value)) : List (List Char) :=
  members.map fun member => memberChars member.1 member.2.chars

theorem starts_printed (members : List (String × Value)) :
    ∀ part ∈ printed members, Starts part := by
  intro part hpart
  obtain ⟨member, -, rfl⟩ := List.mem_map.1 hpart
  exact starts_memberChars _ _

/-- Printed members have commas between them. -/
theorem membersChars_eq_joined (members : List (String × Value)) :
    Value.membersChars members = joined (printed members) := by
  induction members with
  | nil => rfl
  | cons member rest ih =>
    obtain ⟨key, value⟩ := member
    cases rest with
    | nil => rfl
    | cons next rest =>
      obtain ⟨key', value'⟩ := next
      rw [Value.membersChars, ih]
      · simp [printed, joined, memberChars]
      · exact List.cons_ne_nil _ _

/-- A printed object in front of other characters. -/
theorem chars_object_append (members : List (String × Value)) (rest : List Char) :
    (Value.object members).chars ++ rest = '{' :: (joined (printed members) ++ '}' :: rest) := by
  rw [Value.chars, membersChars_eq_joined]
  simp

/-! ## Values -/

/-- A text is taken back by every reader of texts. -/
theorem takes_textFor (expected text : String) (nesting : Nat) :
    (Reader.textFor expected).Takes nesting (textChars text) text := by
  intro rest _
  rw [textChars_append]
  show orUnreadable (readText? [] _) = _
  rw [readText?_textChars]
  rfl

/-- What has a text form is taken back when its text denotes it. -/
theorem takes_parsed {expected : String} {parse : String → Option α} {text : String}
    (h : parse text = some a) (nesting : Nat) :
    (Reader.parsed expected parse).Takes nesting (textChars text) a := by
  intro rest hrest
  unfold Reader.parsed
  simp only [takes_textFor expected text nesting rest hrest, bind, Except.bind, h]
  rfl

theorem optional_quote (reader : Reader α) (nesting : Nat) (cs : List Char) :
    reader.optional nesting ('"' :: cs) = (do
      let (value, cs) ← reader nesting ('"' :: cs)
      return (some value, cs)) := rfl

/-- A text does not start as `null` does, so it is taken back where `null` may stand too. -/
theorem takes_optional {reader : Reader α} {text : String}
    (hreader : reader.Takes nesting (textChars text) a) :
    (Reader.optional reader).Takes nesting (textChars text) (some a) := by
  intro rest hrest
  have hread := hreader rest hrest
  rw [textChars_append] at hread ⊢
  rw [optional_quote, hread]
  rfl

theorem takes_bool (b : Bool) (nesting : Nat) :
    Reader.value.Takes nesting (Value.bool b).chars (.bool b) := by
  intro rest _
  cases b <;> cases nesting <;> rfl

/-- The step that reads a member of a value. -/
def memberStep (nesting : Nat) (members : List (String × Value)) (cs : List Char) :
    Reading (List (String × Value) × List Char) := do
  let (key, cs) ← readKey cs
  let (value, cs) ← readValue nesting (← expectColon cs)
  return (Keyed.insert key value members, cs)

/-- An object is read member by member. -/
theorem readValue_brace (nesting : Nat) (cs : List Char) :
    readValue (nesting + 1) ('{' :: cs) = (do
      let (members, cs) ← readSeries (memberStep nesting) '}' [] cs
      return (.object members, cs)) := rfl

/-- A member whose value is taken back from some characters is bound to it. -/
theorem memberStep_memberChars {value : Value} (h : Reader.value.Takes nesting cs value)
    (members : List (String × Value)) (key : String) {rest : List Char} (hrest : Ends rest) :
    memberStep nesting members (memberChars key cs ++ rest)
      = .ok (Keyed.insert key value members, rest) := by
  have hvalue := h rest hrest
  unfold Reader.value at hvalue
  unfold memberStep
  simp only [readKey_memberChars, expectColon_cons, bind, Except.bind, hvalue]
  rfl

/-- Members whose values are taken back are bound one after the other. -/
theorem steps_printed {members : List (String × Value)}
    (hvalues : ∀ member ∈ members, Reader.value.Takes nesting member.2.chars member.2)
    (before : List (String × Value)) :
    Steps (memberStep nesting) before (printed members)
      (members.foldl (fun entries member => Keyed.insert member.1 member.2 entries) before) := by
  induction members generalizing before with
  | nil => exact .nil
  | cons member members ih =>
    obtain ⟨hvalue, hvalues⟩ := List.forall_mem_cons.1 hvalues
    exact .cons (fun _ => memberStep_memberChars hvalue before member.1) (ih hvalues _)

/-- An object in key order is taken back when the values of its members are. -/
theorem takes_object {members : List (String × Value)} (hincreasing : Keyed.Increasing members)
    (hvalues : ∀ member ∈ members, Reader.value.Takes nesting member.2.chars member.2) :
    Reader.value.Takes (nesting + 1) (Value.object members).chars (.object members) := by
  intro rest _
  have hsteps := steps_printed hvalues []
  -- members that are in order are bound to what they are
  have hmembers : members.foldl (fun entries member => Keyed.insert member.1 member.2 entries) []
      = members := Keyed.ofList_of_increasing hincreasing
  rw [hmembers] at hsteps
  have hseries := readSeries_joined (.inr rfl) hsteps (starts_printed members) rest
  rw [Reader.value, chars_object_append, readValue_brace, hseries]
  rfl

/-! ## Records -/

namespace Record

variable {record : Record δ α} {draft next : δ} {key : String} {get : δ → Option β}
  {set : δ → β → δ} {reader : Reader β} {b : β}

/-- A printed member takes a draft to the next one, whatever ends it. -/
def Advances (record : Record δ α) (nesting : Nat) (draft : δ) (key : String) (cs : List Char)
    (next : δ) : Prop :=
  ∀ rest, Ends rest →
    record.readMember nesting draft (memberChars key cs ++ rest) = .ok (next, rest)

/-- A member with the key of a field that the draft does not have yet is read into it. -/
theorem advances_of_field {field : Field δ} (hfield : record.field? key = some field)
    (hnew : field.isSet draft = false)
    (hread : ∀ rest, Ends rest → field.read draft nesting (cs ++ rest) = .ok (next, rest)) :
    record.Advances nesting draft key cs next := by
  intro rest hrest
  unfold readMember
  simp only [readKey_memberChars, hfield, expectColon_cons, bind, Except.bind, hnew,
    Bool.false_eq_true, if_false, hread rest hrest]

/-- The value of a field is read into the draft. -/
theorem read_required (key : String) (get : δ → Option β) (htakes : reader.Takes nesting cs b)
    (draft : δ) {rest : List Char} (hrest : Ends rest) :
    (Field.required key get set reader).read draft nesting (cs ++ rest)
      = .ok (set draft b, rest) := by
  simp only [Field.required, htakes rest hrest, bind, Except.bind]
  rfl

theorem advances_required (hfield : record.field? key = some (.required key get set reader))
    (hnew : get draft = none) (htakes : reader.Takes nesting cs b) :
    record.Advances nesting draft key cs (set draft b) :=
  advances_of_field hfield (Option.isSome_eq_false_iff.2 (Option.isNone_iff_eq_none.2 hnew))
    fun _ => read_required key get htakes draft

/-- Where an array may end makes no difference to a member. -/
theorem advances_trailing (hfield : record.field? key = some (.trailing key get set reader))
    (hnew : get draft = none) (htakes : reader.Takes nesting cs b) :
    record.Advances nesting draft key cs (set draft b) :=
  advances_of_field hfield (Option.isSome_eq_false_iff.2 (Option.isNone_iff_eq_none.2 hnew))
    fun _ => read_required key get htakes draft

theorem reader_brace (record : Record δ α) (nesting : Nat) (cs : List Char) :
    record.reader (nesting + 1) ('{' :: cs) = (do
      let (draft, cs) ← readSeries (record.readMember nesting) '}' record.blank cs
      return (← record.finish draft, cs)) := rfl

/-- A record is taken back when its members are read one after the other into a full draft. -/
theorem takes_reader {members : List (String × Value)} {draft : δ}
    (hmembers : Steps (record.readMember nesting) record.blank (printed members) draft)
    (hfinish : record.finish draft = .ok a) :
    record.reader.Takes (nesting + 1) (Value.object members).chars a := by
  intro rest _
  have hseries := readSeries_joined (.inr rfl) hmembers (starts_printed members) rest
  rw [chars_object_append, reader_brace, hseries]
  simp only [bind, Except.bind, hfinish]
  rfl

end Record

/-- A text that is taken back to its end denotes the value. -/
theorem readAll_of_takes {reader : Reader α} {text : String}
    (h : reader.Takes nestingLimit text.toList a) : reader.readAll text = .ok a := by
  have hread := h [] ends_nil
  rw [List.append_nil] at hread
  unfold Reader.readAll
  simp only [hread, bind, Except.bind]
  rfl

end AccessControl.Json
