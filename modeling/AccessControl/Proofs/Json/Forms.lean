/-
# The forms of a document

A value may be written with the members of each of its objects in any order (`Written`).  A
text may also have an intruder, one more member anywhere in one of its objects (`Intruded`);
what its value is does not matter, it need not even be one.
-/
import AccessControl.Proofs.Json.Refusals

namespace AccessControl.Json

variable {value : Value} {name : String} {cs text : List Char} {path : List String}
  {items : List Value} {members : List (String × Value)}

/-! ## Written values -/

/-- Characters of a value: as it is printed, but for the order of the members of its objects. -/
inductive Written : Value → List Char → Prop where
  | scalar {value : Value} (hvalue : value.IsScalar) : Written value value.chars
  | array {items : List Value} {parts : List (List Char)}
      (hitems : List.Forall₂ Written items parts) : Written (.array items) (arrayChars parts)
  -- the keys stand apart, as a conjunction under `Forall₂` is no positive occurrence
  | object {members others : List (String × Value)} {parts : List (String × List Char)}
      (hperm : others.Perm members) (hkeys : others.map Prod.fst = parts.map Prod.fst)
      (hvalues : List.Forall₂ (fun member part => Written member.2 part.2) others parts) :
      Written (.object members) (objectChars parts)

/-- Members with their keys, each with characters of its value. -/
def WrittenMembers (members : List (String × Value)) (parts : List (String × List Char)) : Prop :=
  List.Forall₂ (fun member part => member.1 = part.1 ∧ Written member.2 part.2) members parts

/-- Characters of a value with one more member of some object in it: its name is `name`, its
value is written as `cs`, and `path` are the keys that lead to the object. -/
inductive Intruded (name : String) (cs : List Char) :
    List String → Value → List Char → Prop where
  | here {members others : List (String × Value)} {before after : List (String × List Char)}
      (hperm : others.Perm members) (hmembers : WrittenMembers others (before ++ after)) :
      Intruded name cs [] (.object members) (objectChars (before ++ (name, cs) :: after))
  | member {members front back : List (String × Value)} {before after : List (String × List Char)}
      {key : String} {value : Value} {path : List String} {text : List Char}
      (hperm : (front ++ (key, value) :: back).Perm members)
      (hfront : WrittenMembers front before) (hback : WrittenMembers back after)
      (hvalue : Intruded name cs path value text) :
      Intruded name cs (key :: path) (.object members)
        (objectChars (before ++ (key, text) :: after))
  | item {front back : List Value} {item : Value} {before after : List (List Char)}
      {path : List String} {text : List Char}
      (hfront : List.Forall₂ Written front before) (hback : List.Forall₂ Written back after)
      (hitem : Intruded name cs path item text) :
      Intruded name cs path (.array (front ++ item :: back)) (arrayChars (before ++ text :: after))

/-! ## What is written -/

theorem writtenMembers_iff {parts : List (String × List Char)} :
    WrittenMembers members parts ↔ members.map Prod.fst = parts.map Prod.fst ∧
      List.Forall₂ (fun member part => Written member.2 part.2) members parts := by
  unfold WrittenMembers
  induction members generalizing parts with
  | nil => cases parts <;> simp
  | cons member members ih =>
    cases parts with
    | nil => simp
    | cons part parts =>
      rw [List.forall₂_cons, List.forall₂_cons, ih, List.map_cons, List.map_cons, List.cons.injEq]
      tauto

theorem written_scalar_iff (hvalue : value.IsScalar) : Written value text ↔ text = value.chars := by
  constructor
  · intro h
    cases h with
    | scalar _ => rfl
    | array _ => exact hvalue.elim
    | object _ _ _ => exact hvalue.elim
  · rintro rfl
    exact .scalar hvalue

theorem written_array_iff :
    Written (.array items) text ↔
      ∃ parts, List.Forall₂ Written items parts ∧ text = arrayChars parts := by
  constructor
  · intro h
    cases h with
    | scalar hvalue => exact hvalue.elim
    | array hitems => exact ⟨_, hitems, rfl⟩
  · rintro ⟨parts, hitems, rfl⟩
    exact .array hitems

theorem written_object_iff :
    Written (.object members) text ↔
      ∃ others parts, others.Perm members ∧ WrittenMembers others parts ∧
        text = objectChars parts := by
  constructor
  · intro h
    cases h with
    | scalar hvalue => exact hvalue.elim
    | object hperm hkeys hvalues => exact ⟨_, _, hperm, writtenMembers_iff.2 ⟨hkeys, hvalues⟩, rfl⟩
  · rintro ⟨others, parts, hperm, hmembers, rfl⟩
    obtain ⟨hkeys, hvalues⟩ := writtenMembers_iff.1 hmembers
    exact .object hperm hkeys hvalues

/-- What is written starts neither with a blank nor with a closing bracket. -/
theorem Written.starts (h : Written value text) : Starts text := by
  cases h with
  | scalar _ => exact starts_chars _
  | array _ => exact ⟨_, _, rfl, by decide, by decide, by decide⟩
  | object _ _ _ => exact ⟨_, _, rfl, by decide, by decide, by decide⟩

theorem Intruded.starts (h : Intruded name cs path value text) : Starts text := by
  cases h <;> exact ⟨_, _, rfl, by decide, by decide, by decide⟩

/-- A value is written as it is printed. -/
theorem written_chars (value : Value) : Written value value.chars := by
  induction value using Value.inductionOn with
  | scalar value hvalue => exact .scalar hvalue
  | array items ih =>
    rw [chars_array]
    refine .array (List.forall₂_map_right_iff.2 ?_)
    exact List.forall₂_same.2 ih
  | object members ih =>
    rw [chars_object]
    refine written_object_iff.2 ⟨members, rendered members, .refl _, ?_, rfl⟩
    refine List.forall₂_map_right_iff.2 (List.forall₂_same.2 fun member hmember => ?_)
    exact ⟨rfl, ih member hmember⟩

theorem WrittenMembers.map_fst {parts : List (String × List Char)}
    (h : WrittenMembers members parts) : members.map Prod.fst = parts.map Prod.fst :=
  (writtenMembers_iff.1 h).1

/-- Each of the written members is one of the members. -/
theorem WrittenMembers.exists_of_mem {parts : List (String × List Char)}
    (h : WrittenMembers members parts) {part : String × List Char} (hpart : part ∈ parts) :
    ∃ member ∈ members, member.1 = part.1 ∧ Written member.2 part.2 := by
  unfold WrittenMembers at h
  induction h with
  | nil => cases hpart
  | @cons member first members parts hfirst _ ih =>
    rcases List.mem_cons.1 hpart with rfl | hpart
    · exact ⟨member, List.mem_cons_self, hfirst⟩
    · obtain ⟨other, hother, hwritten⟩ := ih hpart
      exact ⟨other, List.mem_cons_of_mem _ hother, hwritten⟩

/-! ## Values are taken back -/

/-- Written members are bound one after the other. -/
theorem steps_writtenMembers {nesting : Nat} {parts : List (String × List Char)}
    (h : WrittenMembers members parts)
    (hvalues : ∀ member ∈ members, ∀ text, Written member.2 text →
      Reader.value.Takes nesting text member.2) (before : List (String × Value)) :
    Steps (memberStep nesting) before (written parts)
      (members.foldl (fun entries member => Keyed.insert member.1 member.2 entries) before) := by
  unfold WrittenMembers at h
  induction h generalizing before with
  | nil => exact .nil
  | @cons member part members parts hfirst _ ih =>
    obtain ⟨hvalue, hvalues⟩ := List.forall_mem_cons.1 hvalues
    obtain ⟨key, cs⟩ := part
    obtain ⟨rfl, hwritten⟩ : member.1 = key ∧ Written member.2 cs := hfirst
    have htakes := hvalue cs hwritten
    exact .cons (fun _ => memberStep_memberChars htakes before member.1) (ih hvalues _)

/-- An object in key order is taken back from its members in any order, when their values are. -/
theorem takes_of_written_object {nesting : Nat} (hincreasing : Keyed.Increasing members)
    (hvalues : ∀ member ∈ members, ∀ text, Written member.2 text →
      Reader.value.Takes nesting text member.2) (h : Written (.object members) text) :
    Reader.value.Takes (nesting + 1) text (.object members) := by
  intro rest _
  obtain ⟨others, parts, hperm, hmembers, rfl⟩ := written_object_iff.1 h
  have hsteps := steps_writtenMembers hmembers
    (fun member hmem => hvalues member (hperm.mem_iff.1 hmem)) []
  have hentries : others.foldl (fun entries member => Keyed.insert member.1 member.2 entries) []
      = members := Keyed.ofList_of_perm hincreasing hperm
  rw [hentries] at hsteps
  rw [Reader.value, objectChars_append, readValue_brace,
    readSeries_joined (.inr rfl) hsteps (starts_written parts) rest]
  rfl

/-- A written text is taken back by every reader of texts. -/
theorem takes_of_written_string {string : String} (expected : String) (nesting : Nat)
    (h : Written (.string string) text) :
    (Reader.textFor expected).Takes nesting text string := by
  have hscalar : (Value.string string).IsScalar := trivial
  rw [(written_scalar_iff hscalar).1 h]
  exact takes_textFor expected string nesting

/-! ## Lists -/

section Lists

variable {α : Type} {nesting : Nat} {item : Reader α} {toJson : α → Value} {xs : List α}
  {error : ReadError}

theorem takes_written_items
    (hitem : ∀ x ∈ xs, ∀ text, Written (toJson x) text → item.Takes nesting text x)
    {parts : List (List Char)} (h : List.Forall₂ Written (xs.map toJson) parts) :
    List.Forall₂ (fun x part => item.Takes nesting part x) xs parts := by
  rw [List.forall₂_map_left_iff] at h
  induction h with
  | nil => exact .nil
  | @cons x part xs parts hfirst _ ih =>
    obtain ⟨hx, hxs⟩ := List.forall_mem_cons.1 hitem
    exact .cons (hx part hfirst) (ih hxs)

theorem starts_of_written_items {parts : List (List Char)}
    (h : List.Forall₂ Written items parts) : ∀ part ∈ parts, Starts part := by
  induction h with
  | nil => exact List.forall_mem_nil _
  | cons hfirst _ ih => exact List.forall_mem_cons.2 ⟨hfirst.starts, ih⟩

/-- A written list is taken back when its items are. -/
theorem takes_of_written_array
    (hitem : ∀ x ∈ xs, ∀ text, Written (toJson x) text → item.Takes nesting text x)
    (h : Written (.array (xs.map toJson)) text) :
    (Reader.list item).Takes (nesting + 1) text xs := by
  obtain ⟨parts, hparts, rfl⟩ := written_array_iff.1 h
  exact takes_list (takes_written_items hitem hparts) (starts_of_written_items hparts)

/-- A list with an intruder is refused when its items with one are. -/
theorem refuses_of_intruded_array
    (hitem : ∀ x ∈ xs, ∀ text, Written (toJson x) text → item.Takes nesting text x)
    (hintruded : ∀ x ∈ xs, ∀ text, Intruded name cs path (toJson x) text →
      item.Refuses nesting text error)
    (h : Intruded name cs path (.array (xs.map toJson)) text) :
    (Reader.list item).Refuses (nesting + 1) text error := by
  generalize hitems : xs.map toJson = items at h
  cases h with
  | item hfront hback hintruder =>
    obtain ⟨front, rest, rfl, rfl, hrest⟩ := List.map_eq_append_iff.1 hitems
    obtain ⟨x, back, rfl, rfl, rfl⟩ := List.map_eq_cons_iff.1 hrest
    rw [List.forall_mem_append, List.forall_mem_cons] at hitem hintruded
    refine refuses_list (takes_written_items hitem.1 hfront) (hintruded.2.1 _ hintruder) ?_
    refine List.forall_mem_append.2 ⟨starts_of_written_items hfront, ?_⟩
    exact List.forall_mem_cons.2 ⟨hintruder.starts, starts_of_written_items hback⟩

end Lists

/-! ## Records -/

namespace Record

variable {δ α : Type} {record : Record δ α} {nesting : Nat} {drafts : List String → δ} {a : α}
  {key : String} {error : ReadError}

/-- How a record is read from members, however these are written. -/
structure Reads (record : Record δ α) (nesting : Nat) (members : List (String × Value))
    (drafts : List String → δ) (a : α) : Prop where
  nodup : (members.map Prod.fst).Nodup
  blank : drafts [] = record.blank
  advances : ∀ member ∈ members, ∀ text, Written member.2 text → ∀ seen, member.1 ∉ seen →
    record.Advances nesting (drafts seen) member.1 text (drafts (member.1 :: seen))
  finish : ∀ seen, (∀ member ∈ members, member.1 ∈ seen) → record.finish (drafts seen) = .ok a

namespace Reads

variable (h : record.Reads nesting members drafts a)

include h

/-- Some of the members, as they are written. -/
theorem advances_of_writtenMembers {others : List (String × Value)}
    {parts : List (String × List Char)} (hothers : ∀ member ∈ others, member ∈ members)
    (hmembers : WrittenMembers others parts) :
    ∀ part ∈ parts, ∀ seen, part.1 ∉ seen →
      record.Advances nesting (drafts seen) part.1 part.2 (drafts (part.1 :: seen)) := by
  intro part hpart
  obtain ⟨member, hmember, hkey, hwritten⟩ := hmembers.exists_of_mem hpart
  rw [← hkey]
  exact h.advances member (hothers member hmember) part.2 hwritten

/-- A written record is taken back. -/
theorem takes_of_written (hwritten : Written (.object members) text) :
    record.reader.Takes (nesting + 1) text a := by
  obtain ⟨others, parts, hperm, hmembers, rfl⟩ := written_object_iff.1 hwritten
  have hkeys : (parts.map Prod.fst).Perm (members.map Prod.fst) := by
    rw [← hmembers.map_fst]
    exact hperm.map _
  have hgathers : record.Gathers nesting parts drafts a :=
    { nodup := hkeys.nodup_iff.2 h.nodup
      blank := h.blank
      advances := h.advances_of_writtenMembers (fun member hmem => hperm.mem_iff.1 hmem) hmembers
      finish := fun seen hseen => h.finish seen fun member hmem => by
        have hkey := hkeys.mem_iff.2 (List.mem_map_of_mem hmem)
        obtain ⟨part, hpart, hsame⟩ := List.mem_map.1 hkey
        exact hsame ▸ hseen part hpart }
  exact hgathers.takes_of_perm (.refl _)

/-- A strict record refuses one more member with a key that none of its fields has. -/
theorem refuses_of_intruded_here (hstrict : record.strict = true)
    (hname : name ∉ record.fields.map Field.name)
    (hintruded : Intruded name cs [] (.object members) text) :
    record.reader.Refuses (nesting + 1) text
      (.unknownField name (record.fields.map Field.name)) := by
  cases hintruded with
  | @here _ others before after hperm hmembers =>
    have hadvances :=
      h.advances_of_writtenMembers (fun member hmem => hperm.mem_iff.1 hmem) hmembers
    have hnodup : ((before ++ after).map Prod.fst).Nodup := by
      rw [← hmembers.map_fst]
      exact (hperm.map _).nodup_iff.2 h.nodup
    rw [List.map_append] at hnodup
    exact refuses_objectChars h.blank
      (fun part hpart => hadvances part (List.mem_append_left _ hpart))
      (List.nodup_append.1 hnodup).1 (rejects_unknown hstrict hname _ cs)

/-- A record refuses an intruder in the value of a field when the field rejects it. -/
theorem refuses_of_intruded_member
    (hrejects : ∀ value, (key, value) ∈ members → ∀ text, Intruded name cs path value text →
      ∀ seen, key ∉ seen → record.Rejects nesting (drafts seen) key text error)
    (hintruded : Intruded name cs (key :: path) (.object members) text) :
    record.reader.Refuses (nesting + 1) text error := by
  cases hintruded with
  | @member _ front back before after _ value _ text hperm hfront _ hvalue =>
    have hmem : ∀ member ∈ front ++ (key, value) :: back, member ∈ members :=
      fun member hmember => hperm.mem_iff.1 hmember
    rw [List.forall_mem_append, List.forall_mem_cons] at hmem
    have hnodup := (hperm.map Prod.fst).nodup_iff.2 h.nodup
    rw [List.map_append, List.map_cons, hfront.map_fst] at hnodup
    obtain ⟨hbefore, -, hdisjoint⟩ := List.nodup_append.1 hnodup
    have hnew : key ∉ (before.map Prod.fst).reverse := fun hkey =>
      hdisjoint _ (List.mem_reverse.1 hkey) _ List.mem_cons_self rfl
    exact refuses_objectChars h.blank (h.advances_of_writtenMembers hmem.1 hfront) hbefore
      (hrejects value hmem.2.1 _ hvalue _ hnew)

end Reads

end Record

end AccessControl.Json
