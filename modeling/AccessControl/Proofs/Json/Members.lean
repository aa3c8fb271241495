/-
# Records from members in any order

A record is read from its members in whatever order they stand, and with whatever members
between them that are passed over (`Record.Gathers.takes_objectChars`).  The order does not
matter as the draft depends on which keys have been read only.
-/
import AccessControl.Proofs.Json.Skipping
import Mathlib.Data.List.Nodup
import Mathlib.Data.List.Perm.Basic

namespace AccessControl.Json

variable {α β δ : Type} {nesting : Nat} {cs : List Char} {a : α}

/-! ## Objects -/

/-- The members of an object as they are written, each with the characters of its value. -/
def written (members : List (String × List Char)) : List (List Char) :=
  members.map fun member => memberChars member.1 member.2

theorem written_append_cons (before after : List (String × List Char)) (key : String)
    (cs : List Char) :
    written (before ++ (key, cs) :: after)
      = written before ++ memberChars key cs :: written after := by
  rw [written, List.map_append, List.map_cons]
  rfl

/-- The characters of an object with some members. -/
def objectChars (members : List (String × List Char)) : List Char :=
  '{' :: (joined (written members) ++ ['}'])

/-- A member is written with its key, whatever its value. -/
theorem starts_written (members : List (String × List Char)) :
    ∀ part ∈ written members, Starts part :=
  List.forall_mem_map.2 fun member _ => starts_memberChars member.1 member.2

theorem objectChars_append (members : List (String × List Char)) (rest : List Char) :
    objectChars members ++ rest = '{' :: (joined (written members) ++ '}' :: rest) := by
  rw [objectChars, List.cons_append, List.append_assoc]
  rfl

/-- The members of a printed object, each with the characters of its value. -/
def rendered (members : List (String × Value)) : List (String × List Char) :=
  members.map fun member => (member.1, member.2.chars)

theorem chars_object (members : List (String × Value)) :
    (Value.object members).chars = objectChars (rendered members) := by
  rw [Value.chars, membersChars_eq_joined, objectChars, written, rendered, List.map_map]
  rfl

/-- Whether a member has the key of one of the declared ones. -/
def isDeclared (declared : List (String × β)) (member : String × β) : Bool :=
  member.1 ∈ declared.map Prod.fst

theorem map_fst_rendered (members : List (String × Value)) :
    (rendered members).map Prod.fst = members.map Prod.fst :=
  List.map_map

theorem filter_rendered (members declared : List (String × Value)) :
    (rendered members).filter (isDeclared (rendered declared))
      = rendered (members.filter (isDeclared declared)) := by
  rw [rendered.eq_1 members, List.filter_map]
  refine congrArg rendered (List.filter_congr fun member _ => ?_)
  simp only [Function.comp_apply, isDeclared, map_fst_rendered]

/-! ## Drafts -/

/-- What a draft holds of a field when the members with some keys have been read. -/
def given (seen : List String) (key : String) (b : β) : Option β :=
  if key ∈ seen then some b else none

@[simp]
theorem given_cons (seen : List String) (key other : String) (b : β) :
    given (other :: seen) key b = if key = other then some b else given seen key b := by
  by_cases h : key = other
  · rw [if_pos h, h]
    exact if_pos List.mem_cons_self
  · simp only [given, List.mem_cons, h, false_or, if_false]

theorem given_of_mem {seen : List String} {key : String} (h : key ∈ seen) (b : β) :
    given seen key b = some b :=
  if_pos h

theorem given_of_not_mem {seen : List String} {key : String} (h : key ∉ seen) (b : β) :
    given seen key b = none :=
  if_neg h

namespace Record

variable {record : Record δ α} {declared members : List (String × List Char)}
  {drafts : List String → δ} {key : String}

/-- How a record is gathered from declared members: `drafts` says what has been read. -/
structure Gathers (record : Record δ α) (nesting : Nat) (declared : List (String × List Char))
    (drafts : List String → δ) (a : α) : Prop where
  nodup : (declared.map Prod.fst).Nodup
  blank : drafts [] = record.blank
  advances : ∀ member ∈ declared, ∀ seen, member.1 ∉ seen →
    record.Advances nesting (drafts seen) member.1 member.2 (drafts (member.1 :: seen))
  finish : ∀ seen, (∀ member ∈ declared, member.1 ∈ seen) → record.finish (drafts seen) = .ok a

/-- A field that is read into every draft without it is read whatever else has been read. -/
theorem advances_given {get : δ → Option β} {set : δ → β → δ} {b : β}
    (hadvances : ∀ draft, get draft = none → record.Advances nesting draft key cs (set draft b))
    (hget : ∀ seen, get (drafts seen) = given seen key b)
    (hset : ∀ seen, set (drafts seen) b = drafts (key :: seen)) (seen : List String)
    (hnew : key ∉ seen) : record.Advances nesting (drafts seen) key cs (drafts (key :: seen)) := by
  rw [← hset]
  exact hadvances _ ((hget seen).trans (given_of_not_mem hnew b))

/-- A member with an undeclared key is passed over when its value is. -/
theorem advances_of_field?_eq_none (hfield : record.field? key = none)
    (hstrict : record.strict = false)
    (hskip : ∀ rest, Ends rest → skipValue (cs ++ rest) = .ok ((), rest)) (draft : δ) :
    record.Advances nesting draft key cs draft := by
  intro rest hrest
  unfold readMember
  simp only [readKey_memberChars, hfield, expectColon_cons, bind, Except.bind, hstrict,
    Bool.false_eq_true, if_false, hskip rest hrest]
  rfl

/-- Members are read one after the other, some into the draft, others passed over, when none of
the former has a key that has come before. -/
theorem steps_written (isRead : String × List Char → Bool)
    (hread : ∀ member ∈ members, isRead member = true → ∀ seen, member.1 ∉ seen →
      record.Advances nesting (drafts seen) member.1 member.2 (drafts (member.1 :: seen)))
    (hpassed : ∀ member ∈ members, isRead member = false → ∀ draft,
      record.Advances nesting draft member.1 member.2 draft) (seen : List String)
    (hnew : ((members.filter isRead).map Prod.fst ++ seen).Nodup) :
    Steps (record.readMember nesting) (drafts seen) (written members)
      (drafts (((members.filter isRead).map Prod.fst).reverse ++ seen)) := by
  induction members generalizing seen with
  | nil => exact .nil
  | cons member members ih =>
    obtain ⟨hfirst, hread⟩ := List.forall_mem_cons.1 hread
    obtain ⟨hother, hpassed⟩ := List.forall_mem_cons.1 hpassed
    cases hmember : isRead member with
    | true =>
      rw [List.filter_cons_of_pos hmember, List.map_cons] at hnew ⊢
      have hnotMem : member.1 ∉ seen := fun hmem =>
        (List.nodup_cons.1 hnew).1 (List.mem_append_right _ hmem)
      -- the key moves from those that are to come to those that have been read
      rw [List.reverse_cons, List.append_assoc]
      exact .cons (hfirst hmember seen hnotMem)
        (ih hread hpassed _ (List.perm_middle.nodup_iff.2 hnew))
    | false =>
      rw [List.filter_cons_of_neg (Bool.eq_false_iff.1 hmember)] at hnew ⊢
      exact .cons (hother hmember (drafts seen)) (ih hread hpassed seen hnew)

namespace Gathers

variable (h : record.Gathers nesting declared drafts a)

include h

/-- **A record is taken back from its members in any order**, and with others between them that
are passed over. -/
theorem takes_objectChars (hperm : (members.filter (isDeclared declared)).Perm declared)
    (hothers : ∀ member ∈ members, isDeclared declared member = false →
      ∀ draft, record.Advances nesting draft member.1 member.2 draft) :
    record.reader.Takes (nesting + 1) (objectChars members) a := by
  intro rest _
  have hkeys := hperm.map Prod.fst
  have hread : ∀ member ∈ members, isDeclared declared member = true → member ∈ declared :=
    fun member hmem hmember =>
      hperm.mem_iff.1 (List.mem_filter.2 ⟨hmem, hmember⟩)
  have hnew := hkeys.nodup_iff.2 h.nodup
  rw [← List.append_nil (List.map _ _)] at hnew
  have hsteps := steps_written (isDeclared declared)
    (fun member hmem hmember => h.advances member (hread member hmem hmember)) hothers [] hnew
  rw [h.blank, List.append_nil] at hsteps
  -- whatever the order was, the draft in the end has every declared key
  have hfinish := h.finish _ fun member hmem =>
    List.mem_reverse.2 (hkeys.mem_iff.2 (List.mem_map_of_mem hmem))
  rw [objectChars_append, reader_brace,
    readSeries_joined (.inr rfl) hsteps (starts_written members) rest]
  simp only [bind, Except.bind, hfinish]
  rfl

/-- The declared members alone, in any order. -/
theorem takes_of_perm (hperm : members.Perm declared) :
    record.reader.Takes (nesting + 1) (objectChars members) a := by
  have hall : ∀ member ∈ members, isDeclared declared member = true := fun member hmem =>
    decide_eq_true (List.mem_map_of_mem (hperm.mem_iff.1 hmem))
  refine h.takes_objectChars ?_ fun member hmem hmember =>
    absurd (hall member hmem) (Bool.eq_false_iff.1 hmember)
  rw [List.filter_eq_self.2 hall]
  exact hperm

end Gathers

end Record

/-! ## Printed objects -/

/-- An object with the members of another one in any order, and any others between them. -/
def Value.Extends (v w : Value) : Prop :=
  ∃ members declared, v = .object members ∧ w = .object declared ∧
    (members.filter (isDeclared declared)).Perm declared

theorem Value.extends_refl (members : List (String × Value)) :
    (Value.object members).Extends (.object members) := by
  refine ⟨members, members, rfl, rfl, List.Perm.of_eq (List.filter_eq_self.2 fun member hmem => ?_)⟩
  exact decide_eq_true (List.mem_map_of_mem hmem)

/-- Every value of a type is read back from its text, and from every text with the same members
in any order and others between them. -/
def ReadsBack (ofText : String → Reading α) (toJson : α → Value) : Prop :=
  ∀ a, ofText (toJson a).render = .ok a ∧
    ∀ v : Value, v.Extends (toJson a) → ofText v.render = .ok a

namespace Record

variable {record : Record δ α}

theorem field?_eq_none_iff {key : String} :
    record.field? key = none ↔ key ∉ record.fields.map Field.name := by
  simp [field?]

/-- A record whose fields are the members of an object is read back from what extends it. -/
theorem Gathers.ofText_of_extends {declared : List (String × Value)} {drafts : List String → δ}
    (h : record.Gathers 126 (rendered declared) drafts a) (hstrict : record.strict = false)
    (hfields : record.fields.map Field.name = declared.map Prod.fst) {v : Value}
    (hv : v.Extends (.object declared)) : record.ofText v.render = .ok a := by
  obtain ⟨members, _, rfl, ⟨⟩, hperm⟩ := hv
  have hothers : ∀ member ∈ rendered members, isDeclared (rendered declared) member = false →
      ∀ draft, record.Advances 126 draft member.1 member.2 draft := by
    rw [rendered, List.forall_mem_map]
    intro member _ hmember draft
    have hkey : member.1 ∉ declared.map Prod.fst := by
      rw [← map_fst_rendered]
      exact of_decide_eq_false hmember
    have hfield : record.field? member.1 = none := by rwa [field?_eq_none_iff, hfields]
    exact advances_of_field?_eq_none hfield hstrict (fun _ => skipValue_chars member.2) draft
  have hrendered := hperm.map fun member => (member.1, member.2.chars)
  rw [← rendered, ← filter_rendered] at hrendered
  refine readAll_of_takes ?_
  rw [Value.render, String.toList_ofList, chars_object]
  exact h.takes_objectChars hrendered hothers

/-- Records that are gathered from the members of their objects are read back. -/
theorem readsBack {toJson : α → Value} (hstrict : record.strict = false)
    (h : ∀ a, ∃ members drafts, toJson a = .object members ∧
      record.fields.map Field.name = members.map Prod.fst ∧
      record.Gathers 126 (rendered members) drafts a) : ReadsBack record.ofText toJson := by
  intro a
  obtain ⟨members, drafts, hjson, hfields, hgathers⟩ := h a
  rw [hjson]
  exact ⟨hgathers.ofText_of_extends hstrict hfields (Value.extends_refl members),
    fun _ => hgathers.ofText_of_extends hstrict hfields⟩

end Record

end AccessControl.Json
