/-
# Series are refused at their first bad part

When a step fails on one part after steps for the parts before it, the whole series fails with
the same error, whatever stands behind that part (`readSeries_refused`).  So a list is refused
for its first bad item, and a record for its first bad member; a strict record is refused for a
key that none of its fields has before the value of that key is looked at.
-/
import AccessControl.Proofs.Json.Members

namespace AccessControl.Json

variable {α β δ : Type} {nesting : Nat} {cs : List Char} {error : ReadError}

/-- A reader fails on some characters with one error, whatever ends them. -/
def Reader.Refuses (reader : Reader α) (nesting : Nat) (cs : List Char) (error : ReadError) :
    Prop :=
  ∀ rest, Ends rest → reader nesting (cs ++ rest) = .error error

/-! ## Series -/

section Series

variable {σ : Type} {step : σ → List Char → Reading (σ × List Char)} {state next : σ}
  {before after : List (List Char)} {part : List Char} {close : Char}

theorem readParts_of_error {limit : Nat} (h : step state cs = .error error) :
    readParts step close (limit + 1) state cs = .error error := by
  rw [readParts]
  simp only [h, bind, Except.bind]

/-- Parts are refused at the first one that the step fails on. -/
theorem readParts_refused (hclose : Closes close) (h : Steps step state before next)
    (hpart : ∀ rest, Ends rest → step next (part ++ rest) = .error error) {limit : Nat}
    (hlimit : before.length < limit) (after : List (List Char)) (rest : List Char) :
    readParts step close limit state (joined (before ++ part :: after) ++ close :: rest)
      = .error error := by
  induction h generalizing limit with
  | nil =>
    obtain ⟨others, hends, hothers⟩ := exists_joined_append hclose part after rest
    obtain ⟨limit, rfl⟩ := Nat.exists_eq_succ_of_ne_zero (Nat.ne_of_gt hlimit)
    rw [List.nil_append, hothers]
    exact readParts_of_error (hpart others hends)
  | @cons state mid next first before hfirst _ ih =>
    obtain ⟨limit, rfl⟩ := Nat.exists_eq_succ_of_ne_zero (Nat.ne_of_gt (Nat.zero_lt_of_lt hlimit))
    obtain ⟨other, others, hothers⟩ := List.exists_cons_of_ne_nil
      (List.append_ne_nil_of_right_ne_nil before (List.cons_ne_nil part after))
    rw [List.cons_append, hothers, joined, List.append_assoc, List.cons_append,
      readParts_of_comma (hfirst _ (ends_comma _)), ← hothers]
    exact ih hpart (Nat.lt_of_succ_lt_succ hlimit)

/-- A whole series is refused at the first part that the step fails on. -/
theorem readSeries_refused (hclose : Closes close) (h : Steps step state before next)
    (hpart : ∀ rest, Ends rest → step next (part ++ rest) = .error error)
    (hstarts : ∀ other ∈ before ++ part :: after, Starts other) (rest : List Char) :
    readSeries step close state (joined (before ++ part :: after) ++ close :: rest)
      = .error error := by
  have hlength := length_le_length_joined hstarts
  have hlimit : before.length < (joined (before ++ part :: after) ++ close :: rest).length := by
    rw [List.length_append, List.length_cons] at hlength ⊢
    omega
  have hparts := readParts_refused hclose h hpart hlimit after rest
  -- the first part, good or bad, shows that the series is not empty
  obtain ⟨first, others, hfirst⟩ := List.exists_cons_of_ne_nil
    (List.append_ne_nil_of_right_ne_nil before (List.cons_ne_nil part after))
  rw [hfirst] at hstarts hparts ⊢
  obtain ⟨characters, -, hcharacters⟩ := exists_joined_append hclose first others rest
  rw [hcharacters] at hparts ⊢
  rw [readSeries_of_starts hclose (hstarts first List.mem_cons_self)]
  exact hparts

end Series

/-! ## Lists -/

section Lists

variable {item : Reader α} {items : List α} {parts before after : List (List Char)}
  {part : List Char}

/-- The step that reads an item of a list. -/
def itemStep (item : Reader α) (nesting : Nat) (items : List α) (cs : List Char) :
    Reading (List α × List Char) := do
  let (x, cs) ← item nesting cs
  return (x :: items, cs)

theorem list_bracket (item : Reader α) (nesting : Nat) (cs : List Char) :
    Reader.list item (nesting + 1) ('[' :: cs) = (do
      let (items, cs) ← readSeries (itemStep item nesting) ']' [] cs
      return (items.reverse, cs)) := rfl

/-- Items that are taken back are read one after the other. -/
theorem steps_items (h : List.Forall₂ (fun x part => item.Takes nesting part x) items parts)
    (before : List α) :
    Steps (itemStep item nesting) before parts (items.reverse ++ before) := by
  induction h generalizing before with
  | nil => exact .nil
  | @cons x part items parts hfirst _ ih =>
    rw [List.reverse_cons, List.append_assoc]
    refine .cons (fun rest hrest => ?_) (ih (x :: before))
    unfold itemStep
    simp only [hfirst rest hrest, bind, Except.bind]
    rfl

/-- A list is taken back when its items are. -/
theorem takes_list (h : List.Forall₂ (fun x part => item.Takes nesting part x) items parts)
    (hstarts : ∀ part ∈ parts, Starts part) :
    (Reader.list item).Takes (nesting + 1) (arrayChars parts) items := by
  intro rest _
  rw [arrayChars_append, list_bracket, readSeries_joined (.inl rfl) (steps_items h []) hstarts rest]
  simp only [bind, Except.bind, List.append_nil, List.reverse_reverse]
  rfl

/-- A list is refused for its first bad item. -/
theorem refuses_list (h : List.Forall₂ (fun x part => item.Takes nesting part x) items before)
    (hpart : item.Refuses nesting part error)
    (hstarts : ∀ other ∈ before ++ part :: after, Starts other) :
    (Reader.list item).Refuses (nesting + 1) (arrayChars (before ++ part :: after)) error := by
  intro rest _
  have hstep : ∀ rest, Ends rest →
      itemStep item nesting (items.reverse ++ []) (part ++ rest) = .error error := by
    intro rest hrest
    unfold itemStep
    simp only [hpart rest hrest, bind, Except.bind]
  rw [arrayChars_append, list_bracket,
    readSeries_refused (.inl rfl) (steps_items h []) hstep hstarts rest]
  rfl

end Lists

/-! ## Records -/

namespace Record

variable {record : Record δ α} {draft : δ} {key : String} {drafts : List String → δ}
  {before after : List (String × List Char)}

/-- A printed member makes a draft fail, whatever ends it. -/
def Rejects (record : Record δ α) (nesting : Nat) (draft : δ) (key : String) (cs : List Char)
    (error : ReadError) : Prop :=
  ∀ rest, Ends rest → record.readMember nesting draft (memberChars key cs ++ rest) = .error error

/-- A strict record rejects a key that none of its fields has, whatever its value. -/
theorem rejects_unknown (hstrict : record.strict = true)
    (hkey : key ∉ record.fields.map Field.name) (draft : δ) (cs : List Char) :
    record.Rejects nesting draft key cs (.unknownField key (record.fields.map Field.name)) := by
  intro rest _
  have hfield : record.field? key = none := field?_eq_none_iff.2 hkey
  unfold readMember
  simp only [readKey_memberChars, hfield, hstrict, if_true, bind, Except.bind]
  rfl

/-- A member is rejected when its field, which the draft does not have yet, cannot be read. -/
theorem rejects_of_field {field : Field δ} (hfield : record.field? key = some field)
    (hnew : field.isSet draft = false)
    (hread : ∀ rest, Ends rest → field.read draft nesting (cs ++ rest) = .error error) :
    record.Rejects nesting draft key cs error := by
  intro rest hrest
  unfold readMember
  simp only [readKey_memberChars, hfield, expectColon_cons, bind, Except.bind, hnew,
    Bool.false_eq_true, if_false, hread rest hrest]

section

variable {get : δ → Option β} {set : δ → β → δ} {reader : Reader β}

theorem read_required_of_refuses (key : String) (get : δ → Option β)
    (hrefuses : reader.Refuses nesting cs error) (draft : δ) {rest : List Char}
    (hrest : Ends rest) :
    (Field.required key get set reader).read draft nesting (cs ++ rest) = .error error := by
  simp only [Field.required, hrefuses rest hrest, bind, Except.bind]

theorem rejects_required (hfield : record.field? key = some (.required key get set reader))
    (hnew : get draft = none) (hrefuses : reader.Refuses nesting cs error) :
    record.Rejects nesting draft key cs error :=
  rejects_of_field hfield (congrArg Option.isSome hnew)
    fun _ => read_required_of_refuses key get hrefuses draft

/-- Where an array may end makes no difference to a member. -/
theorem rejects_trailing (hfield : record.field? key = some (.trailing key get set reader))
    (hnew : get draft = none) (hrefuses : reader.Refuses nesting cs error) :
    record.Rejects nesting draft key cs error :=
  rejects_of_field hfield (congrArg Option.isSome hnew)
    fun _ => read_required_of_refuses key get hrefuses draft

end

/-- A record is refused for its first bad member, once those before it are read. -/
theorem refuses_of_steps
    (hsteps : Steps (record.readMember nesting) record.blank (written before) draft)
    (hrejects : record.Rejects nesting draft key cs error) :
    record.reader.Refuses (nesting + 1) (objectChars (before ++ (key, cs) :: after)) error := by
  intro rest _
  have hstarts := starts_written (before ++ (key, cs) :: after)
  rw [written_append_cons] at hstarts
  rw [objectChars_append, reader_brace, written_append_cons,
    readSeries_refused (.inr rfl) hsteps hrejects hstarts rest]
  rfl

theorem refuses_objectChars (hblank : drafts [] = record.blank)
    (hread : ∀ member ∈ before, ∀ seen, member.1 ∉ seen →
      record.Advances nesting (drafts seen) member.1 member.2 (drafts (member.1 :: seen)))
    (hnodup : (before.map Prod.fst).Nodup)
    (hrejects : record.Rejects nesting (drafts (before.map Prod.fst).reverse) key cs error) :
    record.reader.Refuses (nesting + 1) (objectChars (before ++ (key, cs) :: after)) error := by
  have hnew : ((before.filter fun _ => true).map Prod.fst ++ []).Nodup := by
    rwa [List.filter_true, List.append_nil]
  have hsteps := steps_written (fun _ => true) (fun member hmem _ => hread member hmem)
    (fun _ _ hpassed => absurd hpassed.symm Bool.false_ne_true) [] hnew
  rw [hblank, List.filter_true, List.append_nil] at hsteps
  exact refuses_of_steps hsteps hrejects

end Record

/-- A text that is refused denotes no value. -/
theorem readAll_of_refuses {reader : Reader α} {text : String}
    (h : reader.Refuses nestingLimit text.toList error) : reader.readAll text = .error error := by
  have hread := h [] ends_nil
  rw [List.append_nil] at hread
  unfold Reader.readAll
  simp only [hread, bind, Except.bind]

end AccessControl.Json
