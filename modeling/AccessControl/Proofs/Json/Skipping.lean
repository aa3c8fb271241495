/-
# Printed values are passed over

Whatever value is printed, passing over it stops where its characters end
(`skipValue_chars`): its brackets are no deeper than it is long, a printed number is a
numeral, and a text that can be read can be passed over.
-/
import AccessControl.Proofs.Json.Numerals
import AccessControl.Proofs.Json.Records

namespace AccessControl.Json

variable {rest : List Char}

/-! ## Values from their parts -/

namespace Value

/-- Neither an array nor an object. -/
def IsScalar : Value → Prop
  | .array _ => False
  | .object _ => False
  | _ => True

/-- What holds of scalars, and of brackets when it holds of what they enclose, holds of all. -/
theorem inductionOn {motive : Value → Prop}
    (scalar : ∀ value : Value, value.IsScalar → motive value)
    (array : ∀ items, (∀ item ∈ items, motive item) → motive (.array items))
    (object : ∀ members : List (String × Value), (∀ member ∈ members, motive member.2) →
      motive (.object members)) (value : Value) : motive value :=
  @Value.rec motive (fun items => ∀ item ∈ items, motive item)
    (fun members => ∀ member ∈ members, motive member.2) (fun member => motive member.2)
    (scalar _ trivial) (fun _ => scalar _ trivial) (fun _ => scalar _ trivial)
    (fun _ => scalar _ trivial) array object
    (List.forall_mem_nil _) (fun _ _ hitem hitems => List.forall_mem_cons.2 ⟨hitem, hitems⟩)
    (List.forall_mem_nil _) (fun _ _ hmember hmembers => List.forall_mem_cons.2 ⟨hmember, hmembers⟩)
    (fun _ _ hvalue => hvalue) value

end Value

/-! ## Characters of values -/

/-- The characters of an array with some items. -/
def arrayChars (items : List (List Char)) : List Char := '[' :: (joined items ++ [']'])

theorem arrayChars_append (items : List (List Char)) (rest : List Char) :
    arrayChars items ++ rest = '[' :: (joined items ++ ']' :: rest) := by
  rw [arrayChars, List.cons_append, List.append_assoc]
  rfl

/-- Printed items have commas between them. -/
theorem itemsChars_eq_joined (items : List Value) :
    Value.itemsChars items = joined (items.map Value.chars) := by
  induction items with
  | nil => rfl
  | cons item rest ih =>
    cases rest with
    | nil => rfl
    | cons next rest =>
      rw [Value.itemsChars, ih]
      · rfl
      · exact List.cons_ne_nil _ _

theorem chars_array (items : List Value) :
    (Value.array items).chars = arrayChars (items.map Value.chars) := by
  rw [Value.chars, itemsChars_eq_joined]
  rfl

/-- A number starts with no character but a sign or a digit. -/
theorem ne_of_numeral {c d : Char} (hc : c = '-' ∨ Digits.isDecimal c = true)
    (hsign : d ≠ '-') (hdigit : Digits.isDecimal d = false) : c ≠ d := by
  rintro rfl
  rcases hc with hc | hc
  · exact hsign hc
  · exact Bool.false_ne_true (hdigit.symm.trans hc)

theorem isSpace_of_numeral {c : Char} (hc : c = '-' ∨ Digits.isDecimal c = true) :
    isSpace c = false := by
  have hblank := ne_of_numeral hc (d := ' ') (by decide) (by decide)
  have hline := ne_of_numeral hc (d := '\n') (by decide) (by decide)
  have htab := ne_of_numeral hc (d := '\t') (by decide) (by decide)
  have hreturn := ne_of_numeral hc (d := '\r') (by decide) (by decide)
  simp [isSpace, hblank, hline, htab, hreturn]

/-- A printed value starts neither with a blank nor with a closing bracket. -/
theorem starts_chars (value : Value) : Starts value.chars := by
  cases value with
  | null => exact ⟨_, _, rfl, by decide, by decide, by decide⟩
  | bool b => cases b <;> exact ⟨_, _, rfl, by decide, by decide, by decide⟩
  | number n =>
    obtain ⟨c, tail, hchars, hc⟩ := exists_chars_cons n
    exact ⟨c, tail, hchars, isSpace_of_numeral hc, ne_of_numeral hc (by decide) (by decide),
      ne_of_numeral hc (by decide) (by decide)⟩
  | string text => exact ⟨_, _, rfl, by decide, by decide, by decide⟩
  | array items => exact ⟨_, _, rfl, by decide, by decide, by decide⟩
  | object members => exact ⟨_, _, rfl, by decide, by decide, by decide⟩

/-- A part is no longer than all parts together. -/
theorem length_le_of_mem_joined {part : List Char} {parts : List (List Char)} (h : part ∈ parts) :
    part.length ≤ (joined parts).length := by
  induction parts with
  | nil => cases h
  | cons first parts ih =>
    cases parts with
    | nil => rw [List.mem_singleton.1 h, joined]
    | cons next parts =>
      rw [joined, List.length_append, List.length_cons]
      rcases List.mem_cons.1 h with rfl | h
      · exact Nat.le_add_right _ _
      · have hrest := ih h
        omega

/-! ## Passing over texts and scalars -/

/-- A text that can be read can be passed over. -/
theorem skipText?_of_readText? {before cs : List Char} {text : String}
    (h : readText? before cs = some (text, rest)) : skipText? cs = some rest := by
  fun_induction readText? before cs <;> simp_all [skipText?]

/-- A printed text is passed over after its opening quote. -/
theorem skipText?_textChars (text : String) (rest : List Char) :
    skipText? (text.toList.flatMap escapedChar ++ '"' :: rest) = some rest :=
  skipText?_of_readText? (readText?_textChars text rest)

/-- A printed number is passed over, whatever it is. -/
theorem skipScalar_number (n : Number) (hrest : Ends rest) :
    skipScalar (n.chars ++ rest) = .ok ((), rest) := by
  obtain ⟨numeral, hread⟩ := exists_readNumeral?_chars n hrest
  obtain ⟨c, tail, hchars, hc⟩ := exists_chars_cons n
  rw [hchars, List.cons_append] at hread ⊢
  -- the last branch is taken, as no word and no text starts as a number does
  rw [skipScalar]
  · simp only [hread, orUnreadable, Option.elim, bind, Except.bind]
    rfl
  · exact fun _ h => ne_of_numeral hc (by decide) (by decide) (List.cons.inj h).1
  · exact fun _ h => ne_of_numeral hc (by decide) (by decide) (List.cons.inj h).1
  · exact fun _ h => ne_of_numeral hc (by decide) (by decide) (List.cons.inj h).1
  · exact fun _ h => ne_of_numeral hc (by decide) (by decide) (List.cons.inj h).1

/-- A printed scalar is passed over. -/
theorem skipScalar_chars {value : Value} (hvalue : value.IsScalar) (hrest : Ends rest) :
    skipScalar (value.chars ++ rest) = .ok ((), rest) := by
  cases value with
  | null => rfl
  | bool b => cases b <;> rfl
  | number n => exact skipScalar_number n hrest
  | string text =>
    rw [Value.chars, textChars_append]
    show (do return ((), ← orUnreadable (skipText? _))) = _
    rw [skipText?_textChars]
    rfl
  | array items => exact hvalue.elim
  | object members => exact hvalue.elim

/-! ## Passing over values -/

/-- A step passes over a member when it passes over its value. -/
def skipMember (depth : Nat) (_ : Unit) (cs : List Char) : Reading (Unit × List Char) := do
  match skipSpace cs with
  | '"' :: cs => skipNested depth (← expectColon (← orUnreadable (skipText? cs)))
  | _ => throw .unreadable

theorem skipNested_bracket (depth : Nat) (cs : List Char) :
    skipNested (depth + 1) ('[' :: cs) = readSeries (fun _ cs => skipNested depth cs) ']' () cs :=
  rfl

theorem skipNested_brace (depth : Nat) (cs : List Char) :
    skipNested (depth + 1) ('{' :: cs) = readSeries (skipMember depth) '}' () cs := rfl

/-- Steps that all leave the state as it is. -/
theorem steps_of_forall {σ : Type} {step : σ → List Char → Reading (σ × List Char)} {state : σ}
    {parts : List (List Char)}
    (h : ∀ part ∈ parts, ∀ rest, Ends rest → step state (part ++ rest) = .ok (state, rest)) :
    Steps step state parts state := by
  induction parts with
  | nil => exact .nil
  | cons part parts ih =>
    obtain ⟨hfirst, hrest⟩ := List.forall_mem_cons.1 h
    exact .cons hfirst (ih hrest)

/-- A printed scalar opens no bracket. -/
theorem skipNested_of_isScalar {value : Value} (hvalue : value.IsScalar) (depth : Nat)
    (rest : List Char) :
    skipNested depth (value.chars ++ rest) = skipScalar (value.chars ++ rest) := by
  have hfront : ∀ c tail, isSpace c = false → c ≠ '[' → c ≠ '{' →
      skipNested depth (c :: tail) = skipScalar (c :: tail) := by
    intro c tail hspace hbracket hbrace
    have hskip := skipSpace_cons hspace tail
    cases depth with
    | zero => rw [skipNested, hskip]
    | succ depth =>
      unfold skipNested
      rw [hskip]
      split
      · exact absurd (List.cons.inj ‹_›).1 hbracket
      · exact absurd (List.cons.inj ‹_›).1 hbrace
      · rfl
  cases value with
  | null => exact hfront _ _ (by decide) (by decide) (by decide)
  | bool b => cases b <;> exact hfront _ _ (by decide) (by decide) (by decide)
  | number n =>
    obtain ⟨c, tail, hchars, hc⟩ := exists_chars_cons n
    rw [Value.chars, hchars]
    exact hfront c _ (isSpace_of_numeral hc) (ne_of_numeral hc (by decide) (by decide))
      (ne_of_numeral hc (by decide) (by decide))
  | string text => exact hfront _ _ (by decide) (by decide) (by decide)
  | array items => exact hvalue.elim
  | object members => exact hvalue.elim

/-- A member is passed over when its value is. -/
theorem skipMember_memberChars {depth : Nat} {cs : List Char} (key : String)
    (h : skipNested depth (cs ++ rest) = .ok ((), rest)) :
    skipMember depth () (memberChars key cs ++ rest) = .ok ((), rest) := by
  rw [memberChars, List.append_assoc, textChars_append]
  show (do skipNested depth (← expectColon (← orUnreadable (skipText? _)))) = _
  rw [skipText?_textChars]
  exact h

/-- A printed value is passed over when brackets may be nested as deep as it is long. -/
theorem skipNested_chars (value : Value) : ∀ depth rest, value.chars.length ≤ depth → Ends rest →
    skipNested depth (value.chars ++ rest) = .ok ((), rest) := by
  induction value using Value.inductionOn with
  | scalar value hvalue =>
    intro depth rest _ hrest
    rw [skipNested_of_isScalar hvalue]
    exact skipScalar_chars hvalue hrest
  | array items ih =>
    intro depth rest hdepth _
    cases depth with
    | zero => exact absurd hdepth (Nat.not_succ_le_zero _)
    | succ depth =>
      have hjoined : (joined (items.map Value.chars)).length ≤ depth := by
        rw [Value.chars, itemsChars_eq_joined] at hdepth
        simp only [List.length_append, List.length_cons] at hdepth
        omega
      have hparts : ∀ part ∈ items.map Value.chars, ∀ rest, Ends rest →
          skipNested depth (part ++ rest) = .ok ((), rest) := by
        intro part hpart rest hrest
        obtain ⟨item, hitem, rfl⟩ := List.mem_map.1 hpart
        exact ih item hitem depth rest ((length_le_of_mem_joined hpart).trans hjoined) hrest
      have hstarts : ∀ part ∈ items.map Value.chars, Starts part :=
        List.forall_mem_map.2 fun item _ => starts_chars item
      rw [chars_array, arrayChars_append, skipNested_bracket]
      exact readSeries_joined (.inl rfl) (steps_of_forall hparts) hstarts rest
  | object members ih =>
    intro depth rest hdepth _
    cases depth with
    | zero => exact absurd hdepth (Nat.not_succ_le_zero _)
    | succ depth =>
      have hjoined : (joined (printed members)).length ≤ depth := by
        rw [Value.chars, membersChars_eq_joined] at hdepth
        simp only [List.length_append, List.length_cons] at hdepth
        omega
      have hparts : ∀ part ∈ printed members, ∀ rest, Ends rest →
          skipMember depth () (part ++ rest) = .ok ((), rest) := by
        intro part hpart rest hrest
        obtain ⟨member, hmember, rfl⟩ := List.mem_map.1 hpart
        have hlength : member.2.chars.length ≤ depth := by
          have hmembers := (length_le_of_mem_joined hpart).trans hjoined
          simp only [memberChars, List.length_append, List.length_cons] at hmembers
          omega
        exact skipMember_memberChars _ (ih member hmember depth rest hlength hrest)
      rw [chars_object_append, skipNested_brace]
      exact readSeries_joined (.inr rfl) (steps_of_forall hparts) (starts_printed members) rest

/-- **A printed value is passed over**, up to what ends it. -/
theorem skipValue_chars (value : Value) (hrest : Ends rest) :
    skipValue (value.chars ++ rest) = .ok ((), rest) := by
  refine skipNested_chars value _ rest ?_ hrest
  rw [List.length_append]
  exact Nat.le_add_right _ _

end AccessControl.Json
