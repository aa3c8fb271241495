/-
# Printed series are read back

The parts between two brackets, with commas between them, are read in their order when
every part is read by one step (`Steps`), whatever the steps come to.  So one law covers
the members of a value, those of a record and the items of a list.
-/
import AccessControl.Json.Reader

namespace AccessControl.Json

/-! ## Parts -/

/-- What may stand after a part: nothing, a comma or a closing bracket. -/
def Ends (rest : List Char) : Prop := ∀ c ∈ rest.head?, c = ',' ∨ c = ']' ∨ c = '}'

theorem ends_nil : Ends [] := by
  rintro c ⟨⟩

theorem ends_comma (rest : List Char) : Ends (',' :: rest) := by
  rintro c ⟨⟩
  exact .inl rfl

/-- A closing bracket. -/
def Closes (close : Char) : Prop := close = ']' ∨ close = '}'

theorem Closes.ends {close : Char} (h : Closes close) (rest : List Char) :
    Ends (close :: rest) := by
  rintro c ⟨⟩
  exact .inr h

/-- Characters that start neither with a blank nor with a closing bracket. -/
def Starts (part : List Char) : Prop :=
  ∃ c tail, part = c :: tail ∧ isSpace c = false ∧ c ≠ ']' ∧ c ≠ '}'

/-- Parts with commas between them. -/
def joined : List (List Char) → List Char
  | [] => []
  | [part] => part
  | part :: next :: parts => part ++ ',' :: joined (next :: parts)

theorem skipSpace_cons {c : Char} (hc : isSpace c = false) (rest : List Char) :
    skipSpace (c :: rest) = c :: rest := by
  rw [skipSpace, List.dropWhile_cons, hc]
  rfl

theorem Closes.isSpace {close : Char} (h : Closes close) : isSpace close = false := by
  rcases h with rfl | rfl <;> decide

/-- Parts that start with something are no more than their characters. -/
theorem length_le_length_joined {parts : List (List Char)} (hstarts : ∀ part ∈ parts, Starts part) :
    parts.length ≤ (joined parts).length := by
  induction parts with
  | nil => exact Nat.le_refl 0
  | cons part parts ih =>
    obtain ⟨c, tail, hpart, -⟩ := hstarts part List.mem_cons_self
    have hrest := ih fun other hother => hstarts other (List.mem_cons_of_mem _ hother)
    cases parts with
    | nil => simp [joined, hpart]
    | cons next parts =>
      simp only [joined, List.length_append, List.length_cons] at hrest ⊢
      omega

/-! ## Steps -/

variable {σ : Type} {step : σ → List Char → Reading (σ × List Char)} {state final : σ}
  {parts : List (List Char)} {close : Char} {rest : List Char}

/-- Each part takes the state one step further, whatever ends it. -/
inductive Steps (step : σ → List Char → Reading (σ × List Char)) :
    σ → List (List Char) → σ → Prop where
  | nil {state : σ} : Steps step state [] state
  | cons {state next final : σ} {part : List Char} {parts : List (List Char)}
      (hfirst : ∀ rest, Ends rest → step state (part ++ rest) = .ok (next, rest))
      (hrest : Steps step next parts final) : Steps step state (part :: parts) final

/-- A part that the closing bracket follows is the last one. -/
theorem readParts_of_close (hclose : Closes close) {limit : Nat} {cs : List Char}
    (h : step state cs = .ok (final, close :: rest)) :
    readParts step close (limit + 1) state cs = .ok (final, rest) := by
  unfold readParts
  simp only [h, bind, Except.bind]
  rcases hclose with rfl | rfl <;> rfl

/-- After a part that a comma follows come further parts. -/
theorem readParts_of_comma {limit : Nat} {next : σ} {cs : List Char}
    (h : step state cs = .ok (next, ',' :: rest)) :
    readParts step close (limit + 1) state cs = readParts step close limit next rest := by
  have hcomma : isSpace ',' = false := by decide
  rw [readParts]
  simp only [h, bind, Except.bind, skipSpace_cons hcomma]

/-- Some parts and the bracket that closes them are read when there is a step for each. -/
theorem readParts_joined (hclose : Closes close) (h : Steps step state parts final)
    (hsome : parts ≠ []) {limit : Nat} (hlimit : parts.length ≤ limit) (rest : List Char) :
    readParts step close limit state (joined parts ++ close :: rest) = .ok (final, rest) := by
  induction h generalizing limit with
  | nil => exact absurd rfl hsome
  | @cons state next final part parts hfirst hrest ih =>
    cases limit with
    | zero => exact absurd hlimit (Nat.not_succ_le_zero _)
    | succ limit =>
      cases parts with
      | nil =>
        cases hrest
        exact readParts_of_close hclose (hfirst _ (hclose.ends rest))
      | cons other parts =>
        rw [joined, List.append_assoc, List.cons_append,
          readParts_of_comma (hfirst _ (ends_comma _))]
        exact ih (List.cons_ne_nil _ _) (Nat.le_of_succ_le_succ hlimit)

/-- Between the first part and the bracket that closes the series is what ends that part. -/
theorem exists_joined_append (hclose : Closes close) (part : List Char) (parts : List (List Char))
    (rest : List Char) :
    ∃ others, Ends others ∧ joined (part :: parts) ++ close :: rest = part ++ others := by
  cases parts with
  | nil => exact ⟨close :: rest, hclose.ends rest, rfl⟩
  | cons next parts =>
    refine ⟨',' :: (joined (next :: parts) ++ close :: rest), ends_comma _, ?_⟩
    rw [joined, List.append_assoc]
    rfl

/-- What starts a part shows that the series is not empty. -/
theorem readSeries_of_starts (hclose : Closes close) {part : List Char} (hpart : Starts part)
    (rest : List Char) :
    readSeries step close state (part ++ rest)
      = readParts step close (part ++ rest).length state (part ++ rest) := by
  obtain ⟨c, tail, rfl, hspace, hbracket, hbrace⟩ := hpart
  have hne : c ≠ close := by
    rcases hclose with rfl | rfl
    · exact hbracket
    · exact hbrace
  unfold readSeries
  simp only [List.cons_append, skipSpace_cons hspace, if_neg hne, List.length_cons]

/-- A whole series is read when there is a step for each of its parts. -/
theorem readSeries_joined (hclose : Closes close) (h : Steps step state parts final)
    (hstarts : ∀ part ∈ parts, Starts part) (rest : List Char) :
    readSeries step close state (joined parts ++ close :: rest) = .ok (final, rest) := by
  cases parts with
  | nil =>
    cases h
    unfold readSeries
    simp only [joined, List.nil_append, skipSpace_cons hclose.isSpace, if_pos]
  | cons part parts =>
    have hlength := length_le_length_joined hstarts
    have hlimit : (part :: parts).length ≤ (joined (part :: parts) ++ close :: rest).length := by
      rw [List.length_append]
      omega
    have hparts := readParts_joined hclose h (List.cons_ne_nil _ _) hlimit rest
    obtain ⟨others, -, hothers⟩ := exists_joined_append hclose part parts rest
    rw [hothers] at hparts ⊢
    rw [readSeries_of_starts hclose (hstarts part List.mem_cons_self)]
    exact hparts

end AccessControl.Json
