/-
# JSON values

The values of a JSON text as data.  An object is a list of members: a value that
was read holds them in key order, one value per key (`Value.Canonical`), and a
value made for printing holds them in the order in which they are to be written.
-/
import AccessControl.Keyed
import AccessControl.Number.Double

namespace AccessControl.Json

/-- A number: whole, from `-2 ^ 63` to `2 ^ 64 - 1`, or a finite double. -/
inductive Number where
  | whole (n : Int)
  | double (d : Double)
  deriving DecidableEq, Repr

/-- A JSON value. -/
inductive Value where
  | null
  | bool (b : Bool)
  | number (n : Number)
  | string (text : String)
  | array (items : List Value)
  | object (members : List (String × Value))
  deriving Repr

namespace Value

/-- A whole number as a value. -/
def whole (n : Int) : Value := .number (.whole n)

/-- The value of a text that may be missing. -/
def ofOption (text : Option String) : Value := text.elim .null .string

/-- The members of an object. -/
def members? : Value → Option (List (String × Value))
  | .object members => some members
  | _ => none

/-! ## Equality -/

mutual

/-- Whether two values are equal. -/
def same : Value → Value → Bool
  | .null, .null => true
  | .bool a, .bool b => a = b
  | .number a, .number b => a = b
  | .string a, .string b => a = b
  | .array items, .array others => sameItems items others
  | .object members, .object others => sameMembers members others
  | _, _ => false

/-- Whether two arrays hold equal items. -/
def sameItems : List Value → List Value → Bool
  | [], [] => true
  | a :: items, b :: others => a.same b && sameItems items others
  | _, _ => false

/-- Whether two objects hold equal members in the same order. -/
def sameMembers : List (String × Value) → List (String × Value) → Bool
  | [], [] => true
  | (k, a) :: members, (l, b) :: others => k = l && (a.same b && sameMembers members others)
  | _, _ => false

end

mutual

theorem same_iff_eq : (a b : Value) → (a.same b = true ↔ a = b)
  | a, b => by
    cases a <;> cases b <;> simp [same]
    · exact sameItems_iff_eq _ _
    · exact sameMembers_iff_eq _ _

theorem sameItems_iff_eq : (items others : List Value) →
    (sameItems items others = true ↔ items = others)
  | [], others => by cases others <;> simp [sameItems]
  | _ :: _, [] => by simp [sameItems]
  | a :: items, b :: others => by
    simp [sameItems, same_iff_eq a b, sameItems_iff_eq items others]

theorem sameMembers_iff_eq : (members others : List (String × Value)) →
    (sameMembers members others = true ↔ members = others)
  | [], others => by cases others <;> simp [sameMembers]
  | _ :: _, [] => by simp [sameMembers]
  | (k, a) :: members, (l, b) :: others => by
    simp [sameMembers, same_iff_eq a b, sameMembers_iff_eq members others, and_assoc]

end

instance : DecidableEq Value := fun a b => decidable_of_iff _ (same_iff_eq a b)

/-! ## Canonical values -/

mutual

/-- Every object inside the value holds its members in key order, one value per key. -/
def Canonical : Value → Prop
  | .array items => ItemsCanonical items
  | .object members => Keyed.Increasing members ∧ MembersCanonical members
  | _ => True

/-- Every item is canonical. -/
def ItemsCanonical : List Value → Prop
  | [] => True
  | item :: rest => item.Canonical ∧ ItemsCanonical rest

/-- The value of every member is canonical. -/
def MembersCanonical : List (String × Value) → Prop
  | [] => True
  | (_, value) :: rest => value.Canonical ∧ MembersCanonical rest

end

theorem itemsCanonical_iff {items : List Value} :
    ItemsCanonical items ↔ ∀ item ∈ items, item.Canonical := by
  induction items with
  | nil => simp [ItemsCanonical]
  | cons item rest ih => simp [ItemsCanonical, ih]

theorem membersCanonical_iff {members : List (String × Value)} :
    MembersCanonical members ↔ ∀ member ∈ members, member.2.Canonical := by
  induction members with
  | nil => simp [MembersCanonical]
  | cons member rest ih => simp [MembersCanonical, ih]

section

variable {members : List (String × Value)} {key : String} {value : Value}

/-- What a canonical object holds is canonical. -/
theorem Canonical.find? (h : (object members).Canonical)
    (hfind : Keyed.find? members key = some value) : value.Canonical :=
  membersCanonical_iff.1 h.2 _ (Keyed.mem_of_find? hfind)

theorem Canonical.insert (h : (object members).Canonical) (key : String)
    (hvalue : value.Canonical) : (object (Keyed.insert key value members)).Canonical := by
  refine ⟨h.1.insert key value, membersCanonical_iff.2 fun member hmem => ?_⟩
  rcases Keyed.mem_insert hmem with heq | hold
  · rw [heq]
    exact hvalue
  · exact membersCanonical_iff.1 h.2 member hold

theorem Canonical.erase (h : (object members).Canonical) (key : String) :
    (object (Keyed.erase members key)).Canonical := by
  refine ⟨h.1.erase key, membersCanonical_iff.2 fun member hmem => ?_⟩
  exact membersCanonical_iff.1 h.2 member (List.mem_filter.1 hmem).1

end

end Value

end AccessControl.Json
