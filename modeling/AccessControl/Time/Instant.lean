/-
# Instants

Points in time to the nanosecond, within the years -262143 to 262142, and the
durations between them.  Adding a duration is exact; it fails when the result
lies outside these years.  Every minute has sixty seconds: a leap second is no
instant.
-/
namespace AccessControl

/-- A signed length of time. -/
structure Duration where
  nanoseconds : Int
  deriving DecidableEq, Repr

namespace Duration

/-- A number of seconds. -/
def seconds (n : Int) : Duration := ⟨n * 1000000000⟩

/-- A number of minutes. -/
def minutes (n : Int) : Duration := seconds (60 * n)

/-- The longest duration: as many milliseconds as a signed word of 64 bits can count. -/
def longest : Duration := ⟨9223372036854775807 * 1000000⟩

/-- A number of minutes, if a duration can be as long. -/
def minutes? (n : Int) : Option Duration :=
  if -longest.nanoseconds ≤ (minutes n).nanoseconds ∧
      (minutes n).nanoseconds ≤ longest.nanoseconds then
    some (minutes n)
  else none

/-- The number of whole seconds, towards zero. -/
def wholeSeconds (d : Duration) : Int := d.nanoseconds.tdiv 1000000000

end Duration

/-- The nanoseconds from 1970 to the first instant of the year -262143. -/
def Instant.leastNanoseconds : Int := -8334601228800 * 1000000000

/-- The nanoseconds from 1970 to the last instant of the year 262142. -/
def Instant.greatestNanoseconds : Int := 8210266876800 * 1000000000 - 1

/-- A point in time, counted in nanoseconds from the start of 1970.  Leap seconds are not counted,
so that no instant lies within one. -/
structure Instant where
  nanoseconds : Int
  least_le : Instant.leastNanoseconds ≤ nanoseconds
  le_greatest : nanoseconds ≤ Instant.greatestNanoseconds
  deriving DecidableEq, Repr

namespace Instant

/-- The instant with a given count of nanoseconds, if it can be represented. -/
def ofNanoseconds? (nanoseconds : Int) : Option Instant :=
  if h : leastNanoseconds ≤ nanoseconds ∧ nanoseconds ≤ greatestNanoseconds then
    some ⟨nanoseconds, h.1, h.2⟩
  else none

/-- The first instant. -/
def earliest : Instant := ⟨leastNanoseconds, by decide, by decide⟩

/-- The last instant. -/
def latest : Instant := ⟨greatestNanoseconds, by decide, by decide⟩

/-- The start of 1970. -/
def epoch : Instant := ⟨0, by decide, by decide⟩

instance : LT Instant := ⟨fun a b => a.nanoseconds < b.nanoseconds⟩
instance : LE Instant := ⟨fun a b => a.nanoseconds ≤ b.nanoseconds⟩
instance : DecidableLT Instant := fun a b =>
  inferInstanceAs (Decidable (a.nanoseconds < b.nanoseconds))
instance : DecidableLE Instant := fun a b =>
  inferInstanceAs (Decidable (a.nanoseconds ≤ b.nanoseconds))

/-- The instant a duration later, if it can be represented. -/
def add? (t : Instant) (d : Duration) : Option Instant :=
  ofNanoseconds? (t.nanoseconds + d.nanoseconds)

/-! ## Small facts -/

/-- An instant is known by its count of nanoseconds. -/
@[ext]
theorem ext {a b : Instant} (h : a.nanoseconds = b.nanoseconds) : a = b := by
  cases a
  cases b
  cases h
  rfl

theorem le_def {a b : Instant} : a ≤ b ↔ a.nanoseconds ≤ b.nanoseconds := Iff.rfl

theorem lt_def {a b : Instant} : a < b ↔ a.nanoseconds < b.nanoseconds := Iff.rfl

theorem not_lt {a b : Instant} : ¬ a < b ↔ b ≤ a := Int.not_lt

/-- A count of nanoseconds is an instant exactly when it lies between the two ends. -/
theorem ofNanoseconds?_eq_some_iff {n : Int} {t : Instant} :
    ofNanoseconds? n = some t ↔ t.nanoseconds = n := by
  unfold ofNanoseconds?
  constructor
  · intro h
    split at h
    · cases h
      rfl
    · cases h
  · rintro rfl
    rw [dif_pos ⟨t.least_le, t.le_greatest⟩]

/-- The sum of an instant and a duration is exact. -/
theorem add?_eq_some_iff {t u : Instant} {d : Duration} :
    t.add? d = some u ↔ u.nanoseconds = t.nanoseconds + d.nanoseconds :=
  ofNanoseconds?_eq_some_iff

end Instant

end AccessControl
