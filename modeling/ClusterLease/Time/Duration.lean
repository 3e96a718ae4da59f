import ClusterLease.Number.Double
import ClusterLease.Text.Padded

/-!
Spans of time, to the microsecond.

A duration lies between -999999999 days and just under 1000000000 days. `ofSeconds?` and `ofDouble?` read a
count of seconds and fail outside that range; `text` writes days, hours, minutes and seconds.
-/

namespace ClusterLease

namespace Duration

/-- Microseconds in a second. -/
def second : Int := 1000000

/-- Microseconds in a day. -/
def day : Int := 86400 * second

/-- The shortest duration, in microseconds. -/
def least : Int := -999999999 * day

/-- The longest duration, in microseconds. -/
def greatest : Int := 1000000000 * day - 1

end Duration

/-- A span of time, forward or backward. -/
structure Duration where
  micros : Int
  bounded : Duration.least ≤ micros ∧ micros ≤ Duration.greatest
  deriving DecidableEq, Repr

namespace Duration

/-- The duration of a count of microseconds; none if it is out of range. -/
def ofMicros? (micros : Int) : Option Duration :=
  if h : least ≤ micros ∧ micros ≤ greatest then some ⟨micros, h⟩ else none

/-- The duration of a whole number of seconds. -/
def ofSeconds? (seconds : Int) : Option Duration := ofMicros? (seconds * second)

/-- The duration of days, seconds and microseconds, each of any size and sign. -/
def ofParts? (days seconds micros : Int) : Option Duration :=
  ofMicros? (days * day + seconds * second + micros)

/-- A signed quotient rounded to the nearest whole number, a half to the even neighbour. -/
def roundSigned (num : Int) (den : Nat) : Int :=
  let magnitude : Int := roundHalfEven num.natAbs den
  if num < 0 then -magnitude else magnitude

/--
The duration of a number of seconds. The fraction of the number is counted in microseconds as a double, and
only the sum of whole and fraction is rounded to a microsecond, a half to the even neighbour.
-/
def ofDouble? (seconds : Double) : Option Duration := do
  let whole ← seconds.truncate?
  let part ← (Double.ofInt second * seconds.fraction).signedUnits?
  ofMicros? (roundSigned (whole * second * Double.one + part) Double.one)

/-- No time at all. -/
def zero : Duration := ⟨0, by decide⟩

instance : LE Duration := ⟨fun a b => a.micros ≤ b.micros⟩

instance : LT Duration := ⟨fun a b => a.micros < b.micros⟩

instance (a b : Duration) : Decidable (a ≤ b) := inferInstanceAs (Decidable (a.micros ≤ b.micros))

instance (a b : Duration) : Decidable (a < b) := inferInstanceAs (Decidable (a.micros < b.micros))

/-- Whole days, rounded down, so that the rest is never negative. -/
def days (d : Duration) : Int := d.micros.fdiv day

/-- Whole seconds after the days, below a day. -/
def seconds (d : Duration) : Int := (d.micros.fmod day).fdiv second

/-- Microseconds after the seconds, below a second. -/
def subseconds (d : Duration) : Int := d.micros.fmod second

/-- Days if there are any, hours, minutes, seconds, and microseconds if there are any. -/
def text (d : Duration) : String :=
  let seconds := d.seconds.toNat
  let days := if d.days = 0 then "" else toString d.days ++ (if d.days.natAbs = 1 then " day, " else " days, ")
  let clock := toString (seconds / 3600) ++ ":" ++ Text.zeroPadded 2 (seconds / 60 % 60) ++ ":" ++
    Text.zeroPadded 2 (seconds % 60)
  let micros := if d.subseconds = 0 then "" else "." ++ Text.zeroPadded 6 d.subseconds.toNat
  days ++ clock ++ micros

end Duration

end ClusterLease
