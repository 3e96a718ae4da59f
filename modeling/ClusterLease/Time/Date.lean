import ClusterLease.Text.Padded

/-!
Days of the Gregorian calendar, years 1 to 9999.

`ordinal` counts days, 1 January of year 1 being day one, and `ofOrdinal?` goes back. `ofWeek?` reads a week
date: weeks start on Monday, and the first week of a year is the one that holds its first Thursday.
-/

namespace ClusterLease

namespace Date

def isLeap (year : Nat) : Bool := year % 4 == 0 && (year % 100 != 0 || year % 400 == 0)

/-- The lengths of the months of a year. -/
def monthLengths (year : Nat) : List Nat :=
  [31, if isLeap year then 29 else 28, 31, 30, 31, 30, 31, 31, 30, 31, 30, 31]

/-- The number of days of a month; zero if there is no such month. -/
def daysInMonth (year month : Nat) : Nat :=
  match month with
  | 0 => 0
  | index + 1 => (monthLengths year).getD index 0

/-- The conditions on year, month and day. -/
def IsDay (year month day : Nat) : Prop :=
  1 ≤ year ∧ year ≤ 9999 ∧ 1 ≤ month ∧ month ≤ 12 ∧ 1 ≤ day ∧ day ≤ daysInMonth year month

instance (year month day : Nat) : Decidable (IsDay year month day) := by unfold IsDay; infer_instance

end Date

/-- A day of the calendar. -/
structure Date where
  year : Nat
  month : Nat
  day : Nat
  valid : Date.IsDay year month day
  deriving DecidableEq, Repr

namespace Date

/-- The day with these numbers, if there is one. -/
def of? (year month day : Nat) : Option Date :=
  if h : IsDay year month day then some ⟨year, month, day, h⟩ else none

/-- The days of all years before one. -/
def daysBeforeYear (year : Nat) : Nat :=
  let y := year - 1
  y * 365 + y / 4 - y / 100 + y / 400

/-- The days of a year before a month. -/
def daysBeforeMonth (year month : Nat) : Nat := ((monthLengths year).take (month - 1)).foldl (· + ·) 0

/-- The number of a day, 1 January of year 1 being one. -/
def ordinal (d : Date) : Nat := daysBeforeYear d.year + daysBeforeMonth d.year d.month + d.day

/-- The month of a day of the year, counted from zero, and the day of the month, both counted from one. -/
def monthAndDay (dayOfYear : Nat) : (month : Nat) → List Nat → Nat × Nat
  | month, [] => (month, dayOfYear + 1)
  | month, length :: rest =>
    if dayOfYear < length then (month, dayOfYear + 1) else monthAndDay (dayOfYear - length) (month + 1) rest

/-- The year that holds a day: the division by the mean length of a year is at most one year off. -/
def yearOfOrdinal (ordinal : Nat) : Nat :=
  -- In 400 years there are 146097 days.
  let guess := (ordinal - 1) * 400 / 146097 + 1
  if ordinal ≤ daysBeforeYear guess then guess - 1
  else if daysBeforeYear (guess + 1) < ordinal then guess + 1
  else guess

/-- The day of a number, if it falls in the years 1 to 9999. -/
def ofOrdinal? (ordinal : Int) : Option Date :=
  if ordinal < 1 then none
  else
    let n := ordinal.toNat
    let year := yearOfOrdinal n
    let (month, day) := monthAndDay (n - daysBeforeYear year - 1) 1 (monthLengths year)
    of? year month day

/-- The weekday of a numbered day, Monday being zero. -/
def weekday (ordinal : Int) : Int := (ordinal - 1) % 7

/-- The number of the Monday that starts the first week of a year. -/
def firstMonday (year : Nat) : Int :=
  let newYear : Int := daysBeforeYear year + 1
  let day := weekday newYear
  newYear - day + (if 3 < day then 7 else 0)

/-- Whether a year has 53 weeks: it starts on a Thursday, or on a Wednesday and is a leap year. -/
def isLongYear (year : Nat) : Bool :=
  let day := weekday (daysBeforeYear year + 1)
  day == 3 || (day == 2 && isLeap year)

/-- The day with this year, week and day of the week, each counted from one. -/
def ofWeek? (year week day : Nat) : Option Date :=
  if year = 0 ∨ week = 0 ∨ 53 < week ∨ (week = 53 ∧ ¬ isLongYear year) ∨ day = 0 ∨ 7 < day then none
  else ofOrdinal? (firstMonday year + (week - 1) * 7 + (day - 1))

/-- Year, month and day with hyphens between them. -/
def text (d : Date) : String :=
  Text.zeroPadded 4 d.year ++ "-" ++ Text.zeroPadded 2 d.month ++ "-" ++ Text.zeroPadded 2 d.day

/-- Three numbers make a day exactly when they satisfy the conditions. -/
theorem of?_eq_some_iff {year month day : Nat} {d : Date} :
    of? year month day = some d ↔ d.year = year ∧ d.month = month ∧ d.day = day := by
  unfold of?
  constructor
  · intro h
    split at h
    · cases h; exact ⟨rfl, rfl, rfl⟩
    · cases h
  · rintro ⟨rfl, rfl, rfl⟩
    rw [dif_pos d.valid]

end Date

end ClusterLease
