import ClusterLease.Time.Date
import ClusterLease.Time.Duration

/-!
Points in time: a day, a time of day and, unless the moment is local, an offset from universal time.

Two moments with offsets compare by the instant they name, two local ones by the clock; a local moment and
one with an offset have no order and are never equal.
-/

namespace ClusterLease

/-- A distance from universal time, under a day either way. -/
structure Offset where
  micros : Int
  bounded : -Duration.day < micros ∧ micros < Duration.day
  deriving DecidableEq, Repr

namespace Offset

/-- The offset of a count of microseconds, if it is under a day. -/
def ofMicros? (micros : Int) : Option Offset :=
  if h : -Duration.day < micros ∧ micros < Duration.day then some ⟨micros, h⟩ else none

def utc : Offset := ⟨0, by decide⟩

/-- A sign, hours and minutes; seconds and microseconds only where they are needed. -/
def text (offset : Offset) : String :=
  let micros := offset.micros.natAbs
  let seconds := micros / 1000000
  let rest := micros % 1000000
  (if offset.micros < 0 then "-" else "+") ++ Text.zeroPadded 2 (seconds / 3600) ++ ":" ++
    Text.zeroPadded 2 (seconds / 60 % 60) ++
    (if seconds % 60 = 0 ∧ rest = 0 then "" else ":" ++ Text.zeroPadded 2 (seconds % 60)) ++
    (if rest = 0 then "" else "." ++ Text.zeroPadded 6 rest)

end Offset

/-- The time of a day, in microseconds since midnight. -/
structure TimeOfDay where
  micros : Nat
  bounded : micros < 86400000000
  deriving DecidableEq, Repr

namespace TimeOfDay

/-- The time of day with these numbers, if there is one. -/
def of? (hour minute second micros : Nat) : Option TimeOfDay :=
  if h : hour < 24 ∧ minute < 60 ∧ second < 60 ∧ micros < 1000000 then
    some ⟨((hour * 60 + minute) * 60 + second) * 1000000 + micros, by omega⟩
  else none

def hour (t : TimeOfDay) : Nat := t.micros / 3600000000

def minute (t : TimeOfDay) : Nat := t.micros / 60000000 % 60

/-- The second of the minute. -/
def second (t : TimeOfDay) : Nat := t.micros / 1000000 % 60

/-- The microsecond of the second. -/
def subsecond (t : TimeOfDay) : Nat := t.micros % 1000000

/-- Hours, minutes and seconds, and microseconds if there are any. -/
def text (t : TimeOfDay) : String :=
  Text.zeroPadded 2 t.hour ++ ":" ++ Text.zeroPadded 2 t.minute ++ ":" ++ Text.zeroPadded 2 t.second ++
    (if t.subsecond = 0 then "" else "." ++ Text.zeroPadded 6 t.subsecond)

end TimeOfDay

/-- A point in time. Without an offset it is local. -/
structure Moment where
  date : Date
  time : TimeOfDay
  offset : Option Offset
  deriving DecidableEq, Repr

namespace Moment

/-- Microseconds on the moment's own clock. -/
def clock (m : Moment) : Int := m.date.ordinal * Duration.day + m.time.micros

/-- The day and time of day of a clock reading, with an offset; none outside the years 1 to 9999. -/
def ofClock? (clock : Int) (offset : Option Offset) : Option Moment := do
  let date ← Date.ofOrdinal? (clock / Duration.day)
  let rest := (clock % Duration.day).toNat
  if h : rest < 86400000000 then some ⟨date, ⟨rest, h⟩, offset⟩ else none

/-- The number of 1 January 1970, from which machines count their seconds. -/
def epochDay : Int := 719163

/-- The moment in universal time so many microseconds after the start of 1970. -/
def ofEpoch? (micros : Int) : Option Moment := ofClock? (epochDay * Duration.day + micros) (some Offset.utc)

/-- Microseconds on the clock of universal time, for a moment with an offset. -/
def instant? (m : Moment) : Option Int := m.offset.map fun offset => m.clock - offset.micros

/-- The moment a duration later, on the same clock. -/
def add? (m : Moment) (d : Duration) : Option Moment := ofClock? (m.clock + d.micros) m.offset

/-- The same instant on the clock of universal time. -/
def toUtc? (m : Moment) : Option Moment := m.instant?.bind fun instant => ofClock? instant (some Offset.utc)

/-- Whether one moment is later than another; none if only one of them has an offset. -/
def later? (a b : Moment) : Option Bool :=
  match a.instant?, b.instant? with
  | some x, some y => some (y < x)
  | none, none => some (b.clock < a.clock)
  | _, _ => none

/-- Whether two moments name the same point in time. -/
def same (a b : Moment) : Bool :=
  match a.instant?, b.instant? with
  | some x, some y => x == y
  | none, none => a.clock == b.clock
  | _, _ => false

/-- Day and time with a separator between them, followed by the offset if there is one. -/
def textWith (separator : String) (m : Moment) : String :=
  m.date.text ++ separator ++ m.time.text ++ (match m.offset with
    | some offset => offset.text
    | none => "")

def isoText (m : Moment) : String := m.textWith "T"

end Moment

end ClusterLease
