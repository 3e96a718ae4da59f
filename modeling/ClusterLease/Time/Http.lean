import ClusterLease.Time.Moment

/-!
Times as HTTP writes them: weekday, day, month, year and time of day in universal time.
-/

namespace ClusterLease

/-- The names of the weekdays, from Monday on. -/
def weekdayNames : List String := ["Mon", "Tue", "Wed", "Thu", "Fri", "Sat", "Sun"]

def monthNames : List String :=
  ["Jan", "Feb", "Mar", "Apr", "May", "Jun", "Jul", "Aug", "Sep", "Oct", "Nov", "Dec"]

/-- A day as HTTP writes it, before a time of day. -/
def Date.httpDayText (d : Date) : String :=
  let weekday := weekdayNames.getD (Date.weekday d.ordinal).toNat ""
  let month := monthNames.getD (d.month - 1) ""
  s!"{weekday}, {Text.zeroPadded 2 d.day} {month} {Text.zeroPadded 4 d.year}"

/-- A day as HTTP writes it, at midnight. -/
def Date.httpText (d : Date) : String := s!"{d.httpDayText} 00:00:00 GMT"

/-- A moment as HTTP writes it, if it has a place in universal time. A local one counts as universal. -/
def Moment.httpText? (m : Moment) : Option String := do
  let utc ← if m.offset.isNone then some m else m.toUtc?
  let two (n : Nat) : String := Text.zeroPadded 2 n
  let time := utc.time
  some s!"{utc.date.httpDayText} {two time.hour}:{two time.minute}:{two time.second} GMT"

end ClusterLease
