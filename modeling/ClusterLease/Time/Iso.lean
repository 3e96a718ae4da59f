import ClusterLease.Text.Digit
import ClusterLease.Time.Moment

/-!
Reading moments from text: the calendar and week forms of a day, any one character, and a time.

A day is written with or without hyphens, as year, month and day, or as year, week and weekday, the weekday
being optional. The form decides where the day ends (`dayLength`). A time has an hour and may have minutes,
seconds and a fraction, with or without colons; `Z` or a signed time of the same shape gives the offset.

The reader goes by bytes, so that a separator of several bytes counts as one character.
-/

namespace ClusterLease.Moment.Iso

def digit? (b : UInt8) : Option Nat := if 48 ≤ b ∧ b ≤ 57 then some (b.toNat - 48) else none

/-- The number that a run of digits writes; none if another byte is among them. -/
def number? (bytes : List UInt8) : Option Nat :=
  bytes.foldlM (fun n b => (digit? b).map (n * 10 + ·)) 0

/-- A number of exactly so many digits, and the bytes after it. -/
def digits? (count : Nat) (bytes : List UInt8) : Option (Nat × List UInt8) :=
  if bytes.length < count then none
  else (number? (bytes.take count)).map (·, bytes.drop count)

/-- The byte at a position, zero past the end. -/
def byteAt (bytes : List UInt8) (i : Nat) : Char := Char.ofNat (bytes.getD i 0).toNat

/-- Whether the byte at a position is a digit. -/
def isDigitAt (bytes : List UInt8) (i : Nat) : Bool := Text.isAsciiDigit (byteAt bytes i)

/--
Where the day ends. Only its fifth and sixth character tell the forms apart, and for week dates what
follows: after `YYYY-Www-` a digit in second place belongs to a time, and a run of digits after `YYYYWww`
starts with a weekday if their number is odd, for a time has its digits in pairs.
-/
def dayLength (bytes : List UInt8) : Nat :=
  let length := bytes.length
  if length = 7 then 7
  else if byteAt bytes 4 = '-' then
    if byteAt bytes 5 = 'W' then
      if 8 < length && byteAt bytes 8 == '-' then
        if 10 < length && isDigitAt bytes 10 then 8 else 10
      else 8
    else 10
  else if byteAt bytes 4 = 'W' then
    let stop := 7 + ((bytes.drop 7).takeWhile fun b => (digit? b).isSome).length
    if stop < 9 then stop else if stop % 2 = 0 then 7 else 8
  else 8

/-- A hyphen where hyphens are in use; nothing where they are not. -/
def hyphen? (used : Bool) (bytes : List UInt8) : Option (List UInt8) :=
  if used then
    match bytes with
    | 45 :: rest => some rest
    | _ => none
  else some bytes

def day? (bytes : List UInt8) : Option Date := do
  let (year, rest) ← digits? 4 bytes
  let hyphens := byteAt rest 0 == '-'
  let rest := if hyphens then rest.drop 1 else rest
  if byteAt rest 0 = 'W' then
    let (week, rest) ← digits? 2 (rest.drop 1)
    if rest.isEmpty then Date.ofWeek? year week 1
    else
      let (weekday, _) ← digits? 1 (← hyphen? hyphens rest)
      Date.ofWeek? year week weekday
  else
    let (month, rest) ← digits? 2 rest
    let (day, _) ← digits? 2 (← hyphen? hyphens rest)
    Date.of? year month day

/-- The numbers of a time, and whether nothing stands between it and what follows. -/
structure Reading where
  hour : Nat
  minute : Nat
  second : Nat
  micros : Nat
  complete : Bool

/--
The fraction of a second: six digits are read, further ones skipped. Anything else makes the reading
incomplete if six digits stand before it, and no reading at all otherwise.
-/
def fraction? (following : Char) (bytes : List UInt8) : Option (Nat × Bool) := do
  let count := min bytes.length 6
  let (value, rest) ← digits? count bytes
  let rest := rest.dropWhile fun b => (digit? b).isSome
  let next := if rest.isEmpty then following else byteAt rest 0
  some (value * Nat.pow 10 (6 - count), next == '\x00')

/--
The numbers of a time from its third part down. `colons` says whether colons stand between the parts;
`following` is the character after the time, zero at the end of the text.
-/
def parts? (colons : Bool) (following : Char) (bytes : List UInt8) :
    (left : Nat) → Option (List Nat × Nat × Bool)
  | 0 => (fraction? following bytes).map fun (micros, complete) => ([], micros, complete)
  | left + 1 => do
    let (value, rest) ← digits? 2 bytes
    match rest with
    | [] => some ([value], 0, following == '\x00')
    | [c] => some ([value], 0, c == 0)
    | c :: next =>
      if colons && c == 58 then
        let (values, micros, complete) ← parts? colons following next left
        some (value :: values, micros, complete)
      else if c == 46 || c == 44 then
        let (micros, complete) ← fraction? following next
        some ([value], micros, complete)
      else if colons then none
      else
        let (values, micros, complete) ← parts? colons following rest left
        some (value :: values, micros, complete)

/-- A time: hours, then minutes and seconds if they are there. A colon after the hours asks for colons. -/
def reading? (following : Char) (bytes : List UInt8) : Option Reading := do
  let (values, micros, complete) ← parts? (byteAt bytes 2 == ':') following bytes 3
  some ⟨values.getD 0 0, values.getD 1 0, values.getD 2 0, micros, complete⟩

def startsOffset (b : UInt8) : Bool := b == 43 || b == 45 || b == 90

/-- An offset. One of less than a second counts as universal time. -/
def offset? (bytes : List UInt8) : Option Offset :=
  match bytes with
  | 90 :: rest => if byteAt rest 0 = '\x00' then some Offset.utc else none
  | sign :: rest => do
    let reading ← reading? '\x00' rest
    let seconds : Int := reading.hour * 3600 + reading.minute * 60 + reading.second
    let micros : Int := if seconds = 0 then 0 else seconds * 1000000 + reading.micros
    if reading.complete then Offset.ofMicros? (if sign == 45 then -micros else micros) else none
  | [] => none

/-- A time of day and the offset after it. -/
def time? (bytes : List UInt8) : Option (TimeOfDay × Option Offset) := do
  let clock := bytes.takeWhile (!startsOffset ·)
  let rest := bytes.dropWhile (!startsOffset ·)
  let reading ← reading? (byteAt rest 0) clock
  let time ← TimeOfDay.of? reading.hour reading.minute reading.second reading.micros
  if rest.isEmpty then (if reading.complete then some (time, none) else none)
  else (offset? rest).map fun offset => (time, some offset)

/-- The length of a UTF-8 character by its first byte. -/
def separatorLength (b : UInt8) : Nat :=
  if b < 128 then 1 else if b &&& 0xF0 == 0xE0 then 3 else if b &&& 0xF0 == 0xF0 then 4 else 2

/-- A moment from the bytes of its text. -/
def ofBytes? (bytes : List UInt8) : Option Moment :=
  if bytes.length < 7 then none
  else do
    let length := dayLength bytes
    let date ← day? (bytes.take length)
    match bytes.drop length with
    | [] => some ⟨date, ⟨0, by decide⟩, none⟩
    | separator :: rest =>
      let (time, offset) ← time? ((separator :: rest).drop (separatorLength separator))
      some ⟨date, time, offset⟩

end ClusterLease.Moment.Iso

namespace ClusterLease.Moment

def ofIsoText? (s : String) : Option Moment := Iso.ofBytes? s.toUTF8.toList

end ClusterLease.Moment
