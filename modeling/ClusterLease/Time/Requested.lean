import ClusterLease.Fault
import ClusterLease.Number.Numeral
import ClusterLease.Value

/-!
Durations as requests give them.

A number counts seconds. A text is, after an optional sign, either digits that count seconds or a run of
parts such as `1h30m`: digits with an optional fraction, and a unit. Parts are looked for from left to right
(`findParts`) and added up as doubles as long as each starts where the one before it stops (`addParts`). The
text is refused unless the last of these stops at its end.
-/

namespace ClusterLease.Duration

open Text

/-- The unit of a part. -/
inductive TimeUnit where
  | hour
  | minute
  | second
  | millisecond
  deriving DecidableEq, Repr

/-- The seconds in a unit. -/
def TimeUnit.seconds : TimeUnit → Double
  | hour => .ofInt 3600
  | minute => .ofInt 60
  | second => .ofInt 1
  | millisecond => .ofRatio false 1 1000

/-- The unit at the start of a text, and what follows it. -/
def unit? : List Char → Option (TimeUnit × List Char)
  | 'h' :: rest => some (.hour, rest)
  | 'm' :: 's' :: rest => some (.millisecond, rest)
  | 'm' :: rest => some (.minute, rest)
  | 's' :: rest => some (.second, rest)
  | _ => none

/-- One part: its digits, with a point before the fraction if there is one, and its unit. -/
structure Part where
  amount : List Char
  unit : TimeUnit
  deriving DecidableEq, Repr

/-- The digits at the start of a text, with a fraction if a point and a digit follow, and the rest. -/
def amount (cs : List Char) : List Char × List Char :=
  let whole := cs.takeWhile isDecimal
  match cs.dropWhile isDecimal with
  | '.' :: rest =>
    let fraction := rest.takeWhile isDecimal
    if fraction.isEmpty then (whole, '.' :: rest) else (whole ++ '.' :: fraction, rest.dropWhile isDecimal)
  | rest => (whole, rest)

/-- The part at the start of a text, and what follows it. -/
def part? (cs : List Char) : Option (Part × List Char) :=
  match cs with
  | [] => none
  | first :: _ =>
    if isDecimal first then
      let (digits, rest) := amount cs
      (unit? rest).map fun (unit, rest) => (⟨digits, unit⟩, rest)
    else none

theorem unit?_length {cs rest : List Char} {unit : TimeUnit} (h : unit? cs = some (unit, rest)) :
    rest.length < cs.length := by
  unfold unit? at h
  split at h <;> simp at h <;> obtain ⟨_, rfl⟩ := h <;> simp only [List.length_cons] <;> omega

theorem amount_length (cs : List Char) : (amount cs).2.length ≤ cs.length := by
  have hdrop (l : List Char) : (l.dropWhile isDecimal).length ≤ l.length := (List.dropWhile_suffix isDecimal).length_le
  unfold amount
  split
  next rest heq =>
    have hcs := hdrop cs
    rw [heq, List.length_cons] at hcs
    have := hdrop rest
    dsimp only
    split
    · exact hcs
    · exact Nat.le_trans this (Nat.le_of_succ_le hcs)
  next => exact hdrop cs

/-- A part takes at least its unit from the text. -/
theorem part?_length {cs rest : List Char} {part : Part} (h : part? cs = some (part, rest)) :
    rest.length < cs.length := by
  cases cs with
  | nil => simp [part?] at h
  | cons first tail =>
    simp only [part?] at h
    split at h
    · obtain ⟨⟨unit, rest'⟩, hunit, heq⟩ := Option.map_eq_some_iff.1 h
      simp only [Prod.mk.injEq] at heq
      obtain ⟨_, rfl⟩ := heq
      exact Nat.lt_of_lt_of_le (unit?_length hunit) (amount_length _)
    · cases h

/-- A part in a text, and the positions at which it starts and stops. -/
structure Found where
  start : Nat
  part : Part
  stop : Nat
  deriving DecidableEq, Repr

/--
The parts in a text that starts at a position, from left to right. After each part the next one is looked
for, and what stands before that is passed over.
-/
def findParts (position : Nat) (cs : List Char) : List Found :=
  match cs with
  | [] => []
  | first :: tail =>
    match _h : part? (first :: tail) with
    | some (part, rest) =>
      let stop := position + ((first :: tail).length - rest.length)
      ⟨position, part, stop⟩ :: findParts stop rest
    | none => findParts (position + 1) tail
termination_by cs.length
decreasing_by
  · exact part?_length _h
  · exact Nat.lt_succ_self _

/-- The seconds of a part. -/
def Part.seconds (part : Part) : Double :=
  match Numeral.decimal? false (part.amount.map Numeral.asciiForm) with
  | some amount => amount * part.unit.seconds
  | none => .zero

/-- Where the parts that are added up stop, and the seconds in them. -/
structure Total where
  stop : Nat
  seconds : Double
  deriving DecidableEq, Repr

/-- Adds up parts as long as each starts where the one before it stops. -/
def addParts (total : Total) : List Found → Total
  | [] => total
  | found :: rest =>
    if found.start = total.stop then addParts ⟨found.stop, total.seconds + found.part.seconds⟩ rest else total

/-- A duration in the range, or the refusal of one that is not. -/
def inRange (value : Value) (duration : Option Duration) : Except Fault Duration :=
  match duration with
  | some duration => .ok duration
  | none => .error (.rejected (.durationOutOfRange value.shown))

/-- A sign at the start of a text, whether it is a minus, and what follows it. -/
def splitSign : List Char → Bool × List Char
  | '-' :: rest => (true, rest)
  | '+' :: rest => (false, rest)
  | rest => (false, rest)

/--
The duration that a text asks for. Digits that no numeral may be written with are a mishap, and so is a
whole number of more digits than can be read.
-/
def ofText (value : Value) (s : String) : Except Fault Duration :=
  let cs := trim isBlank s.toList
  if cs.isEmpty then .error (.rejected .missingDuration)
  else
    let (negative, digits) := splitSign cs
    if !digits.isEmpty && digits.all isDigit then
      (Fault.orMishap .badValue (Numeral.int? (String.ofList digits))).bind fun n =>
        inRange value (ofSeconds? (if negative then -n else n))
    else
      let total := addParts ⟨0, .zero⟩ (findParts 0 digits)
      if total.stop = 0 ∨ total.stop ≠ digits.length then .error (.rejected (.invalidDuration value.shown))
      else inRange value (ofDouble? (if negative then -total.seconds else total.seconds))

/-- The duration that a value of a request asks for. -/
def requested (value : Value) : Except Fault Duration :=
  match value with
  | .bool _ => .error (.rejected (.invalidDuration value.shown))
  | .int n => inRange value (ofSeconds? n)
  | .real x => inRange value (ofDouble? x)
  | other => ofText value other.display

end ClusterLease.Duration
