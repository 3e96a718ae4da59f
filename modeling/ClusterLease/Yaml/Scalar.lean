import ClusterLease.Text.Base64
import ClusterLease.Text.LetterCase
import ClusterLease.Value
import ClusterLease.Yaml.Node

/-!
The values of scalars.

The tag says what a text has to be read as. A tag may be written by hand, so the text need not suit it; how
that fails differs from tag to tag.
-/

namespace ClusterLease.Yaml.Scalar

/-- A value, or the failure for a text that does not suit. -/
def orFail {α : Type} (what : Mishap) (found : Option α) : Except Problem α :=
  match found with
  | some value => .ok value
  | none => .error (.mishap what)

def withoutLines (s : String) : List Char := s.toList.filter (· != '_')

/-- A sign of a text that must not be empty, and what follows it. -/
def sign (cs : List Char) : Except Problem (Bool × List Char) :=
  match cs with
  | [] => .error (.mishap .missingIndex)
  | cs => .ok (Numeral.splitSign cs)

/-- The parts between colons as numbers, the first one counting most. -/
def sexagesimal (cs : List Char) : Except Problem Int :=
  (cs.splitOn ':').foldlM
    (fun total part => (orFail .badValue (Numeral.int? (String.ofList part))).map (total * 60 + ·)) 0

/-- A whole number in the base that its first characters show. -/
def magnitude (digits : List Char) : Except Problem Int :=
  let inBase (base : Nat) (digits : List Char) : Except Problem Int :=
    orFail .badValue (Numeral.intInBase? base (String.ofList digits))
  match digits with
  | [] => .error (.mishap .missingIndex)
  | ['0'] => .ok 0
  | '0' :: 'b' :: digits => inBase 2 digits
  | '0' :: 'x' :: digits => inBase 16 digits
  | '0' :: _ => inBase 8 digits
  | digits =>
    if digits.contains ':' then sexagesimal digits
    else orFail .badValue (Numeral.int? (String.ofList digits))

def int (s : String) : Except Problem Int := do
  let (negative, digits) ← sign (withoutLines s)
  let magnitude ← magnitude digits
  .ok (if negative then -magnitude else magnitude)

/-- The parts between colons, the last one first, weighted with powers of sixty and added up as doubles. -/
def sexagesimalDouble : (base : Int) → (total : Double) → List Double → Except Problem Double
  | _, total, [] => .ok total
  | base, total, part :: rest =>
    if (Double.ofInt base).isFinite then sexagesimalDouble (base * 60) (total + part * Double.ofInt base) rest
    else .error (.mishap .overflow)

def float (s : String) : Except Problem Double := do
  let (negative, digits) ← sign (withoutLines (Text.lower s))
  let double (part : List Char) : Except Problem Double := orFail .badValue (Numeral.double? (String.ofList part))
  let magnitude ←
    if digits = ".inf".toList then Except.ok (Double.infinite false)
    else if digits = ".nan".toList then .ok Double.nan
    else if digits.contains ':' then do
      sexagesimalDouble 1 .zero (← (digits.splitOn ':').mapM double).reverse
    else double digits
  .ok (if negative then -magnitude else magnitude)

def bool (s : String) : Except Problem Bool :=
  match Text.lower s with
  | "yes" | "true" | "on" => .ok true
  | "no" | "false" | "off" => .ok false
  | _ => .error (.mishap .missingKey)

def number (digits : List Char) : Nat := Numeral.natOfDigits digits

def zoneOffset : Option (Bool × List Char × List Char) → Option Offset
  | none => some Offset.utc
  | some (negative, hours, minutes) =>
    let micros : Int := (number hours * 60 + number minutes) * 60000000
    Offset.ofMicros? (if negative then -micros else micros)

/-- The moment of a time of day with its fraction and zone. -/
def moment (date : Date) (stamp : Stamp) (hour minute second : List Char) : Option Moment := do
  let fraction := stamp.fraction.take 6
  let micros := number (fraction ++ List.replicate (6 - fraction.length) '0')
  let time ← TimeOfDay.of? (number hour) (number minute) (number second) micros
  match stamp.zone with
  | none => some ⟨date, time, none⟩
  | some zone => (zoneOffset zone).map fun offset => ⟨date, time, some offset⟩

/-- A day, or a moment. -/
def timestamp (s : String) : Except Problem Value := do
  let stamp ← orFail .missingMember (Stamp.ofTagged? s.toList)
  let date ← orFail .badValue (Date.of? (number stamp.year) (number stamp.month) (number stamp.day))
  match stamp.clock with
  | none => .ok (.date date)
  | some (hour, minute, second) => (orFail .badValue (moment date stamp hour minute second)).map .moment

def binary (s : String) : Except Problem Value :=
  if s.toList.all (·.toNat < 128) then
    match Text.Base64.decode s.toList with
    | some bytes => .ok (.bytes bytes)
    | none => .error .malformed
  else .error .malformed

/-- The value of a text under a tag. -/
def value (tag : Tag) (s : String) : Except Problem Value :=
  match tag with
  | .null => .ok .null
  | .bool => (bool s).map .bool
  | .int => (int s).map .int
  | .float => (float s).map .real
  | .binary => binary s
  | .timestamp => timestamp s
  | .str => .ok (.text s)
  | _ => .error .malformed

end ClusterLease.Yaml.Scalar
