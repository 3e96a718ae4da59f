import ClusterLease.Number.Double
import ClusterLease.Text.Blank
import ClusterLease.Text.Digit
import ClusterLease.Text.Hex

/-!
Reading numbers from text.

Blanks may surround a numeral, decimal digits of any script may write it, and single underscores may stand
between digits. `int?` reads a whole number of at most 4300 digits, `double?` a decimal with an optional
fraction and exponent, or one of the words for infinity and for no number.
-/

namespace ClusterLease.Numeral

open Text

/-- A whole number is written with at most this many digits. -/
def maxDigits : Nat := 4300

/-- A decimal digit of any script as the ASCII digit of its value; other characters stay. -/
def asciiForm (c : Char) : Char :=
  match decimalValue? c with
  | some value => Char.ofNat ('0'.toNat + value)
  | none => c

/-- The text without its underscores, each of which must stand between two digits. -/
def joinGroups (afterDigit : Bool) : List Char → Option (List Char)
  | [] => some []
  | '_' :: next :: rest =>
    if afterDigit && isAsciiDigit next then (joinGroups true rest).map (next :: ·) else none
  | ['_'] => none
  | c :: rest => (joinGroups (isAsciiDigit c) rest).map (c :: ·)

/-- The text of a numeral in ASCII, without blanks around it and underscores in it. -/
def plain? (s : String) : Option (List Char) :=
  joinGroups false ((trim isNumeralBlank s.toList).map asciiForm)

/-- A sign, if there is one, and what follows it. -/
def splitSign : List Char → Bool × List Char
  | '-' :: rest => (true, rest)
  | '+' :: rest => (false, rest)
  | rest => (false, rest)

/-- The number that decimal digits write, the highest first. -/
def natOfDigits (cs : List Char) : Nat := cs.foldl (fun n c => n * 10 + (c.toNat - '0'.toNat)) 0

def int? (s : String) : Option Int := do
  let (negative, digits) := splitSign (← plain? s)
  if digits.isEmpty || !digits.all isAsciiDigit || maxDigits < digits.length then none
  else
    let magnitude : Int := natOfDigits digits
    some (if negative then -magnitude else magnitude)

/-- The mark that may stand before the digits of a base. -/
def baseMark (base : Nat) (c : Char) : Bool :=
  (base == 2 && (c == 'b' || c == 'B')) || (base == 8 && (c == 'o' || c == 'O')) ||
    (base == 16 && (c == 'x' || c == 'X'))

/-- A whole number in a base, with or without the mark of the base. -/
def intInBase? (base : Nat) (s : String) : Option Int := do
  let (negative, digits) := splitSign (← plain? s)
  let digits := match digits with
    | '0' :: mark :: rest => if baseMark base mark then rest else digits
    | _ => digits
  let values ← digits.mapM hexValue?
  if values.isEmpty || values.any (base ≤ ·) then none
  else
    let magnitude : Nat := values.foldl (fun n value => n * base + value) 0
    some (if negative then -(magnitude : Int) else magnitude)

/--
The double nearest to digits with a decimal exponent. Far beyond the range of doubles the power of ten is
not computed: `digits * 10 ^ exponent` has at least `exponent` digits, and at most `count + exponent`.
-/
def ofDecimal (negative : Bool) (digits count : Nat) (exponent : Int) : Double :=
  if digits = 0 then .finite negative 0
  else if 400 < exponent then .infinite negative
  else if exponent + count < -400 then .finite negative 0
  else if 0 ≤ exponent then .ofRatio negative (digits * Nat.pow 10 exponent.toNat) 1
  else .ofRatio negative digits (Nat.pow 10 (-exponent).toNat)

/-- The exponent after a mantissa: nothing, or a mark, an optional sign and digits. -/
def exponent? : List Char → Option Int
  | [] => some 0
  | c :: rest =>
    let (negative, digits) := splitSign rest
    if (c == 'e' || c == 'E') && !digits.isEmpty && digits.all isAsciiDigit then
      let magnitude : Int := natOfDigits digits
      some (if negative then -magnitude else magnitude)
    else none

/-- An unsigned decimal: digits with at most one point among or around them, and an exponent. -/
def decimal? (negative : Bool) (cs : List Char) : Option Double :=
  let whole := cs.takeWhile isAsciiDigit
  let afterWhole := cs.dropWhile isAsciiDigit
  let (fraction, rest) := match afterWhole with
    | '.' :: tail => (tail.takeWhile isAsciiDigit, tail.dropWhile isAsciiDigit)
    | _ => ([], afterWhole)
  let digits := whole ++ fraction
  if digits.isEmpty then none
  else (exponent? rest).map fun exponent =>
    ofDecimal negative (natOfDigits digits) digits.length (exponent - fraction.length)

/-- An ASCII capital as its small letter. -/
def asciiLower (c : Char) : Char := if 'A' ≤ c && c ≤ 'Z' then Char.ofNat (c.toNat + 32) else c

/-- A decimal, an infinity or no number, from text in ASCII. -/
def plainDouble? (cs : List Char) : Option Double :=
  let (negative, rest) := splitSign cs
  let word := String.ofList (rest.map asciiLower)
  if word = "inf" || word = "infinity" then some (.infinite negative)
  else if word = "nan" then some .nan
  else decimal? negative rest

def double? (s : String) : Option Double := (plain? s).bind plainDouble?

example : int? " -1_000 " = some (-1000) := by decide +kernel
example : int? "1__0" = none := by decide +kernel

end ClusterLease.Numeral
