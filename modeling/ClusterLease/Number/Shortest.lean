import ClusterLease.Number.Double

/-!
The shortest decimal text of a double.

Of all decimals that read back as the number, one with the fewest digits is written, and of those the
nearest to the number, the even digit on a tie. `Style` holds what is left to a format to decide.
-/

namespace ClusterLease

namespace Double

/-- The reals that round to a magnitude of some units: bounds in quarter units, and whether they belong to it. -/
structure Basin where
  low : Nat
  high : Nat
  closed : Bool

/-- The reals that round to a positive magnitude. Just above a power of two the lower gap is half as wide. -/
def basin (units : Nat) : Basin :=
  let shift := droppedBits units
  let gapAbove := Nat.pow 2 shift
  let gapBelow := if shift ≠ 0 && units == Nat.pow 2 units.log2 then Nat.pow 2 (shift - 1) else gapAbove
  { low := 4 * units - 2 * gapBelow
    high := 4 * units + 2 * gapAbove
    closed := units / gapAbove % 2 == 0 }

/-- Whether `num / den` quarter units round to the magnitude. -/
def Basin.contains (b : Basin) (num den : Nat) : Bool :=
  if b.closed then b.low * den ≤ num && num ≤ b.high * den
  else b.low * den < num && num < b.high * den

/-- The exponent of the leading decimal digit of a positive quotient. -/
def leadingExponent (num den : Nat) : Int :=
  if den ≤ num then ((Nat.toDigits 10 (num / den)).length : Int) - 1
  else
    match (List.range 400).find? fun places => den ≤ num * Nat.pow 10 places with
    | some places => -(places : Int)
    | none => -400

/-- A quotient with its value moved by a power of ten. -/
def scaleByTen (num den : Nat) (exponent : Int) : Nat × Nat :=
  if 0 ≤ exponent then (num * Nat.pow 10 exponent.toNat, den) else (num, den * Nat.pow 10 (-exponent).toNat)

/-- Digits and the exponent of the last of them. -/
structure Decimal where
  digits : Nat
  exponent : Int

/-- The better of the two neighbours of a magnitude on a decimal grid, if one of them rounds to it. -/
def onGrid (units : Nat) (exponent : Int) : Option Decimal :=
  let (num, den) := scaleByTen units one (-exponent)
  let below := num / den
  let hits (digits : Nat) : Bool :=
    let (n, d) := scaleByTen (digits * one * 4) 1 exponent
    (basin units).contains n d
  let rest := num % den
  -- The numerator's distance to the grid point below, doubled, decides between the neighbours.
  let nearerBelow := 2 * rest < den || (2 * rest == den && below % 2 == 0)
  match hits below, hits (below + 1) with
  | true, true => some ⟨if nearerBelow then below else below + 1, exponent⟩
  | true, false => some ⟨below, exponent⟩
  | false, true => some ⟨below + 1, exponent⟩
  | false, false => none

/-- The shortest decimal that reads back as a positive magnitude; seventeen digits are always enough. -/
def shortest (units : Nat) : Decimal :=
  let leading := leadingExponent units one
  match (List.range 17).findSome? fun (count : Nat) => onGrid units (leading - count) with
  | some decimal => decimal
  | none => ⟨0, 0⟩

/-- What a format decides about decimal text. -/
structure Style where
  /-- The exponents of the leading digit that are written without an exponent. -/
  leastPositional : Int
  mostPositional : Int
  /-- Mark the exponent of a lone digit as in `1.0e+20`. -/
  dotBeforeExponent : Bool
  nanText : String
  infiniteText : String

/-- The exponent part: a sign and at least two digits. -/
def exponentText (exponent : Int) : String :=
  let digits := toString exponent.natAbs
  "e" ++ (if exponent < 0 then "-" else "+") ++ (if digits.length < 2 then "0" else "") ++ digits

/-- Digits with the leading one at a decimal exponent, as text. -/
def digitsText (style : Style) (digits : List Char) (leading : Int) : String :=
  if style.leastPositional ≤ leading ∧ leading ≤ style.mostPositional then
    if leading < 0 then
      "0." ++ String.ofList (List.replicate ((-leading).toNat - 1) '0' ++ digits)
    else
      let whole := leading.toNat + 1
      let padded := digits ++ List.replicate (whole - digits.length) '0'
      let fractional := padded.drop whole
      String.ofList (padded.take whole) ++ "." ++ String.ofList (if fractional.isEmpty then ['0'] else fractional)
  else
    let tail := digits.drop 1
    let dotted :=
      if tail.isEmpty then (if style.dotBeforeExponent then ".0" else "") else "." ++ String.ofList tail
    String.ofList (digits.take 1) ++ dotted ++ exponentText leading

/-- The text of a number in a notation. -/
def render (style : Style) : Double → String
  | nan => style.nanText
  | infinite negative => (if negative then "-" else "") ++ style.infiniteText
  | finite negative units =>
    let sign := if negative then "-" else ""
    if units = 0 then sign ++ "0.0"
    else
      let decimal := shortest units
      let all := Nat.toDigits 10 decimal.digits
      let digits := (all.reverse.dropWhile (· == '0')).reverse
      sign ++ digitsText style digits (decimal.exponent + all.length - 1)

/-- The notation of messages: positional from 0.0001 up to but not including 10 ^ 16. -/
def messageStyle : Style := ⟨-4, 15, false, "nan", "inf"⟩

def text (x : Double) : String := x.render messageStyle

end Double

end ClusterLease
