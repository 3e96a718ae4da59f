/-!
Binary floating point numbers of double precision, exactly.

Every finite double is a whole multiple of the smallest positive one, 2 ^ -1074. A finite number is kept as
its sign and that multiple, so equal numbers have equal forms and all arithmetic is exact arithmetic on
natural numbers followed by one rounding, `ofUnits`.

* `roundHalfEven` divides and rounds to the nearest whole number, a half to the even neighbour.
* `ofUnits` rounds a quotient of units to 53 significant bits; from 2 ^ 1024 on the result is infinite.
-/

namespace ClusterLease

/-- A number of double precision. -/
inductive Double where
  | nan
  | infinite (negative : Bool)
  /-- The magnitude is counted in units of 2 ^ -1074. -/
  | finite (negative : Bool) (units : Nat)
  deriving DecidableEq, Repr, Inhabited

/-- A quotient rounded to the nearest whole number, a half to the even neighbour. -/
def roundHalfEven (num den : Nat) : Nat :=
  let quotient := num / den
  let rest := num % den
  if 2 * rest < den then quotient
  else if den < 2 * rest then quotient + 1
  else if quotient % 2 = 0 then quotient else quotient + 1

namespace Double

/-- How many units make one. -/
def one : Nat := Nat.pow 2 1074

/-- The least magnitude, in units, that no finite number has. -/
def tooLarge : Nat := Nat.pow 2 (1024 + 1074)

/-- The count of low bits, of a magnitude in units, that 53 significant bits leave out. -/
def droppedBits (units : Nat) : Nat := units.log2 + 1 - 53

/-- The double nearest to `num / den` units. -/
def ofUnits (negative : Bool) (num den : Nat) : Double :=
  let shift := droppedBits (num / den)
  -- Rounding up to the next power of two needs no correction: the units are shifted back all the same.
  let units := roundHalfEven num (den * Nat.pow 2 shift) * Nat.pow 2 shift
  if units < tooLarge then finite negative units else infinite negative

/-- The double nearest to `num / den`. -/
def ofRatio (negative : Bool) (num den : Nat) : Double := ofUnits negative (num * one) den

/-- The double nearest to a whole number; infinite if there is none. -/
def ofInt (n : Int) : Double := ofRatio (n < 0) n.natAbs 1

def zero : Double := finite false 0

/-- Whether a number is infinite or not a number at all. -/
def isFinite : Double → Bool
  | finite .. => true
  | _ => false

/-- Whether a number is a zero of either sign. -/
def isZero : Double → Bool
  | finite _ 0 => true
  | _ => false

/-- The signed count of units of a finite number. -/
def signedUnits? : Double → Option Int
  | finite negative units => some (if negative then -(units : Int) else units)
  | _ => none

def neg : Double → Double
  | nan => nan
  | infinite negative => infinite !negative
  | finite negative units => finite (!negative) units

instance : Neg Double := ⟨neg⟩

/-- Sum, rounded. A sum of zero is negative only if both terms are negative zeros. -/
def add : Double → Double → Double
  | nan, _ => nan
  | _, nan => nan
  | infinite a, infinite b => if a = b then infinite a else nan
  | infinite a, finite .. => infinite a
  | finite .., infinite b => infinite b
  | finite a m, finite b n =>
    let signed (negative : Bool) (units : Nat) : Int := if negative then -(units : Int) else units
    let sum := signed a m + signed b n
    ofUnits (if sum = 0 then a && b else sum < 0) sum.natAbs 1

instance : Add Double := ⟨add⟩

/-- Product, rounded. -/
def mul : Double → Double → Double
  | nan, _ => nan
  | _, nan => nan
  | infinite a, infinite b => infinite (a != b)
  | infinite a, finite b n => if n = 0 then nan else infinite (a != b)
  | finite a m, infinite b => if m = 0 then nan else infinite (a != b)
  | finite a m, finite b n => ofUnits (a != b) (m * n) one

instance : Mul Double := ⟨mul⟩

/-- Order of numbers; a number that is none compares with nothing. -/
def le : Double → Double → Bool
  | nan, _ => false
  | _, nan => false
  | infinite true, _ => true
  | _, infinite false => true
  | infinite false, _ => false
  | _, infinite true => false
  | finite a m, finite b n =>
    (if a then -(m : Int) else m) ≤ (if b then -(n : Int) else n)

instance : LE Double := ⟨fun a b => le a b = true⟩

instance (a b : Double) : Decidable (a ≤ b) := inferInstanceAs (Decidable (le a b = true))

/-- The whole part, toward zero. -/
def truncate? (x : Double) : Option Int :=
  x.signedUnits?.map fun units => units.tdiv one

/-- The whole number equal to a double, if there is one. -/
def toInt? (x : Double) : Option Int :=
  x.signedUnits?.bind fun units => if units % one = 0 then some (units / one) else none

/-- What is left of a finite number without its whole part, with the same sign. -/
def fraction : Double → Double
  | finite negative units => finite negative (units % one)
  | x => x

/-- Decimal text without a fraction: the nearest whole number, with the sign kept on a zero. -/
def wholeText : Double → String
  | nan => "nan"
  | infinite negative => if negative then "-inf" else "inf"
  | finite negative units => (if negative then "-" else "") ++ toString (roundHalfEven units one)

/-- Whole quotients are not changed by rounding. -/
theorem roundHalfEven_mul_left {den : Nat} (h : 0 < den) (n : Nat) : roundHalfEven (den * n) den = n := by
  simp [roundHalfEven, Nat.mul_div_cancel_left n h, h]

end Double

end ClusterLease
