/-!
Decimal numbers of a fixed least width.
-/

namespace ClusterLease.Text

/-- A decimal number with zeros before it up to a width. -/
def zeroPadded (width n : Nat) : String :=
  let digits := Nat.toDigits 10 n
  String.ofList (List.replicate (width - digits.length) '0' ++ digits)

end ClusterLease.Text
