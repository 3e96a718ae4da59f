import ClusterLease.Value

/-!
The order of keys.

Numbers are ordered among themselves, and so are texts, bytes, days, local moments and moments with an
offset. Keys of different kinds have no order, so a mapping that mixes them cannot be sorted.
-/

namespace ClusterLease.Value

/-- The kinds of keys that can be ordered. -/
inductive OrderKind where
  | number
  | text
  | bytes
  | date
  | localMoment
  | moment
  deriving DecidableEq

/-- The kind of a key; null has no order at all. -/
def orderKind? : Value → Option OrderKind
  | bool _ | int _ | real _ => some .number
  | text _ => some .text
  | bytes _ => some .bytes
  | date _ => some .date
  | moment m => some (if m.offset.isNone then .localMoment else .moment)
  | _ => none

/-- A number as a double counts it: below or above all finite ones, or a count of units. -/
def numberKey : Value → Int × Int
  | bool b => (0, if b then Double.one else 0)
  | int n => (0, n * Double.one)
  | real (.infinite negative) => (if negative then -1 else 1, 0)
  | real x => (0, x.signedUnits?.getD 0)
  | _ => (0, 0)

/-- Whether the first of two pairs comes before the second. -/
def pairLess (a b : Int × Int) : Bool := a.1 < b.1 || (a.1 == b.1 && a.2 < b.2)

def bytesLess : List UInt8 → List UInt8 → Bool
  | _, [] => false
  | [], _ :: _ => true
  | a :: as, b :: bs => a < b || (a == b && bytesLess as bs)

/-- Whether a key comes before another one of the same kind. -/
def keyLess : Value → Value → Bool
  | text a, text b => a < b
  | bytes a, bytes b => bytesLess a b
  | date a, date b => a.ordinal < b.ordinal
  | moment a, moment b => (b.later? a).getD false
  | a, b => pairLess a.numberKey b.numberKey

/-- Whether all keys can be ordered among themselves. -/
def areOrdered (keys : List Value) : Bool :=
  match keys with
  | [] => true
  | [_] => true
  | key :: rest => key.orderKind?.isSome && rest.all fun other => other.orderKind? == key.orderKind?

end ClusterLease.Value

namespace ClusterLease.Entries

/-- An entry put in front of the first one that is not before it. -/
def putInOrder (entry : Value × Value) : Entries → Entries
  | [] => [entry]
  | other :: rest => if other.1.keyLess entry.1 then other :: putInOrder entry rest else entry :: other :: rest

/-- The entries in the order of their keys, or as they are if the keys have no order. -/
def sorted (entries : Entries) : Entries :=
  if Value.areOrdered (entries.map (·.1)) then entries.foldr putInOrder [] else entries

end ClusterLease.Entries
