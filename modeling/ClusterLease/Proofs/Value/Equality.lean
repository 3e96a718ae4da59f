import ClusterLease.Lease

/-!
Equality of values and leases can be decided, so that what a document holds can be checked by evaluation.
-/

namespace ClusterLease

namespace Value

mutual

/-- Whether two values are equal, constructor by constructor. -/
def equals : Value → Value → Bool
  | null, null => true
  | bool a, bool b => a == b
  | int a, int b => a == b
  | real a, real b => decide (a = b)
  | text a, text b => a == b
  | bytes a, bytes b => a == b
  | date a, date b => a == b
  | moment a, moment b => a == b
  | list a, list b => equalItems a b
  | pair a b, pair c d => equals a c && equals b d
  | map a, map b => equalEntries a b
  | set a, set b => equalItems a b
  | _, _ => false

/-- Whether two lists have equal values in the same places. -/
def equalItems : List Value → List Value → Bool
  | [], [] => true
  | a :: as, b :: bs => equals a b && equalItems as bs
  | _, _ => false

/-- Whether two mappings have equal entries in the same places. -/
def equalEntries : List (Value × Value) → List (Value × Value) → Bool
  | [], [] => true
  | (k, a) :: as, (l, b) :: bs => equals k l && equals a b && equalEntries as bs
  | _, _ => false

end

mutual

/-- The test tells equality, by recursion on the first value: different constructors are never equal, and parts
are compared by the tests for lists and entries. -/
theorem equals_iff : (a b : Value) → (equals a b = true ↔ a = b)
  | null, b | bool _, b | int _, b | real _, b | text _, b | bytes _, b | date _, b | moment _, b => by
    cases b <;> simp [equals]
  | list a, b => by cases b <;> simp [equals, equalItems_iff a]
  | pair a c, b => by cases b <;> simp [equals, equals_iff a, equals_iff c]
  | map a, b => by cases b <;> simp [equals, equalEntries_iff a]
  | set a, b => by cases b <;> simp [equals, equalItems_iff a]

/-- The same for values in a row. -/
theorem equalItems_iff : (as bs : List Value) → (equalItems as bs = true ↔ as = bs)
  | [], bs => by cases bs <;> simp [equalItems]
  | a :: as, bs => by cases bs <;> simp [equalItems, equals_iff a, equalItems_iff as]

/-- The same for entries in a row. -/
theorem equalEntries_iff : (as bs : List (Value × Value)) → (equalEntries as bs = true ↔ as = bs)
  | [], bs => by cases bs <;> simp [equalEntries]
  | (k, a) :: as, bs => by
    cases bs with
    | nil => simp [equalEntries]
    | cons b bs => simp [equalEntries, equals_iff k, equals_iff a, equalEntries_iff as, Prod.ext_iff]

end

end Value

instance : DecidableEq Value := fun a b => decidable_of_iff _ (Value.equals_iff a b)

instance : DecidableEq Lease := fun a b =>
  decidable_of_iff (a.owner = b.owner ∧ a.expiry = b.expiry) (Lease.mk.injEq ..).symm.to_iff

end ClusterLease
