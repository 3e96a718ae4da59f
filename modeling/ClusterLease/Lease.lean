import ClusterLease.Table
import ClusterLease.Time.Iso
import ClusterLease.Value.Access

/-!
Leases: who owns a cluster, and until when.

A lease that comes from a document may hold values of any kind. As an entry of a document its expiry is the
text of a moment; `Lease.ofEntry` reads such a text back, and takes a value that is no text as it is.
-/

namespace ClusterLease

/-- The owner of a cluster and the time at which the lease ends. -/
structure Lease where
  owner : Value
  expiry : Value

namespace Lease

/-- The lease of a user until a moment. -/
def ofUser (user : String) (expiry : Moment) : Lease := ⟨.text user, .moment expiry⟩

/-- The text of an expiry; only days and moments have one. -/
def expiryText (expiry : Value) : Except Fault String :=
  match expiry with
  | .date day => .ok day.text
  | .moment m => .ok m.isoText
  | _ => .error (.mishap .missingMember)

def toEntry (lease : Lease) : Except Fault Value :=
  (expiryText lease.expiry).map fun text => .map [(.text "owner", lease.owner), (.text "timeout", .text text)]

/-- An expiry as it is kept: a text must be the text of a moment. -/
def readExpiry (value : Value) : Except Fault Value :=
  match value with
  | .text s => (Fault.orMishap .badValue (Moment.ofIsoText? s)).map .moment
  | value => .ok value

def ofEntry (entry : Value) : Except Fault Lease := do
  let expiry ← readExpiry (← Value.require entry "timeout")
  let owner ← Value.require entry "owner"
  .ok ⟨owner, expiry⟩

/-- Whether a moment is later than an expiry; the two may not be comparable. -/
def isLater (m : Moment) (expiry : Value) : Except Fault Bool :=
  match expiry with
  | .moment old => Fault.orMishap .wrongType (m.later? old)
  | _ => .error (.mishap .wrongType)

/-- The lease passed on to a user; it ends at a moment if that is later than its end so far. -/
def extended (lease : Lease) (user : String) (m : Moment) : Except Fault Lease :=
  (isLater m lease.expiry).map fun later => ⟨.text user, if later then .moment m else lease.expiry⟩

end Lease

abbrev Leases := Table Lease

/-- The lease of a cluster that must have one. -/
def Leases.require (leases : Leases) (id : String) : Except Fault Lease :=
  match leases.get? id with
  | some lease => .ok lease
  | none => .error (.metaNotFound id)

end ClusterLease
