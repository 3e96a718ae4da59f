import ClusterLease.Proofs.Time.Iso
import ClusterLease.Proofs.Value.Equality

/-!
Leases as entries of documents, and back.

A lease can be written if it ends on a day or at a moment (`Dated`). Its entry holds the owner and
the text of the end, so that what is read back is a moment (`ofEntry_entry`): for a day its
midnight, for a moment the moment itself, unless its offset is below a second. An `Ordinary` lease,
of a user until a moment, is read back as it was (`Ordinary.restored`).
-/

namespace ClusterLease.Lease

/-- The entry of an owner until a time given by its text. -/
def entry (owner : Value) (timeout : String) : Value :=
  .map [(.text "owner", owner), (.text "timeout", .text timeout)]

/-- A lease whose end has a text, as days and moments have. -/
def Dated (lease : Lease) : Prop := (expiryText lease.expiry).toOption.isSome

instance (lease : Lease) : Decidable lease.Dated := inferInstanceAs (Decidable (_ = true))

/-- The text of the end of a lease, empty for one that cannot be written. -/
def timeout (lease : Lease) : String := (expiryText lease.expiry).toOption.getD ""

/-- What the text of an end is read as. -/
def restoredExpiry : Value → Value
  | .date day => .moment ⟨day, ⟨0, TimeOfDay.zero_bounded⟩, none⟩
  | .moment m => .moment m.settled
  | value => value

/-- What is read back of a lease that was written, where `back` says what owners are read as. -/
def restored (back : Value → Value) (lease : Lease) : Lease :=
  ⟨back lease.owner, restoredExpiry lease.expiry⟩

/-- The lease of a user until a moment whose offset, if it has one, counts whole seconds. -/
def Ordinary (lease : Lease) : Prop :=
  ∃ user m, lease = ofUser user m ∧ ∀ offset ∈ m.offset, offset.micros % 1000000 = 0

variable {lease : Lease}

/-- A lease that ends on a day or at a moment has an entry. -/
theorem toEntry_of_dated (h : lease.Dated) :
    lease.toEntry = .ok (entry lease.owner lease.timeout) := by
  obtain ⟨owner, expiry⟩ := lease
  cases expiry with
  | date day => rfl
  | moment m => rfl
  | _ => cases h

/-- Any other end has no text. -/
theorem toEntry_of_not_dated (h : ¬lease.Dated) :
    lease.toEntry = .error (.mishap .missingMember) := by
  obtain ⟨owner, expiry⟩ := lease
  cases expiry with
  | date day => exact absurd rfl h
  | moment m => exact absurd rfl h
  | _ => rfl

/-- The entry of any owner until the end of a lease is read as that owner's lease. -/
theorem ofEntry_entry (h : lease.Dated) (owner : Value) :
    ofEntry (entry owner lease.timeout) = .ok ⟨owner, restoredExpiry lease.expiry⟩ := by
  have hentry (text : String) (m : Moment) (htext : Moment.ofIsoText? text = some m) :
      ofEntry (entry owner text) = .ok ⟨owner, .moment m⟩ := by
    have htimeout : Value.require (entry owner text) "timeout" = .ok (.text text) := rfl
    have howner : Value.require (entry owner text) "owner" = .ok owner := rfl
    rw [ofEntry, htimeout]
    show (readExpiry (.text text) >>= _) = _
    rw [readExpiry, htext, howner]
    rfl
  obtain ⟨_, expiry⟩ := lease
  cases expiry with
  | date day => exact hentry _ _ (Moment.ofIsoText?_date day)
  | moment m => exact hentry _ _ (Moment.ofIsoText?_isoText m)
  | _ => cases h

/-! ### Ordinary leases -/

theorem Ordinary.dated (h : lease.Ordinary) : lease.Dated := by
  obtain ⟨user, m, rfl, -⟩ := h
  rfl

theorem Ordinary.owner (h : lease.Ordinary) : ∃ user, lease.owner = .text user := by
  obtain ⟨user, m, rfl, -⟩ := h
  exact ⟨user, rfl⟩

/-- Of an ordinary lease nothing is lost, as long as texts are given back. -/
theorem Ordinary.restored {back : Value → Value} (h : lease.Ordinary)
    (hback : ∀ user, back (.text user) = .text user) : lease.restored back = lease := by
  obtain ⟨user, m, rfl, hoffset⟩ := h
  show (⟨back (.text user), .moment m.settled⟩ : Lease) = _
  rw [hback, Moment.settled_of_seconds hoffset]
  rfl

namespace Sample

def noon : Moment :=
  ⟨⟨2026, 10, 18, by decide⟩, ⟨43200000000, by decide⟩, some Offset.utc⟩

def ann : Lease := .ofUser "ann" noon

def carol : Lease := .ofUser "carol" noon

/-- It ends at a moment in universal time. -/
theorem ordinary_until_noon (user : String) : (ofUser user noon).Ordinary :=
  ⟨user, noon, rfl, by decide⟩

end Sample

end ClusterLease.Lease
