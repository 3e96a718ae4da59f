import ClusterLease.Proofs.Lease.Keeping

/-!
Leases go into documents and come out of them as they were.

A lease until a moment is read back from its entry with the same owner, the same clock and the same
offset, as long as the offset counts whole seconds (`Exact.restored_from_entry`). So no two such leases
have one entry, and an entry, alone or in a document with others, may be read and written again as
often as one likes (`unchanged_by_rewriting`).
-/

namespace ClusterLease

/-- A step that may fail, taken so many times. -/
def repeated {α : Type} (step : α → Except Fault α) : (count : Nat) → α → Except Fault α
  | 0, value => .ok value
  | count + 1, value => step value >>= repeated step count

/-- What one step leaves as it is, any number of steps do. -/
theorem repeated_of_fixed {α : Type} {step : α → Except Fault α} {value : α} (h : step value = .ok value)
    (count : Nat) : repeated step count value = .ok value := by
  induction count with
  | zero => rfl
  | succ count ih =>
    rw [repeated, h]
    exact ih

namespace Lease

variable {lease : Lease}

/-- A lease of anyone until a moment that is local, or whose offset counts whole seconds. -/
def Exact (lease : Lease) : Prop :=
  ∃ m : Moment, lease.expiry = .moment m ∧ ∀ offset ∈ m.offset, offset.micros % 1000000 = 0

/-- An entry that is read as a lease, which is written as an entry again. -/
def rewritten (entry : Value) : Except Fault Value := ofEntry entry >>= toEntry

/-- A lease with an exact end lasts. -/
theorem Exact.lasting (h : lease.Exact) : Store.Lasting lease := by
  obtain ⟨m, hm, hoffset⟩ := h
  exact ⟨m, hm, Moment.settled_of_seconds hoffset⟩

/-- It has an entry. -/
theorem Exact.toEntry (h : lease.Exact) : lease.toEntry = .ok (entry lease.owner lease.timeout) :=
  toEntry_of_dated h.lasting.dated

/-- It is read again from that entry. -/
theorem Exact.restored_from_entry (h : lease.Exact) :
    ofEntry (entry lease.owner lease.timeout) = .ok lease := by
  rw [ofEntry_entry h.lasting.dated]
  exact congrArg Except.ok (h.lasting.restored id)

/-- What two leases are both written as, they are both read back from. -/
theorem Exact.eq_of_toEntry {other : Lease} (h : lease.Exact) (hother : other.Exact)
    (heq : other.toEntry = lease.toEntry) : other = lease := by
  rw [hother.toEntry, h.toEntry, Except.ok.injEq] at heq
  have hread := hother.restored_from_entry
  rw [heq, h.restored_from_entry] at hread
  exact (Except.ok.inj hread).symm

/-- Rewriting such an entry changes nothing. -/
theorem Exact.rewritten (h : lease.Exact) :
    rewritten (entry lease.owner lease.timeout) = .ok (entry lease.owner lease.timeout) := by
  rw [Lease.rewritten, h.restored_from_entry]
  exact h.toEntry

end Lease

/-! ### Documents -/

namespace Store

/-- What is read of a document into which leases were written. -/
def reread (path : String) (leases : Leases) : Except Fault Leases := do
  let entries ← toEntries leases
  let reading ← readDocument path (.map entries)
  .ok reading.leases

/-- All leases of a document are read back, and none of them is passed over. -/
theorem reread_of_exact {leases : Leases} (hdistinct : leases.Distinct)
    (hexact : ∀ kept ∈ leases, kept.2.Exact) (path : String) : reread path leases = .ok leases := by
  have hdated : leases.Dated := fun kept hkept => (hexact kept hkept).lasting.dated
  have howners : leases.rows.withOwners id = leases.rows := List.map_id _
  have hrestored : leases.restored id = leases := by
    refine (List.map_congr_left fun kept hkept => ?_).trans (List.map_id leases)
    exact congrArg (Prod.mk kept.1) ((hexact kept hkept).lasting.restored id)
  have haccepted : leases.rows.entries.filterMap accepted = leases := by
    rw [← howners, accepted_rows hdated id, hrestored]
  -- No cluster comes twice, so that no lease takes the place of another one.
  have hmerged : leasesOf leases.rows.entries = leases := by
    rw [leasesOf, haccepted]
    exact Table.merge_of_distinct hdistinct
  obtain ⟨warnings, hread⟩ := readDocument_map (named_entries leases.rows) path
  rw [reread, toEntries_of_dated hdated]
  show (readDocument path (.map leases.rows.entries) >>= fun reading => .ok reading.leases) = _
  rw [hread, hmerged]
  rfl

end Store

namespace Lease

/-- A lease is what its entry is read as, and is the only one with that entry. Read and written again,
however often, the entry stays the same, and so do all leases of a document. -/
theorem unchanged_by_rewriting {lease : Lease} (h : lease.Exact) : ∃ entry, lease.toEntry = .ok entry ∧
    ofEntry entry = .ok lease ∧
    (∀ other : Lease, other.Exact → other.toEntry = .ok entry → other = lease) ∧
    (∀ count, repeated rewritten count entry = .ok entry) ∧
    ∀ leases : Leases, leases.Distinct → (∀ kept ∈ leases, kept.2.Exact) →
      ∀ path count, repeated (Store.reread path) count leases = .ok leases := by
  refine ⟨entry lease.owner lease.timeout, h.toEntry, h.restored_from_entry, ?_,
    repeated_of_fixed h.rewritten, ?_⟩
  · intro other hother heq
    exact h.eq_of_toEntry hother (heq.trans h.toEntry.symm)
  · intro leases hdistinct hexact path
    exact repeated_of_fixed (Store.reread_of_exact hdistinct hexact path)

namespace Sample

/-- The last microsecond but one of a leap day, almost a day behind universal time. -/
def lastMoment : Moment :=
  ⟨⟨4, 2, 29, by decide⟩, ⟨86399999998, by decide⟩, some ⟨-86399000000, by decide⟩⟩

theorem exact_until_last (owner : Value) : (Lease.mk owner (.moment lastMoment)).Exact :=
  ⟨lastMoment, rfl, by decide⟩

end Sample

open Sample in
/-- A lease with a year below 1000, a fraction of a second, and an offset with seconds. -/
theorem unchanged_by_rewriting_of_last : (Lease.mk (.text "ann") (.moment lastMoment)).Exact ∧
    (Lease.mk (.text "ann") (.moment lastMoment)).toEntry =
      .ok (entry (.text "ann") "0004-02-29T23:59:59.999998-23:59:59") ∧
    ofEntry (entry (.text "ann") "0004-02-29T23:59:59.999998-23:59:59") =
      .ok ⟨.text "ann", .moment lastMoment⟩ := by
  have hexact := exact_until_last (.text "ann")
  have htext : lastMoment.isoText = "0004-02-29T23:59:59.999998-23:59:59" := by decide +kernel
  have hentry : (Lease.mk (.text "ann") (.moment lastMoment)).toEntry =
      .ok (entry (.text "ann") "0004-02-29T23:59:59.999998-23:59:59") := htext ▸ hexact.toEntry
  obtain ⟨entry, hwritten, hread, -⟩ := unchanged_by_rewriting hexact
  cases hentry.symm.trans hwritten
  exact ⟨hexact, hentry, hread⟩

end Lease

end ClusterLease
