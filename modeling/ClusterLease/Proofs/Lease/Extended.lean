import ClusterLease.Lease

/-!
Leases that are made longer.

A lease whose end is a moment is extended by another moment unless there is no order between them
(`extended_eq_ok`); nothing else can go wrong (`extended_error`).
-/

namespace ClusterLease.Lease

variable {lease renewed : Lease} {user : String} {expiry m : Moment} {fault : Fault}

/-- All that can go wrong when times are compared is that there is no order between them. -/
theorem isLater_error {expiry : Value} (h : isLater m expiry = .error fault) :
    fault = .mishap .wrongType := by
  cases expiry with
  | moment old =>
    rw [isLater] at h
    cases hlater : m.later? old with
    | none =>
      rw [hlater] at h
      exact (Except.error.inj h).symm
    | some later =>
      rw [hlater] at h
      cases h
  | _ => exact (Except.error.inj h).symm

/-- Nothing else can go wrong with an extension. -/
theorem extended_error (h : lease.extended user expiry = .error fault) : fault = .mishap .wrongType := by
  rw [extended] at h
  cases hlater : isLater expiry lease.expiry with
  | ok later =>
    rw [hlater] at h
    cases h
  | error other =>
    rw [hlater] at h
    cases h
    exact isLater_error hlater

/-- An extended lease passes to the user, and ends at the later one of both ends. -/
theorem extended_eq_ok (h : lease.extended user expiry = .ok renewed) :
    ∃ last, lease.expiry = .moment last ∧
      (expiry.later? last = some true ∧ renewed = ofUser user expiry ∨
        expiry.later? last = some false ∧ renewed = ofUser user last) := by
  obtain ⟨owner, value⟩ := lease
  rw [extended] at h
  -- Only a moment can be compared at all, and only with one that has a zone just as it has.
  cases value with
  | moment last =>
    refine ⟨last, rfl, ?_⟩
    rw [isLater] at h
    cases hlater : expiry.later? last with
    | none =>
      rw [hlater] at h
      cases h
    | some later =>
      rw [hlater] at h
      cases later with
      | true => exact .inl ⟨rfl, (Except.ok.inj h).symm⟩
      | false => exact .inr ⟨rfl, (Except.ok.inj h).symm⟩
  | _ => cases h

/-- An extended lease belongs to whoever extended it. -/
theorem extended_owner (h : lease.extended user expiry = .ok renewed) : renewed.owner = .text user := by
  obtain ⟨last, -, ⟨-, rfl⟩ | ⟨-, rfl⟩⟩ := extended_eq_ok h <;> rfl

end ClusterLease.Lease
