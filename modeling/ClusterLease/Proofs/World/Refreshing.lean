import ClusterLease.Proofs.Lease.Extended
import ClusterLease.Proofs.Lease.Failing
import ClusterLease.Proofs.Manager.Operation
import ClusterLease.Proofs.World.Reading

/-!
Refreshing in a world that keeps its leases in memory.

A refresh succeeds for a cluster that the caller finds, if the new expiry exists and can be compared
with the old one (`World.refreshed`). It then puts a lease in the place of the old one; otherwise it
changes nothing (`run_refresh`).
-/

namespace ClusterLease

open Container (Info)

/-- The leases after a change of one of them: those before, unless it succeeds. -/
def leasesAfter (leases : Leases) (id : String) : Except Fault Lease → Leases
  | .ok lease => leases.put id lease
  | .error _ => leases

namespace Store

variable {format : Format} {leases : Leases} {id : String}

/-- A store in memory stays one, whatever is done with it. -/
theorem perform_memory {α : Type} (format : Format) (leases : Leases) (operation : Operation α) :
    ∃ others, (perform format (memory leases) operation).store = memory others := by
  simp only [perform, onMemory]
  split <;> exact ⟨_, rfl⟩

theorem create_memory (lease : Lease) :
    (memory leases).create format id lease = ⟨.ok (), [], .memory (leases.put id lease)⟩ := rfl

theorem update_memory_of_none {change : Lease → Except Fault Lease} (h : leases.get? id = none) :
    (memory leases).update format id change = ⟨.error (.metaNotFound id), [], .memory leases⟩ := by
  have hrequire : leases.require id = .error (.metaNotFound id) := by rw [Leases.require, h]
  simp only [update, edit, editing, perform, onMemory, hrequire]

theorem update_memory_of_some {change : Lease → Except Fault Lease} {lease : Lease}
    (h : leases.get? id = some lease) : (memory leases).update format id change =
      ⟨change lease, [], .memory (leasesAfter leases id (change lease))⟩ := by
  have hrequire : leases.require id = .ok lease := by rw [Leases.require, h]
  have hspares := (spares_editing_ofChange id change) leases
  simp only [editing, hrequire] at hspares
  simp only [update, edit, editing, perform, onMemory, hrequire, hspares]
  dsimp only [Editor.ofChange]
  cases change lease <;> rfl

end Store

/-- A lease in the place of an old one, if there is an old one. -/
def Lease.renewed (old? : Option Lease) (user : String) (expiry : Moment) : Except Fault Lease :=
  match old? with
  | some old => old.extended user expiry
  | none => .ok (ofUser user expiry)

namespace World

variable {w : World} {m : Manager} {caller : Caller} {leases : Leases}

/-- The outcome of a refresh, where leases are kept in memory. -/
def refreshed (w : World) (leases : Leases) (caller : Caller) (id : String) (extension : Duration) :
    Except Fault Lease :=
  w.list.bind fun listing =>
    if Finds caller listing id then
      match w.clock.add? extension with
      | none => .error (.rejected (.extensionOutOfRange extension))
      | some expiry => Lease.renewed (leases.get? id) caller.user expiry
    else .error (.clusterNotFound id)

/-- A refresh that succeeds has found its cluster and a new expiry. -/
theorem refreshed_eq_ok {id : String} {extension : Duration} {lease : Lease}
    (h : w.refreshed leases caller id extension = .ok lease) :
    ∃ listing expiry, w.list = .ok listing ∧
      Finds caller listing id ∧ w.clock.add? extension = some expiry ∧
        Lease.renewed (leases.get? id) caller.user expiry = .ok lease := by
  rw [refreshed] at h
  -- Whatever fails on the way is no lease, so that each step must have succeeded.
  cases hlist : w.list with
  | error fault =>
    rw [hlist] at h
    cases h
  | ok listing =>
    rw [hlist] at h
    by_cases hfinds : Finds caller listing id
    · simp only [Except.bind, if_pos hfinds] at h
      cases hexpiry : w.clock.add? extension with
      | none =>
        rw [hexpiry] at h
        cases h
      | some expiry =>
        rw [hexpiry] at h
        exact ⟨listing, expiry, rfl, hfinds, rfl, h⟩
    · simp only [Except.bind, if_neg hfinds] at h
      cases h

/-- Why a refresh is refused: nothing is listed, the cluster is not found, or the new expiry is out
of range. -/
def Refuses (w : World) (caller : Caller) (id : String) (extension : Duration) (fault : Fault) :
    Prop :=
  w.plan.list = some fault ∨ w.plan.list = none ∧
    (¬Finds caller (w.containers.map (·.info)) id ∧ fault = .clusterNotFound id ∨
      Finds caller (w.containers.map (·.info)) id ∧ w.clock.add? extension = none ∧
        fault = .rejected (.extensionOutOfRange extension))

/-- Where old and new leases can be compared, nothing else makes a refresh fail. -/
theorem refreshed_eq_error_iff {id : String} {extension : Duration} {fault : Fault}
    (hrenewed : ∀ expiry, w.clock.add? extension = some expiry →
      ∃ lease, Lease.renewed (leases.get? id) caller.user expiry = .ok lease) :
    w.refreshed leases caller id extension = .error fault ↔
      w.Refuses caller id extension fault := by
  rw [refreshed, Refuses, list]
  cases w.plan.list with
  | some failed => simp [Except.bind]
  | none =>
    by_cases hfinds : Finds caller (w.containers.map (·.info)) id
    · cases hexpiry : w.clock.add? extension with
      | none => simp [Except.bind, hfinds, eq_comm]
      | some expiry =>
        obtain ⟨lease, hlease⟩ := hrenewed expiry hexpiry
        simp [Except.bind, hfinds, hlease]
    · simp [Except.bind, hfinds, eq_comm]

/-- A refresh lists once, and writes the refreshed lease if there is one. -/
theorem run_refresh (m : Manager) (caller : Caller) (hstore : w.store = .memory leases)
    (id : String) (extension : Duration) :
    (m.refresh caller id extension).run answerQuietly w = (w.refreshed leases caller id extension,
      { w.noting .list with
        store := .memory (leasesAfter leases id (w.refreshed leases caller id extension)) }) := by
  have hreadable : w.store.Readable w.format := hstore ▸ Store.readable_memory w.format leases
  have hsame : { w.noting .list with store := .memory leases } = w.noting .list := by
    rw [noting, ← hstore]
  rw [Manager.refresh, run_info_bind, Program.run_bind, run_cluster hreadable, refreshed]
  cases w.list with
  | error fault => exact congrArg (Prod.mk _) hsame.symm
  | ok listing =>
    by_cases hfinds : Finds caller listing id
    · simp only [Except.bind, if_pos hfinds]
      have hclock : answerQuietly .now (w.noting .list) = (w.clock, w.noting .list) := rfl
      rw [run_ask_bind, hclock]
      cases w.clock.add? extension with
      | none => exact congrArg (Prod.mk _) hsame.symm
      | some expiry =>
        have hchange (change : Lease → Except Fault Lease) :
            answerQuietly (.changeLease id change) (w.noting .list) =
              (((Store.memory leases).update w.format id change).answer,
                { w.noting .list with
                  store := ((Store.memory leases).update w.format id change).store }) := by
          rw [← hstore]
          rfl
        dsimp only
        rw [run_ask_bind, hchange]
        -- Without a lease a new one is put down, otherwise the old one is extended.
        cases hlease : leases.get? id with
        | none =>
          rw [Store.update_memory_of_none hlease]
          rfl
        | some lease =>
          rw [Store.update_memory_of_some hlease]
          dsimp only [Lease.renewed]
          cases hextended : lease.extended caller.user expiry with
          | ok changed => rfl
          | error fault =>
            rw [Lease.extended_error hextended]
            rfl
    · simp only [Except.bind, if_neg hfinds]
      exact congrArg (Prod.mk _) hsame.symm

end World

end ClusterLease
