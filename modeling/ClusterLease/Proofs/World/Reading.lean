import ClusterLease.Proofs.Cluster.Groups
import ClusterLease.Proofs.Lease.File
import ClusterLease.Proofs.World.Quiet

/-!
What callers are shown of a world.

A world with readable leases shows a caller one cluster for every group that the caller sees
(`run_clusters`). Showing changes nothing, and one cluster is found exactly if some container
carries it and the caller sees it (`run_cluster`).
-/

namespace ClusterLease

open Container (Info)

/-- Whatever keeps a store from telling a lease is foreseen. -/
def Store.Readable (format : Format) (store : Store) : Prop :=
  ∀ id fault, (store.fetch format id).answer = .error fault → fault.isForeseen = true

theorem Leases.isForeseen_of_require {leases : Leases} {id : String} {fault : Fault}
    (h : leases.require id = .error fault) : fault.isForeseen = true := by
  rw [require] at h
  split at h
  · cases h
  · cases h
    rfl

theorem Store.readable_memory (format : Format) (leases : Leases) :
    (Store.memory leases).Readable format := by
  intro id fault h
  exact Leases.isForeseen_of_require ((fetch_memory format leases id).symm.trans h)

/-- A store that tells one lease can tell that there is no other. -/
theorem Store.readable_of_fetch {format : Format} {store : Store} {id : String} {lease : Lease}
    (h : (store.fetch format id).answer = .ok lease) : store.Readable format := by
  cases store with
  | memory leases => exact readable_memory format leases
  | file path content =>
    intro other fault hfault
    rw [fetch_file] at h hfault
    cases hread : readFile format path content with
    | error fault =>
      rw [hread] at h
      cases h
    | ok reading =>
      rw [hread] at hfault
      exact Leases.isForeseen_of_require hfault

namespace World

open Manager (sees)

/-- The lease that is shown with a cluster, if there is one. -/
def lease? (w : World) (id : String) : Option Lease := (w.store.fetch w.format id).answer.toOption

def clusterOf (w : World) (m : Manager) (listing : List Info) (id : String) : Cluster :=
  Cluster.ofGroup m.config.networkName (Cluster.groupOf listing id) (w.lease? id)

/-- All that a caller is shown of a listing. -/
def shown (w : World) (m : Manager) (caller : Caller) (listing : List Info) : List Cluster :=
  ((Cluster.ids listing).filter fun id => sees caller (Cluster.groupOf listing id)).map
  (w.clusterOf m listing)

/-- A caller finds the clusters that some container carries and that the caller sees. -/
def Finds (caller : Caller) (listing : List Info) (id : String) : Prop :=
  id ∈ Cluster.ids listing ∧ sees caller (Cluster.groupOf listing id) = true

instance (caller : Caller) (listing : List Info) (id : String) :
    Decidable (Finds caller listing id) :=
  inferInstanceAs (Decidable (_ ∧ _))

@[simp] theorem clusterOf_id (w : World) (m : Manager) (listing : List Info) (id : String) :
    (w.clusterOf m listing id).id = id := rfl

/-- Among the clusters shown, one is found by its id just if the caller finds it. -/
theorem find_shown (w : World) (m : Manager) (caller : Caller) (listing : List Info) (id : String) :
    (w.shown m caller listing).find? (fun cluster => cluster.id == id) =
      if Finds caller listing id then some (w.clusterOf m listing id) else none := by
  split
  · next hfinds =>
    have hmem : w.clusterOf m listing id ∈ w.shown m caller listing :=
      List.mem_map_of_mem (List.mem_filter.2 ⟨hfinds.1, hfinds.2⟩)
    cases hfind : (w.shown m caller listing).find? (fun cluster => cluster.id == id) with
    | none => simpa using List.find?_eq_none.1 hfind _ hmem
    | some cluster =>
      -- Clusters that are shown are known by their ids.
      have hid : cluster.id = id := by simpa using List.find?_some hfind
      obtain ⟨other, -, rfl⟩ := List.mem_map.1 (List.mem_of_find?_eq_some hfind)
      rw [clusterOf_id] at hid
      rw [hid]
  · next hnot =>
    rw [List.find?_eq_none]
    intro cluster hmem heq
    obtain ⟨other, hother, rfl⟩ := List.mem_map.1 hmem
    obtain ⟨hid, hsees⟩ := List.mem_filter.1 hother
    have heq : other = id := by simpa using heq
    exact hnot ⟨heq ▸ hid, heq ▸ hsees⟩

variable {w : World} {m : Manager} {caller : Caller}

theorem listing_of_list {listing : List Info} (h : w.list = .ok listing) :
    listing = w.containers.map (·.info) := by
  rw [list] at h
  split at h
  · cases h
  · exact (Except.ok.inj h).symm

/-- Asking for a lease of a readable store gives the record, or nothing. -/
theorem run_leaseOf (h : w.store.Readable w.format) (id : String) :
    (Manager.leaseOf id).run answerQuietly w = (.ok (w.lease? id), w) := by
  rw [Manager.leaseOf, run_ask_bind, answerQuietly_fetchLease, lease?]
  cases hfetch : (w.store.fetch w.format id).answer with
  | ok lease => rfl
  | error fault =>
    have hforeseen := h id fault hfetch
    cases fault with
    | metaNotFound other => rfl
    | _ => first | rfl | exact absurd hforeseen Bool.false_ne_true

/-- Describing groups adds to each the lease of its record. -/
theorem run_describe (h : w.store.Readable w.format) (groups : List Cluster.Group) :
    (m.describe groups).run answerQuietly w =
      (.ok (groups.map fun group => Cluster.ofGroup m.config.networkName group (w.lease? group.id)),
        w) := by
  induction groups with
  | nil => rfl
  | cons group rest ih =>
    rw [Manager.describe, Program.run_bind, run_leaseOf h]
    dsimp only
    rw [Program.run_bind, ih]
    rfl

theorem run_list (w : World) : Manager.list.run answerQuietly w = (w.list, w.noting .list) := rfl

/-- Showing clusters lists the containers and changes nothing. -/
theorem run_clusters (h : w.store.Readable w.format) :
    (m.clusters caller).run answerQuietly w = (w.list.map (w.shown m caller), w.noting .list) := by
  rw [Manager.clusters, Program.run_bind, run_list]
  cases w.list with
  | error fault => rfl
  | ok listing =>
    have hnoting : (w.noting .list).store.Readable (w.noting .list).format := h
    dsimp only
    rw [run_describe hnoting, Cluster.groups_eq_map, List.filter_map, List.map_map]
    rfl

/-- Telling a cluster lists once, and gives the cluster if the caller finds it. -/
theorem run_cluster (h : w.store.Readable w.format) (id : String) :
    (m.cluster caller id).run answerQuietly w = (w.list.bind fun listing =>
      if Finds caller listing id then .ok (w.clusterOf m listing id)
        else .error (.clusterNotFound id),
      w.noting .list) := by
  rw [Manager.cluster, Program.run_bind, run_clusters h]
  cases w.list with
  | error fault => rfl
  | ok listing =>
    have hfind := w.find_shown m caller listing id
    by_cases hfinds : Finds caller listing id
    · rw [if_pos hfinds] at hfind
      simp only [Except.map, Except.bind, hfind, if_pos hfinds, Program.run_pure]
    · rw [if_neg hfinds] at hfind
      simp only [Except.map, Except.bind, hfind, if_neg hfinds, Program.run_fail]

end World

end ClusterLease
