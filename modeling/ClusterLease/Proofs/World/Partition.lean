import ClusterLease.Proofs.Cluster.Partition
import ClusterLease.Proofs.World.Damaged

/-!
What a caller is shown is a partition of the listing.

Whatever a runtime lists, the clusters that a caller is shown are a `Cluster.Partition` of it, with
the leases that the store tells. Where containers agree about who created them, the order of the
listing is of no account but for the order of nodes (`clusters_partition`). All of this is for a
store that can tell its leases or fails in a way that is foreseen; any other failure is the outcome as
soon as there is a cluster to show.
-/

namespace ClusterLease.World

open Cluster (Agreed Partition Reordered Visible carriers)
open Container (Info)

variable {w : World} {m : Manager} {caller : Caller} {listing other : List Info} {id : String}

/-- A cluster shows what came of reading its lease. -/
def ShowsLease (answer : Except Fault Lease) (cluster : Cluster) : Prop :=
  match answer with
  | .ok lease => cluster.owner = lease.owner ∧ cluster.expiry = lease.expiry
  | .error _ => cluster.owner = .text "" ∧ cluster.expiry = .null

/-- What the manager finds is what is visible by the labels. -/
theorem finds_iff_visible : Finds caller listing id ↔ Visible caller listing id := by
  rw [Finds, Cluster.mem_ids_iff_carries, Cluster.sees_iff]
  exact ⟨fun ⟨hcarried, hcreated⟩ => ⟨hcarried, hcreated⟩, fun h => ⟨h.carried, h.created⟩⟩

/-- The clusters shown are those of the listing that the caller sees. -/
theorem ids_shown (w : World) (m : Manager) (caller : Caller) (listing : List Info) :
    (w.shown m caller listing).map (·.id) =
      (Cluster.ids listing).filter fun id => Manager.sees caller (Cluster.groupOf listing id) := by
  rw [shown, List.map_map]
  exact List.map_id _

theorem mem_ids_shown : id ∈ (w.shown m caller listing).map (·.id) ↔ Visible caller listing id := by
  rw [ids_shown, List.mem_filter]
  exact finds_iff_visible

/-- The nodes of a cluster are made of its carriers, in the order of the listing. -/
theorem nodes_clusterOf (w : World) (m : Manager) (listing : List Info) (id : String) :
    (w.clusterOf m listing id).nodes =
      (carriers listing id).map (Node.ofContainer m.config.networkName) := by
  rw [← Cluster.containers_groupOf]
  rfl

theorem forall₂_shows (network : String) (containers : List Info) :
    List.Forall₂ (Cluster.Shows network) containers (containers.map (Node.ofContainer network)) := by
  rw [List.forall₂_map_right_iff, List.forall₂_same]
  exact fun container _ => Cluster.shows_ofContainer network container

/-- The clusters shown divide the visible containers among them. -/
theorem partition_shown (w : World) (m : Manager) (caller : Caller) (listing : List Info) :
    Partition m.config.networkName caller listing (w.shown m caller listing) where
  increasing := by
    rw [ids_shown]
    exact (Cluster.pairwise_lt_ids listing).filter _
  mem_ids _ := mem_ids_shown
  creator cluster hmem := by
    obtain ⟨id, -, rfl⟩ := List.mem_map.1 hmem
    rw [clusterOf_id, ← Cluster.containers_groupOf]
    exact Cluster.createdBy_creator id _
  nodes cluster hmem := by
    obtain ⟨id, -, rfl⟩ := List.mem_map.1 hmem
    rw [clusterOf_id, nodes_clusterOf]
    exact forall₂_shows _ _
  once := by
    have hnodup : ((w.shown m caller listing).map (·.id)).Nodup := by
      rw [ids_shown]
      exact (Cluster.nodup_ids listing).filter _
    -- All nodes are those of all carriers, taken cluster by cluster.
    have hnodes : (w.shown m caller listing).flatMap (·.nodes) =
        (((w.shown m caller listing).map (·.id)).flatMap (carriers listing)).map
          (Node.ofContainer m.config.networkName) := by
      rw [ids_shown, shown, List.flatMap_map, List.map_flatMap]
      simp only [nodes_clusterOf]
    refine ⟨_, ?_, hnodes ▸ forall₂_shows _ _⟩
    simpa using Cluster.flatMap_carriers_perm listing hnodup

/-- A cluster shows the lease that its record gives, and none without a record. -/
theorem showsLease_clusterOf (w : World) (m : Manager) (listing : List Info) (id : String) :
    ShowsLease (w.store.fetch w.format id).answer (w.clusterOf m listing id) := by
  unfold ShowsLease clusterOf lease?
  cases (w.store.fetch w.format id).answer <;> exact ⟨rfl, rfl⟩

/-- Another order of a listing in which containers agree about creators shows the same, with other orders
of nodes. -/
theorem reordered_shown {v : World} (hstore : v.store = w.store) (hformat : v.format = w.format)
    (hagree : Agreed listing) (hperm : other.Perm listing) :
    List.Forall₂ Reordered (w.shown m caller listing) (v.shown m caller other) := by
  -- Whom a cluster belongs to could depend on the order, were the containers not agreed on it.
  have hcreator (id : String) := Cluster.creator_groupOf_of_perm hagree hperm id
  have hlease (id : String) : v.lease? id = w.lease? id := by rw [lease?, lease?, hstore, hformat]
  have hsees (id : String) : Manager.sees caller (Cluster.groupOf other id) =
      Manager.sees caller (Cluster.groupOf listing id) := by
    rw [Manager.sees, Manager.sees, hcreator]
  rw [shown, shown, Cluster.ids_of_perm hperm, List.forall₂_map_left_iff, List.forall₂_map_right_iff]
  simp only [hsees]
  refine List.forall₂_same.2 fun id _ => ⟨rfl, hcreator id, ?_, ?_, ?_⟩
  · rw [clusterOf, clusterOf, hlease]
    rfl
  · rw [clusterOf, clusterOf, hlease]
    rfl
  · rw [nodes_clusterOf, nodes_clusterOf]
    exact ((Cluster.carriers_perm hperm id).map _).symm

theorem list_reordered {containers : List Held} (hlist : w.list = .ok listing)
    (hperm : containers.Perm w.containers) :
    ∃ other, other.Perm listing ∧ { w with containers := containers }.list = .ok other := by
  refine ⟨containers.map (·.info), ?_, ?_⟩
  · rw [listing_of_list hlist]
    exact hperm.map _
  · rw [list] at hlist ⊢
    dsimp only
    cases hplan : w.plan.list with
    | none => rfl
    | some fault =>
      rw [hplan] at hlist
      cases hlist

/--
A caller is shown a partition of what the runtime lists, and the leases that the store tells; a single
cluster is found exactly if it is in it. The order in which containers are listed makes a difference to
the order of nodes only, unless containers of a cluster name different creators. A mishap over the store,
which nothing foresees, keeps every cluster from being shown.
-/
theorem clusters_partition (m : Manager) (caller : Caller) (hlist : w.list = .ok listing) :
    (w.store.mishap? w.format = none → ∃ clusters, ((m.clusters caller).run answer w).1 = .ok clusters ∧
      Partition m.config.networkName caller listing clusters ∧
      (∀ cluster ∈ clusters, ShowsLease (w.store.fetch w.format cluster.id).answer cluster) ∧
      (∀ cluster ∈ clusters, ((m.cluster caller cluster.id).run answer w).1 = .ok cluster) ∧
      (∀ id ∉ clusters.map (·.id), ((m.cluster caller id).run answer w).1 = .error (.clusterNotFound id)) ∧
      (Agreed listing → ∀ containers, containers.Perm w.containers → ∃ others,
        ((m.clusters caller).run answer { w with containers := containers }).1 = .ok others ∧
        List.Forall₂ Reordered clusters others)) ∧
    (∀ what, w.store.mishap? w.format = some what → (∃ id, Visible caller listing id) →
      ((m.clusters caller).run answer w).1 = .error (.mishap what)) := by
  constructor
  · intro hnone
    have hreadable := Store.readable_of_mishap? hnone
    -- One cluster asked for by its id is looked up among the same clusters.
    have hclusters : ((m.clusters caller).run answer w).1 = .ok (w.shown m caller listing) := by
      rw [← outcome_quietly, run_clusters hreadable, hlist]
      rfl
    have hcluster (id : String) : ((m.cluster caller id).run answer w).1 =
        if Finds caller listing id then .ok (w.clusterOf m listing id) else .error (.clusterNotFound id) := by
      rw [← outcome_quietly, run_cluster hreadable, hlist]
      rfl
    refine ⟨_, hclusters, partition_shown w m caller listing, ?_, ?_, ?_, ?_⟩
    · intro cluster hmem
      obtain ⟨id, -, rfl⟩ := List.mem_map.1 hmem
      exact showsLease_clusterOf w m listing id
    · intro cluster hmem
      obtain ⟨id, hid, rfl⟩ := List.mem_map.1 hmem
      rw [clusterOf_id, hcluster]
      exact if_pos (List.mem_filter.1 hid)
    · intro id hnot
      rw [hcluster]
      exact if_neg fun hfinds => hnot (mem_ids_shown.2 (finds_iff_visible.1 hfinds))
    · intro hagree containers hperm
      obtain ⟨other, hother, hlistOther⟩ := list_reordered hlist hperm
      refine ⟨_, ?_, reordered_shown (v := { w with containers := containers }) rfl rfl hagree hother⟩
      rw [← outcome_quietly, run_clusters (w := { w with containers := containers }) hreadable, hlistOther]
      rfl
  · rintro what hsome ⟨id, hvisible⟩
    obtain ⟨hid, hsees⟩ := finds_iff_visible.2 hvisible
    have hgroup : Cluster.groupOf listing id ∈ Cluster.groups listing := List.mem_map_of_mem hid
    rw [clusters_of_fault rfl (Store.fetch_of_mishap? hsome), hlist, Except.bind]
    exact if_pos (List.any_eq_true.2 ⟨_, hgroup, hsees⟩)

namespace Sample

/-- A container with some labels. -/
def labelled (id : String) (labels : Labels) : Held := ⟨⟨id, "running", labels, []⟩, []⟩

/-- A world in which clusters come in no order and not every container names its creator. -/
def mixed : World :=
  { initial Plan.smooth .yaml newYear with
    containers := [
      labelled "1" [(Container.clusterLabel, "c2")],
      labelled "2" [(Container.clusterLabel, "c1"), (Container.creatorLabel, "ann")],
      labelled "3" [(Container.clusterLabel, "")],
      labelled "4" [(Container.clusterLabel, "c2"), (Container.creatorLabel, "ann")],
      labelled "5" [(Container.creatorLabel, "ann")]]
    store := .memory [("c2", Lease.ofUser "bob" hourLater)] }

end Sample

open Sample in
/-- Of mixed containers each cluster shows its own, in the order of the listing, whatever it is. -/
theorem clusters_partition_of_mixed : mixed.store.mishap? mixed.format = none ∧ ∃ clusters others,
    ((manager.clusters ann).run answer mixed).1 = .ok clusters ∧
    ((manager.clusters ann).run answer { mixed with containers := mixed.containers.reverse }).1 = .ok others ∧
    clusters.map (·.id) = ["c1", "c2"] ∧
    clusters.map (·.nodes.map (·.containerId)) = [["2"], ["1", "4"]] ∧
    List.Forall₂ Reordered clusters others := by
  have hreadable : mixed.store.Readable mixed.format := Store.readable_memory _ _
  have hlist : mixed.list = .ok (mixed.containers.map (·.info)) := rfl
  -- The ids are sorted by what no evaluation can open, so that they are given by what sorting is.
  have hids : Cluster.ids (mixed.containers.map (·.info)) = ["c1", "c2"] :=
    Cluster.ids_eq ((List.mergeSort_perm _ _).trans (by decide +kernel)) (by decide)
  have hagree : Agreed (mixed.containers.map (·.info)) := by
    have hnames : ∀ container ∈ mixed.containers.map (·.info),
        Cluster.namedBy container ≠ "" → Cluster.namedBy container = "ann" := by decide +kernel
    intro id first hfirst second hsecond hname hother
    rw [hnames first (Cluster.mem_carriers.1 hfirst).1 hname,
      hnames second (Cluster.mem_carriers.1 hsecond).1 hother]
  obtain ⟨clusters, hrun, -, -, -, -, horder⟩ := (clusters_partition manager ann hlist).1 rfl
  obtain ⟨others, hothers, hreordered⟩ := horder hagree _ (List.reverse_perm _)
  have hshown : clusters = mixed.shown manager ann (mixed.containers.map (·.info)) := by
    rw [← outcome_quietly, run_clusters hreadable, hlist] at hrun
    exact (Except.ok.inj hrun).symm
  refine ⟨rfl, clusters, others, hrun, hothers, ?_, ?_, hreordered⟩
  · rw [hshown, shown, hids]
    decide +kernel
  · rw [hshown, shown, hids]
    decide +kernel

open Sample in
/-- A day of which there is none keeps the cluster of a container from being shown at all. -/
theorem no_partition_over_impossible_day : (overFile impossible).list = .ok [lone.info] ∧
    Visible ann [lone.info] "c2" ∧
    ¬∃ clusters, ((manager.clusters ann).run answer (overFile impossible)).1 = .ok clusters := by
  have himpossible : (overFile impossible).store.mishap? .yaml = some .badValue := by decide +kernel
  have hvisible : Finds ann [lone.info] "c2" := by decide +kernel
  have hsome : (Cluster.groups [lone.info]).any (Manager.sees ann) = true := by decide +kernel
  have hlist : (overFile impossible).list = .ok [lone.info] := rfl
  refine ⟨hlist, finds_iff_visible.1 hvisible, ?_⟩
  rintro ⟨clusters, hok⟩
  rw [clusters_of_fault rfl (Store.fetch_of_mishap? himpossible), hlist, Except.bind,
    if_pos hsome] at hok
  cases hok

end ClusterLease.World
