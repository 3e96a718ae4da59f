import Mathlib.Data.List.Forall2
import Mathlib.Data.List.Perm.Basic
import ClusterLease.Manager
import ClusterLease.Proofs.Cluster.Groups

/-!
The listing of a runtime as a partition.

What a list of clusters has to be in order to show a caller a listing is said here without the groups
that it is made from: ids increase, a cluster has one node for every container that carries it, in the
order of the listing, and its creator is the first that they name (`Partition`). Groups have these
properties. They depend on the order of the listing only where containers of a cluster name different
creators (`Agreed`); otherwise another order gives the same ids and creators.
-/

namespace ClusterLease.Cluster

open Container (Info)
open Manager (sees)

variable {network : String} {caller : Caller} {listing other containers others : List Info}
  {container : Info} {id creator : String}

/-- A container carries the cluster of its label; an empty label is none. -/
def Carries (container : Info) (id : String) : Prop :=
  container.labels.get? Container.clusterLabel = some id ∧ id ≠ ""

instance (container : Info) (id : String) : Decidable (Carries container id) :=
  inferInstanceAs (Decidable (_ ∧ _))

/-- The containers of a cluster, in the order of the listing. -/
def carriers (listing : List Info) (id : String) : List Info :=
  listing.filter fun container => Carries container id

/-- The creator that a container names, or an empty text. -/
def namedBy (container : Info) : String := container.labels.getD Container.creatorLabel

/-- The creator of containers is the first that they name. -/
inductive CreatedBy : List Info → String → Prop where
  | nobody : CreatedBy [] unknownCreator
  | named {container : Info} {rest : List Info} (h : namedBy container ≠ "") :
      CreatedBy (container :: rest) (namedBy container)
  | nameless {container : Info} {rest : List Info} {creator : String}
      (h : namedBy container = "") (hrest : CreatedBy rest creator) :
      CreatedBy (container :: rest) creator

/-- A cluster that some container carries, and that the caller created or sees without having done so. -/
structure Visible (caller : Caller) (listing : List Info) (id : String) : Prop where
  carried : ∃ container ∈ listing, Carries container id
  created : caller.ignoresOwnership = true ∨ CreatedBy (carriers listing id) caller.user

/-- A node shows a container, without addresses if it has none on the network. -/
structure Shows (network : String) (container : Info) (node : Node) : Prop where
  containerId : node.containerId = container.id
  state : node.state = container.state
  name : node.name = (container.labels.get? Container.nodeLabel).getD ""
  serverVersion : node.serverVersion = (container.labels.get? Container.versionLabel).getD ""
  addresses : match container.networks.get? network with
    | some (some address) => node.ipv4 = address.ipv4 ∧ node.ipv6 = address.ipv6
    | _ => node.ipv4 = .text "" ∧ node.ipv6 = .text ""

/-- Clusters show a caller a listing. -/
structure Partition (network : String) (caller : Caller) (listing : List Info)
    (clusters : List Cluster) : Prop where
  increasing : (clusters.map (·.id)).Pairwise (· < ·)
  mem_ids : ∀ id, id ∈ clusters.map (·.id) ↔ Visible caller listing id
  creator : ∀ cluster ∈ clusters, CreatedBy (carriers listing cluster.id) cluster.creator
  nodes : ∀ cluster ∈ clusters,
    List.Forall₂ (Shows network) (carriers listing cluster.id) cluster.nodes
  /-- Of the containers of these clusters none is lost, and none is shown twice. -/
  once : ∃ order, order.Perm (listing.filter fun container =>
      ∃ cluster ∈ clusters, Carries container cluster.id) ∧
    List.Forall₂ (Shows network) order (clusters.flatMap (·.nodes))

/-- Clusters that differ in the order of their nodes at most. -/
structure Reordered (cluster other : Cluster) : Prop where
  id : cluster.id = other.id
  creator : cluster.creator = other.creator
  owner : cluster.owner = other.owner
  expiry : cluster.expiry = other.expiry
  nodes : cluster.nodes.Perm other.nodes

/-! ### Groups -/

/-- The id that is read off a container is the one it carries. -/
theorem idOf?_eq_some : idOf? container = some id ↔ Carries container id := by
  unfold idOf? Carries
  split
  · next h => simp [h]
  · next h =>
    rw [h]
    constructor
    · rintro ⟨⟩
    · rintro ⟨heq, hne⟩
      exact absurd (Option.some.inj heq).symm hne
  · next other hne h =>
    rw [h, Option.some_inj]
    constructor
    · rintro rfl
      exact ⟨rfl, hne⟩
    · exact And.left

/-- The group of a cluster holds all that carry it and nothing else. -/
theorem containers_groupOf (listing : List Info) (id : String) :
    (groupOf listing id).containers = carriers listing id := by
  refine List.filter_congr fun container _ => ?_
  rw [Bool.eq_iff_iff, beq_iff_eq, decide_eq_true_iff]
  exact idOf?_eq_some

theorem mem_carriers : container ∈ carriers listing id ↔ container ∈ listing ∧ Carries container id := by
  simp [carriers]

/-- A cluster is listed just if some container carries it. -/
theorem mem_ids_iff_carries : id ∈ ids listing ↔ ∃ container ∈ listing, Carries container id := by
  rw [mem_ids]
  exact exists_congr fun _ => and_congr_right fun _ => idOf?_eq_some

/-- The ids of clusters increase strictly. -/
theorem pairwise_lt_ids (listing : List Info) : (ids listing).Pairwise (· < ·) :=
  (pairwise_ids listing).imp₂ (fun _ _ => Std.lt_of_le_of_ne) (nodup_ids listing)

/-- Containers that carry different clusters have no part in each other. -/
theorem Carries.unique {other : String} (h : Carries container id) (hother : Carries container other) :
    id = other :=
  Option.some.inj (h.1.symm.trans hother.1)

/-- Clusters take the containers that carry them out of a listing, each once. -/
theorem flatMap_carriers_perm (listing : List Info) {clusters : List String} (hnodup : clusters.Nodup) :
    (clusters.flatMap (carriers listing)).Perm
      (listing.filter fun container => ∃ id ∈ clusters, Carries container id) := by
  -- One cluster's carriers are split off at a time; no later cluster has any of them, since no container
  -- carries two ids.
  induction clusters with
  | nil => simp
  | cons first rest ih =>
    obtain ⟨hnew, hrest⟩ := List.nodup_cons.1 hnodup
    have hfirst : (listing.filter fun container => ∃ id ∈ first :: rest, Carries container id).filter
        (fun container => Carries container first) = carriers listing first := by
      rw [List.filter_filter]
      refine List.filter_congr fun container _ => ?_
      by_cases h : Carries container first <;> simp [h]
    have hothers : (listing.filter fun container => ∃ id ∈ first :: rest, Carries container id).filter
        (fun container => !decide (Carries container first)) =
          listing.filter fun container => ∃ id ∈ rest, Carries container id := by
      rw [List.filter_filter]
      refine List.filter_congr fun container _ => ?_
      by_cases h : Carries container first
      · have hnot : ¬ ∃ id ∈ rest, Carries container id := by
          rintro ⟨id, hid, hcarries⟩
          exact hnew (h.unique hcarries ▸ hid)
        simpa [h] using hnot
      · simp [h]
    have hsplit := List.filter_append_perm (fun container => decide (Carries container first))
      (listing.filter fun container => ∃ id ∈ first :: rest, Carries container id)
    rw [hfirst, hothers] at hsplit
    rw [List.flatMap_cons]
    exact ((ih hrest).append_left _).trans hsplit

/-- A node shows what is known of its container. -/
theorem shows_ofContainer (network : String) (container : Info) :
    Shows network container (Node.ofContainer network container) := by
  refine ⟨rfl, rfl, rfl, rfl, ?_⟩
  rcases h : container.networks.get? network with _ | _ | address <;>
    simp [Node.ofContainer, Container.Networks.address?, Container.Address.none, h]

/-! ### Creators -/

/-- The creator of a group is the one that its containers tell. -/
theorem createdBy_creator (id : String) (containers : List Info) :
    CreatedBy containers (Group.creator ⟨id, containers⟩) := by
  -- The induction is on the containers: whoever names no one is passed over.
  induction containers with
  | nil => exact .nobody
  | cons container rest ih =>
    by_cases h : namedBy container = ""
    · have hrest : Group.creator ⟨id, container :: rest⟩ = Group.creator ⟨id, rest⟩ := by
        rw [namedBy] at h
        simp [Group.creator, h]
      rw [hrest]
      exact .nameless h ih
    · have hfirst : Group.creator ⟨id, container :: rest⟩ = namedBy container := by
        rw [namedBy] at h ⊢
        simp [Group.creator, h]
      rw [hfirst]
      exact .named h

/-- Containers tell one creator at most. -/
theorem CreatedBy.unique {second : String} (h : CreatedBy containers creator)
    (hsecond : CreatedBy containers second) : creator = second := by
  induction h with
  | nobody =>
    cases hsecond
    rfl
  | named hname =>
    cases hsecond with
    | named => rfl
    | nameless hempty => exact absurd hempty hname
  | nameless hempty _ ih =>
    cases hsecond with
    | named hname => exact absurd hempty hname
    | nameless _ hrest => exact ih hrest

/-- That a group has a creator and that its containers tell them so is the same. -/
theorem createdBy_iff {group : Group} : CreatedBy group.containers creator ↔ group.creator = creator := by
  have hcreator := createdBy_creator group.id group.containers
  exact ⟨hcreator.unique, fun h => h ▸ hcreator⟩

/-- A caller sees a cluster of their own, and with an override every cluster. -/
theorem sees_iff : sees caller (groupOf listing id) = true ↔
    caller.ignoresOwnership = true ∨ CreatedBy (carriers listing id) caller.user := by
  rw [sees, ← containers_groupOf, createdBy_iff, Bool.or_eq_true, beq_iff_eq]

/-- Either a container names the creator, or none names any. -/
theorem CreatedBy.named_or_unknown (h : CreatedBy containers creator) :
    (∃ container ∈ containers, namedBy container = creator ∧ creator ≠ "") ∨
      (∀ container ∈ containers, namedBy container = "") ∧ creator = unknownCreator := by
  induction h with
  | nobody => exact .inr ⟨by simp, rfl⟩
  | named hname => exact .inl ⟨_, List.mem_cons_self, rfl, hname⟩
  | nameless hempty _ ih =>
    obtain ⟨container, hmem, hnamed⟩ | ⟨hnone, hunknown⟩ := ih
    · exact .inl ⟨container, List.mem_cons_of_mem _ hmem, hnamed⟩
    · exact .inr ⟨List.forall_mem_cons.2 ⟨hempty, hnone⟩, hunknown⟩

/-! ### Other orders -/

/-- Containers of one cluster do not name different creators. -/
def Agreed (listing : List Info) : Prop :=
  ∀ id, ∀ first ∈ carriers listing id, ∀ second ∈ carriers listing id,
    namedBy first ≠ "" → namedBy second ≠ "" → namedBy first = namedBy second

/-- If containers agree about their creator, it is the same in any order. -/
theorem CreatedBy.of_perm {second : String} (h : CreatedBy containers creator)
    (hsecond : CreatedBy others second) (hperm : others.Perm containers)
    (hagree : ∀ first ∈ containers, ∀ second ∈ containers,
      namedBy first ≠ "" → namedBy second ≠ "" → namedBy first = namedBy second) :
    creator = second := by
  obtain ⟨container, hmem, rfl, hname⟩ | ⟨hnone, rfl⟩ := h.named_or_unknown <;>
    obtain ⟨another, hanother, rfl, hsome⟩ | ⟨hempty, rfl⟩ := hsecond.named_or_unknown
  · exact hagree container hmem another (hperm.mem_iff.1 hanother) hname hsome
  · exact absurd (hempty container (hperm.mem_iff.2 hmem)) hname
  · exact absurd (hnone another (hperm.mem_iff.1 hanother)) hsome
  · rfl

theorem carriers_perm (hperm : other.Perm listing) (id : String) :
    (carriers other id).Perm (carriers listing id) :=
  hperm.filter _

/-- There is only one order for ids. -/
theorem ids_eq {sorted : List String} (hperm : (ids listing).Perm sorted)
    (hsorted : sorted.Pairwise (· ≤ ·)) : ids listing = sorted :=
  hperm.eq_of_pairwise (fun _ _ _ _ => String.le_antisymm) (pairwise_ids listing) hsorted

/-- The order in which containers are listed does not matter to the ids of clusters. -/
theorem ids_of_perm (hperm : other.Perm listing) : ids other = ids listing := by
  refine ids_eq ?_ (pairwise_ids listing)
  refine (List.perm_ext_iff_of_nodup (nodup_ids other) (nodup_ids listing)).2 fun id => ?_
  rw [mem_ids, mem_ids]
  exact exists_congr fun container => and_congr_left fun _ => hperm.mem_iff

/-- Nor does it matter to the creators, where the containers of a cluster name one creator. -/
theorem creator_groupOf_of_perm (hagree : Agreed listing) (hperm : other.Perm listing) (id : String) :
    (groupOf listing id).creator = (groupOf other id).creator := by
  have hcreated (containers : List Info) :
      CreatedBy (carriers containers id) (groupOf containers id).creator := by
    rw [← containers_groupOf]
    exact createdBy_creator id _
  exact (hcreated listing).of_perm (hcreated other) (carriers_perm hperm id) (hagree id)

end ClusterLease.Cluster
