import Mathlib.Data.List.Forall2
import ClusterLease.Proofs.Cluster.Partition

/-!
What clusters owe to labels.

Which clusters there are, who created them, and which nodes with which versions they have is told by four
labels of their containers (`SameView`). Listings that agree on these labels have groups that agree
(`sameGroup_groups`), and clusters of such groups have the same `outline`.
-/

namespace ClusterLease.Cluster

open Container (Info)

variable {listing other containers others : List Info} {container twin : Info} {id : String}

/-- The labels of which a cluster is made. -/
def viewKeys : List String :=
  [Container.creatorLabel, Container.clusterLabel, Container.nodeLabel, Container.versionLabel]

/-- Two containers have the same labels, as far as clusters show them. -/
def SameView (container twin : Info) : Prop :=
  ∀ key ∈ viewKeys, container.labels.get? key = twin.labels.get? key

/-- A cluster without what a runtime has to add to labels: the ids, states and addresses of containers. -/
structure Outline where
  id : String
  creator : String
  owner : Value
  expiry : Value
  /-- The names of the nodes, with their server versions. -/
  nodes : List (String × String)

/-- What is left of a cluster when the ids, states and addresses of its containers are forgotten. -/
def outline (cluster : Cluster) : Outline :=
  ⟨cluster.id, cluster.creator, cluster.owner, cluster.expiry,
    cluster.nodes.map fun node => (node.name, node.serverVersion)⟩

/-- Containers with the same view have the same text under each of its labels, also where that is empty. -/
theorem SameView.getD (h : SameView container twin) {key : String} (hkey : key ∈ viewKeys) :
    container.labels.getD key = twin.labels.getD key := by
  rw [Labels.getD, Labels.getD, h key hkey]

/-- They belong to the same cluster. -/
theorem SameView.idOf?_eq (h : SameView container twin) : idOf? container = idOf? twin := by
  rw [idOf?, idOf?, h _ (by simp [viewKeys])]

/-- They name the same creator. -/
theorem SameView.namedBy_eq (h : SameView container twin) : namedBy container = namedBy twin :=
  h.getD (by simp [viewKeys])

/-- Who created a cluster is told by the first container that names someone, and the same one does so in both.
-/
theorem CreatedBy.of_sameView {creator : String} (h : CreatedBy containers creator)
    (hview : List.Forall₂ SameView containers others) : CreatedBy others creator := by
  induction h generalizing others with
  | nobody =>
    cases hview
    exact .nobody
  -- The first container names the creator, and so does its twin.
  | named hname =>
    obtain _ | ⟨hfirst, -⟩ := hview
    rw [hfirst.namedBy_eq] at hname ⊢
    exact .named hname
  -- Neither the first container nor its twin names anyone.
  | nameless hempty _ ih =>
    obtain _ | ⟨hfirst, hrest⟩ := hview
    exact .nameless (hfirst.namedBy_eq ▸ hempty) (ih hrest)

/-- Groups that agree on labels have one creator. -/
theorem creator_of_sameView {group twin : Group}
    (hview : List.Forall₂ SameView group.containers twin.containers) : twin.creator = group.creator :=
  createdBy_iff.1 ((createdBy_iff.2 rfl).of_sameView hview)

/-- Groups with the same id whose containers agree one by one. -/
structure SameGroup (group twin : Group) : Prop where
  id : group.id = twin.id
  containers : List.Forall₂ SameView group.containers twin.containers

/-- Listings that agree on labels have the same clusters. -/
theorem ids_of_sameView (h : List.Forall₂ SameView listing other) : ids listing = ids other := by
  have hids : listing.filterMap idOf? = other.filterMap idOf? := by
    induction h with
    | nil => rfl
    | cons hfirst _ ih => rw [List.filterMap_cons, List.filterMap_cons, hfirst.idOf?_eq, ih]
  rw [ids, ids, hids]

/-- The containers of a cluster are picked by a label, so that the same ones are picked in both listings. -/
theorem sameGroup_groupOf (h : List.Forall₂ SameView listing other) (id : String) :
    SameGroup (groupOf listing id) (groupOf other id) := by
  refine ⟨rfl, List.rel_filter (fun container twin hview => ?_) h⟩
  dsimp only
  rw [SameView.idOf?_eq hview]

/-- Listings that agree on labels have the same groups, one by one. -/
theorem sameGroup_groups (h : List.Forall₂ SameView listing other) :
    List.Forall₂ SameGroup (groups listing) (groups other) := by
  rw [groups_eq_map, groups_eq_map, ids_of_sameView h, List.forall₂_map_left_iff,
    List.forall₂_map_right_iff, List.forall₂_same]
  exact fun id _ => sameGroup_groupOf h id

/-- Containers without the label of a cluster might as well not be listed. -/
theorem groups_filter (listing : List Info) :
    groups (listing.filter fun container => (container.labels.get? Container.clusterLabel).isSome) =
      groups listing := by
  have hlabelled {container : Info}
      (h : (container.labels.get? Container.clusterLabel).isSome = false) : idOf? container = none := by
    have hnone : container.labels.get? Container.clusterLabel = none :=
      Option.not_isSome_iff_eq_none.1 (h ▸ Bool.false_ne_true)
    rw [idOf?, hnone]
  -- The ids of clusters are collected from labels, and nothing is collected where there is none.
  have hids : (listing.filter fun container =>
      (container.labels.get? Container.clusterLabel).isSome).filterMap idOf? = listing.filterMap idOf? := by
    rw [List.filterMap_filter]
    refine List.filterMap_congr fun container _ => ?_
    cases h : (container.labels.get? Container.clusterLabel).isSome with
    | true => rfl
    | false => exact (hlabelled h).symm
  -- Nor does such a container belong to any group.
  have hgroup (id : String) : groupOf (listing.filter fun container =>
      (container.labels.get? Container.clusterLabel).isSome) id = groupOf listing id := by
    rw [groupOf, groupOf, List.filter_filter]
    refine congrArg _ (List.filter_congr fun container _ => ?_)
    cases h : (container.labels.get? Container.clusterLabel).isSome with
    | true => exact Bool.and_true _
    | false => simp [hlabelled h]
  rw [groups_eq_map, groups_eq_map, ids, hids]
  exact List.map_congr_left fun id _ => hgroup id

/-- A cluster is shown alike for groups that agree, over the same lease. -/
theorem outline_ofGroup {group twin : Group} (h : SameGroup group twin) (network : String)
    (lease : Option Lease) : outline (ofGroup network group lease) = outline (ofGroup network twin lease) := by
  have hnodes : group.containers.map (fun container => (container.labels.getD Container.nodeLabel,
      container.labels.getD Container.versionLabel)) =
      twin.containers.map fun container => (container.labels.getD Container.nodeLabel,
        container.labels.getD Container.versionLabel) := by
    rw [← List.forall₂_eq_eq_eq, List.forall₂_map_left_iff, List.forall₂_map_right_iff]
    refine h.containers.imp fun container twin hview => ?_
    rw [hview.getD (by simp [viewKeys]), hview.getD (by simp [viewKeys])]
  have hcreator : group.creator = twin.creator := (creator_of_sameView h.containers).symm
  simp only [outline, ofGroup, List.map_map, h.id, hcreator]
  congr 1

end ClusterLease.Cluster
