import Mathlib.Data.List.Nodup
import ClusterLease.Cluster
import ClusterLease.Proofs.Table

/-!
The groups of a listing.

A listing has one group for each cluster that some container carries, and the group holds exactly
the containers of that cluster. Every group has a creator, also when no container names one.
-/

namespace ClusterLease.Cluster

open Container (Info)

/-- The containers of a listing that carry a cluster. -/
def groupOf (listing : List Info) (id : String) : Group :=
  ⟨id, listing.filter fun container => idOf? container == some id⟩

/-- There is one group for each id, and it is the one of the id. -/
theorem groups_eq_map (listing : List Info) :
    groups listing = (ids listing).map (groupOf listing) := rfl

@[simp] theorem groupOf_id (listing : List Info) (id : String) : (groupOf listing id).id = id := rfl

/-- A container is in the group of the cluster that it carries. -/
theorem mem_containers_groupOf {listing : List Info} {id : String} {container : Info} :
    container ∈ (groupOf listing id).containers ↔ container ∈ listing ∧
      idOf? container = some id := by
  simp [groupOf]

/-- What is left without doubles has none. The induction is on the length, for the rest is filtered first. -/
theorem nodup_eraseDups {α : Type} [BEq α] [LawfulBEq α] (items : List α) :
    items.eraseDups.Nodup := by
  induction hlength : items.length using Nat.strongRecOn generalizing items with
  | ind length ih =>
    cases items with
    | nil => simp
    | cons item rest =>
      rw [List.eraseDups_cons, List.nodup_cons]
      have hshorter : (rest.filter fun other => !other == item).length < length := by
        rw [← hlength]
        exact Nat.lt_succ_of_le (List.length_filter_le _ _)
      exact ⟨by simp [List.mem_eraseDups], ih _ hshorter _ rfl⟩

/-- A listing has a group for every cluster that one of its containers carries. -/
theorem mem_ids {listing : List Info} {id : String} :
    id ∈ ids listing ↔ ∃ container ∈ listing, idOf? container = some id := by
  simp [ids, List.mem_eraseDups]

/-- A cluster is in a listing if its group there is not empty. -/
theorem mem_ids_iff {listing : List Info} {id : String} :
    id ∈ ids listing ↔ (groupOf listing id).containers ≠ [] := by
  rw [mem_ids, ne_eq, List.eq_nil_iff_forall_not_mem, not_forall_not]
  exact exists_congr fun info => mem_containers_groupOf.symm

/-- No cluster is listed twice. -/
theorem nodup_ids (listing : List Info) : (ids listing).Nodup :=
  (List.mergeSort_perm _ _).nodup_iff.2 (nodup_eraseDups _)

/-- Clusters are listed in the order of their ids. -/
theorem pairwise_ids (listing : List Info) : (ids listing).Pairwise (· ≤ ·) :=
  Table.pairwise_mergeSort (fun id => id) _

/-! ### Creators -/

/-- The creator of a group is a name, for that of a group without one is a name as well. -/
theorem Group.creator_ne_empty (group : Group) : group.creator ≠ "" := by
  unfold Group.creator
  dsimp only
  -- Someone is named in the group, or the creator is the placeholder for no one.
  split
  · next container h => simpa using List.find?_some h
  · decide

/-- The creator of a group whose containers all name the same one. -/
theorem Group.creator_eq {group : Group} {user : String} (hne : group.containers ≠ [])
    (huser : user ≠ "")
    (h : ∀ container ∈ group.containers, container.labels.getD Container.creatorLabel = user) :
    group.creator = user := by
  unfold Group.creator
  cases hc : group.containers with
  | nil => exact absurd hc hne
  | cons first rest =>
    have hfirst := h first (by simp [hc])
    simp [hfirst, huser]

end ClusterLease.Cluster
