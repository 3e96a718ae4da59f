import ClusterLease.Proofs.Cluster.Outline
import ClusterLease.Proofs.Manager.Operation
import ClusterLease.Proofs.Pod.Api
import ClusterLease.Proofs.Value.Equality

/-!
Clusters whose containers are pods.

Pods know their clusters by annotations, and yet the clusters that are shown over a server that keeps
pods (`overPods`) are those of a runtime that lists the same containers with the labels they were asked
for (`listing`): with the same ids, creators, leases, node names and versions (`clusters_over_pods`).
-/

namespace ClusterLease.Pod

open Cluster (SameGroup SameView outline)
open Container (Info Spec)

variable {τ σ ρ : Type}

/-- Surroundings of the management of clusters in which containers are the pods of a server. -/
def overPods [Timeline τ] (settings : Settings τ) (server : Answerer (interface τ) σ)
    (rest : Answerer Manager.interface ρ) : Answerer Manager.interface (σ × ρ)
  | .create spec, (s, r) =>
    let (outcome, s) := (create settings spec).run server s
    (outcome, (s, r))
  | .start container, (s, r) =>
    let (outcome, s) := (start settings container).run server s
    (outcome, (s, r))
  | .inspect container, (s, r) =>
    let (outcome, s) := (inspect settings container).run server s
    (outcome, (s, r))
  | .stop container, (s, r) =>
    let (outcome, s) := (stop settings container).run server s
    (outcome, (s, r))
  | .list, (s, r) =>
    let (outcome, s) := (list settings).run server s
    (outcome, (s, r))
  | call, (s, r) =>
    let (reply, r) := rest call r
    (reply, (s, r))

/-- Surroundings in which a runtime lists some containers. -/
def listing (containers : List Info) (rest : Answerer Manager.interface ρ) : Answerer Manager.interface ρ
  | .list, r => (.ok containers, r)
  | call, r => rest call r

variable {m : Manager} {caller : Caller} {containers : List Info}

/-! ### What is shown of a listing -/

/-- Over a listing of pods that succeeds, the clusters are told from the containers it gives and nothing else.
-/
theorem run_clusters_overPods [Timeline τ] {settings : Settings τ} {server : Answerer (interface τ) σ}
    {t : σ} (hlist : ((list settings).run server t).1 = .ok containers)
    (rest : Answerer Manager.interface ρ) (r : ρ) :
    ((m.clusters caller).run (overPods settings server rest) (t, r)).1 =
      ((m.describe ((Cluster.groups containers).filter (Manager.sees caller))).run rest r).1 := by
  let after := ((list settings).run server t).2
  have hrun : Manager.list.run (overPods settings server rest) (t, r) = (.ok containers, (after, r)) := by
    rw [← hlist]
    rfl
  rw [Manager.clusters, Program.run_bind, hrun]
  refine congrArg Prod.fst (Program.Asks.run_map (m.asks_describe _) (fun r => (after, r)) ?_ r)
  intro call r hcall
  cases call with
  | log entry => rfl
  | fetchLease id => rfl
  | _ => exact hcall.elim

/-- Over a runtime that just gives its containers, the clusters are told from these. -/
theorem run_clusters_listing (containers : List Info) (rest : Answerer Manager.interface ρ) (r : ρ) :
    ((m.clusters caller).run (listing containers rest) r).1 =
      ((m.describe ((Cluster.groups containers).filter (Manager.sees caller))).run rest r).1 := by
  have hrun : Manager.list.run (listing containers rest) r = (.ok containers, r) := rfl
  rw [Manager.clusters, Program.run_bind, hrun]
  refine congrArg Prod.fst (Program.Asks.run_map (m.asks_describe _) id ?_ r)
  intro call r hcall
  cases call with
  | log entry => rfl
  | fetchLease id => rfl
  | _ => exact hcall.elim

/-- The outlines of the first cluster and the others, once its lease has been looked up. -/
theorem outlines_describe_cons (m : Manager) (group : Cluster.Group) (rest : List Cluster.Group)
    (answer : Answerer Manager.interface ρ) (r : ρ) :
    ((m.describe (group :: rest)).run answer r).1.map (·.map outline) =
      ((Manager.leaseOf group.id).run answer r).1.bind fun lease =>
        (((m.describe rest).run answer ((Manager.leaseOf group.id).run answer r).2).1.map
          (·.map outline)).map
            (outline (Cluster.ofGroup m.config.networkName group lease) :: ·) := by
  rw [Manager.describe, Program.run_bind]
  rcases (Manager.leaseOf group.id).run answer r with ⟨_ | lease, s⟩
  · rfl
  · dsimp only [Except.bind]
    rw [Program.run_bind]
    rcases (m.describe rest).run answer s with ⟨_ | others, t⟩ <;> rfl

/-- Groups that agree are looked up in the same way, and make clusters with the same outlines. -/
theorem outlines_describe {groups twins : List Cluster.Group} (h : List.Forall₂ SameGroup groups twins)
    (answer : Answerer Manager.interface ρ) (r : ρ) :
    ((m.describe groups).run answer r).1.map (·.map outline) =
      ((m.describe twins).run answer r).1.map (·.map outline) := by
  induction h generalizing r with
  | nil => rfl
  | cons hfirst _ ih =>
    rw [outlines_describe_cons, outlines_describe_cons, hfirst.id, ih]
    simp only [Cluster.outline_ofGroup hfirst]

/-- Containers that look the same make clusters that look the same, to every caller. -/
theorem sameGroup_seen {others : List Info} (h : List.Forall₂ SameView containers others) :
    List.Forall₂ SameGroup ((Cluster.groups containers).filter (Manager.sees caller))
      ((Cluster.groups others).filter (Manager.sees caller)) := by
  refine List.rel_filter (fun group twin hgroup => ?_) (Cluster.sameGroup_groups h)
  dsimp only [Manager.sees]
  rw [Cluster.creator_of_sameView (SameGroup.containers hgroup)]

/-- Listed pods have the view of any containers with the labels that were asked for. -/
theorem sameView_of_describes {specs : List Spec} {others : List Info}
    (h : List.Forall₂ Describes specs containers)
    (hlabels : others.map (·.labels) = specs.map (·.labels)) :
    List.Forall₂ SameView containers others := by
  have hforeign : ∀ key ∈ Cluster.viewKeys, key ∉ ownKeys := by decide
  induction h generalizing others with
  | nil =>
    rw [List.map_nil, List.map_eq_nil_iff] at hlabels
    rw [hlabels]
    exact .nil
  | cons hfirst _ ih =>
    obtain ⟨first, rest, rfl, hsame, hrest⟩ := List.map_eq_cons_iff.1 hlabels
    refine .cons (fun key hkey => ?_) (ih hrest)
    rw [hsame, hfirst.others key (hforeign key hkey)]

/-- Filtering containers by the cluster label and filtering specifications by it leave the same labels. -/
theorem labels_clustered {specs : List Spec} {others : List Info}
    (hlabels : others.map (·.labels) = specs.map (·.labels)) :
    (others.filter fun container => (container.labels.get? Container.clusterLabel).isSome).map (·.labels) =
      (clustered specs).map (·.labels) := by
  have hfilter := congrArg (List.filter fun labels =>
    (Table.get? labels Container.clusterLabel).isSome) hlabels
  rw [List.filter_map, List.filter_map] at hfilter
  exact hfilter

/-! ### From containers that are asked for to clusters -/

/--
Containers with different pod names are all created. As long as the server keeps their pods it lists
those that have the label of a cluster, with every label that was asked for; and clusters are shown
over it as over a runtime that lists these containers in the same order with the labels that were asked
for, and others in between, whoever keeps the leases.
-/
theorem clusters_over_pods [Timeline τ] {server : Answerer (interface τ) σ} {pods : σ → List Manifest}
    (hserver : Keeps server pods) (settings : Settings τ) {specs : List Spec}
    (hnames : (specs.map fun spec => nameFor spec.name).Nodup)
    (hplain : ∀ spec ∈ specs, Plain spec.labels) {s : σ}
    (hnew : ∀ pod ∈ pods s, pod.space ≠ settings.space) : ∃ created,
    (specs.mapM (create settings)).run server s = (.ok (specs.map fun spec => nameFor spec.name), created) ∧
    ∀ t, (pods t).Perm (pods created) → ∃ listed containers, listed.Perm (clustered specs) ∧
      ((list settings).run server t).1 = .ok containers ∧ List.Forall₂ Describes listed containers ∧
      ∀ (order : List Spec) (plain : List Info), clustered order = listed →
        plain.map (·.labels) = order.map (·.labels) →
        ∀ (m : Manager) (caller : Caller) (rest : Answerer Manager.interface ρ) (r : ρ),
          ((m.clusters caller).run (overPods settings server rest) (t, r)).1.map (·.map outline) =
            ((m.clusters caller).run (listing plain rest) r).1.map (·.map outline) := by
  obtain ⟨created, hrun, hpods⟩ := run_createAll hserver settings s hnames
    fun spec _ other hother hspace => absurd hspace (hnew other hother)
  refine ⟨created, hrun, fun t ht => ?_⟩
  obtain ⟨listed, containers, hlisted, hlist, hdescribes⟩ :=
    run_list hserver settings hplain hnew (ht.trans hpods)
  refine ⟨listed, containers, hlisted, hlist, hdescribes, ?_⟩
  intro order plain horder hlabels m caller rest r
  -- Containers without a cluster drop out of every group, so that the two listings only have to agree on the
  -- rest.
  have hview := sameView_of_describes hdescribes (horder ▸ labels_clustered hlabels)
  rw [run_clusters_overPods hlist, run_clusters_listing, ← Cluster.groups_filter plain]
  exact outlines_describe (sameGroup_seen hview) rest r

namespace Sample

/-- The status of a pod with an address on a second network. -/
def status : String := "[\x7b\"name\": \"dyncluster/macvlan0\", \"ips\": [\"192.168.10.7\"]\x7d]"

theorem isStatus_status : IsStatus status := by
  have hread : Json.read? status.toList = some (.list [.map [(.text "name", .text "dyncluster/macvlan0"),
      (.text "ips", .list [.text "192.168.10.7"])]]) := by decide +kernel
  refine ⟨_, hread, List.forall_mem_singleton.2 ?_⟩
  exact @IsStatusEntry.intro _ (some "dyncluster/macvlan0") (some ["192.168.10.7"]) rfl rfl

/-- A pod as the server shows it once it runs: everything of its manifest, and the phase. -/
def observed (pod : Manifest) : Observed :=
  ⟨pod.name, some "Running", some pod.labels, some (pod.annotations.put statusAnnotation status)⟩

/-- A server whose pods run at once. -/
def server : Answerer (interface Double) (List Manifest)
  | .log _, pods => ((), pods)
  | .create space pod, pods =>
    if pods.any fun other => other.space == space && other.name == pod.name then
      (.error (.refused (some 409) (some "Conflict")), pods)
    else (.ok (some (observed pod)), pods ++ [pod])
  | .read space name, pods =>
    match pods.find? fun pod => pod.space == space && pod.name == name with
    | some pod => (.ok (some (observed pod)), pods)
    | none => (.error (.refused (some 404) (some "Not Found")), pods)
  | .delete space name, pods => (.ok (), pods.filter fun pod => !(pod.space == space && pod.name == name))
  | .list space selector, pods =>
    (.ok (some ((pods.filter fun pod => Selected space selector pod).map observed)), pods)
  | .now, pods => (.ofInt 0, pods)
  | .pause _, pods => ((), pods)

theorem reports_observed (pod : Manifest) : Reports pod (observed pod) where
  name := rfl
  labels _ := rfl
  annotations key hkey := by
    show Table.get? (pod.annotations.put statusAnnotation status) key = _
    rw [Table.get?_put, if_neg hkey]
  status raw hraw := by
    have hput : Table.get? (pod.annotations.put statusAnnotation status) statusAnnotation = some raw := hraw
    rw [Table.get?_put, if_pos rfl] at hput
    cases hput
    exact .inr isStatus_status
  distinct h := h.put _ _

theorem keeps_server : Keeps server id where
  create space pod pods hfree := by
    have hnone : (pods.any fun other => other.space == space && other.name == pod.name) = false := by
      simpa using hfree
    have hreply : server (.create space pod) pods = (.ok (some (observed pod)), pods ++ [pod]) := by
      rw [server, hnone]
      rfl
    rw [hreply]
    exact ⟨_, rfl, reports_observed pod, .refl _⟩
  list space selector pods := by
    refine ⟨pods.filter fun pod => Selected space selector pod, _, rfl, ?_, .refl _⟩
    rw [List.forall₂_map_right_iff, List.forall₂_same]
    exact fun pod _ => reports_observed pod
  log _ _ := rfl

/-- A specification without binds and name servers; only its name and labels are of interest. -/
def spec (name : String) (labels : Labels) : Spec := ⟨name, "couchbase", "macvlan0", labels, [], [], true⟩

/-- Two containers, of which one belongs to a cluster and has a label that pods have as well. -/
def specs : List Spec :=
  [spec "Lone" [("app", "other")],
    spec "dynclsr-c1-Node 1" [(Container.creatorLabel, "ann@example.com"), (Container.clusterLabel, "c1"),
      (Container.nodeLabel, "Node 1"), ("app", "mine")]]

def settings : Settings Double := .standard

end Sample

open Sample in
/-- A label that pods have as well comes back as it was asked for. -/
theorem clusters_over_pods_of_specs : Keeps server id ∧ (specs.map fun spec => nameFor spec.name).Nodup ∧
    (∀ spec ∈ specs, Plain spec.labels) ∧ ∃ created container,
      (specs.mapM (create settings)).run server [] = (.ok ["lone", "dynclsr-c1-node-1"], created) ∧
      ((list settings).run server created).1 = .ok [container] ∧
      container.labels.get? "app" = some "mine" := by
  have hplain : ∀ spec ∈ specs, Plain spec.labels := by
    refine List.forall_mem_cons.2 ⟨⟨by decide, rfl, rfl⟩, List.forall_mem_singleton.2 ⟨by decide, rfl, rfl⟩⟩
  have hnames : (specs.map fun spec => nameFor spec.name) = ["lone", "dynclsr-c1-node-1"] := by
    decide +kernel
  have hnodup : (specs.map fun spec => nameFor spec.name).Nodup := hnames ▸ by decide
  refine ⟨keeps_server, hnodup, hplain, ?_⟩
  obtain ⟨created, hrun, hlist⟩ :=
    clusters_over_pods (ρ := Unit) keeps_server settings hnodup hplain (s := []) (by simp)
  obtain ⟨listed, containers, hperm, hcontainers, hdescribes, -⟩ := hlist created (.refl _)
  have hone : clustered specs = [spec "dynclsr-c1-Node 1" [(Container.creatorLabel, "ann@example.com"),
      (Container.clusterLabel, "c1"), (Container.nodeLabel, "Node 1"), ("app", "mine")]] := rfl
  -- With one cluster the order of the listing is no question.
  rw [hone, List.perm_singleton] at hperm
  subst hperm
  obtain _ | ⟨hfirst, hnil⟩ := hdescribes
  cases hnil
  exact ⟨created, _, hnames ▸ hrun, hcontainers, hfirst.labels "app" "mine" rfl⟩

end ClusterLease.Pod
