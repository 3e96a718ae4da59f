import Mathlib.Data.List.Perm.Basic
import ClusterLease.Proofs.World.Rollback

/-!
Allocations that succeed.

In a world where nothing goes wrong (`Plan.Works`) an allocation delivers what was asked for: each
node has a container, made in some order, and whoever may see the cluster is shown its creator, its
owner, its end and these nodes (`delivered_allocation`). Nobody else finds it.
-/

namespace ClusterLease.World

open Container (Address Info Networks Spec)
open ClusterDemand (Placed PlacedFor)

/-- A plan in which nothing goes wrong with an allocation. A DNS service may refuse what it is told. -/
structure Plan.Works (plan : Plan) (m : Manager) : Prop where
  create : ∀ spec, plan.create spec = none
  start : ∀ info, plan.start info = none
  inspect : ∀ info, plan.inspect info = none
  list : plan.list = none
  dns : ∀ registrar ∈ m.registrar, ∀ hostname ip,
    putFault? (plan.dns (registrar.request hostname ip)) = none

variable {w : World} {m : Manager} {caller : Caller} {plan : Plan}

/-! ### Courses -/

theorem Plan.Works.registeringNode (h : plan.Works m) (name : String) (networks : Networks) :
    (plan.registeringNode m name networks).1 = none := by
  have hnone (registrar : Dns.Registrar) (hregistrar : registrar ∈ m.registrar) (hostname : String)
      (ips : List Value) : (plan.registering registrar hostname ips).1 = none := by
    -- By induction on the addresses, each of which is skipped or registered without a fault.
    induction ips with
    | nil => rfl
    | cons ip rest ih =>
      rw [Plan.registering]
      split
      · dsimp only
        rw [h.dns registrar hregistrar hostname ip]
        exact ih
      · exact ih
  rw [Plan.registeringNode]
  split
  · next hregistrar _ => exact hnone _ hregistrar _ _
  · rfl

/-- The container that a spec gets from the runtime. -/
def Plan.container (plan : Plan) (number : Nat) (spec : Spec) : Info :=
  ⟨(plan.made number).1, "running", spec.labels, (plan.made number).2⟩

/-- Where everything works, a course has no fault and leaves a running container. -/
theorem Plan.Works.course (h : plan.Works m) (number : Nat) (spec : Spec) :
    (plan.course m number spec).fault = none ∧
      (plan.course m number spec).held = some ⟨plan.container number spec, (plan.made number).2⟩ := by
  rw [Plan.course]
  simp only [h.create, h.start, h.inspect]
  exact ⟨h.registeringNode _ _, rfl⟩

/-- Every node gets its container, one after another. -/
theorem Plan.Works.courses (h : plan.Works m) (created : Nat) (specs : List Spec) :
    firstFault (plan.courses m created specs) = none ∧
      (heldBy (plan.courses m created specs)).map (·.info) =
        (specs.zipIdx (created + 1)).map fun (spec, number) => plan.container number spec := by
  -- By induction on the specifications, for any number of containers before them, as these count the next ids.
  induction specs generalizing created with
  | nil => exact ⟨rfl, rfl⟩
  | cons spec rest ih =>
    obtain ⟨hfault, hheld⟩ := h.course (created + 1) spec
    have hnext : created + (plan.course m (created + 1) spec).held.toList.length = created + 1 := by
      rw [hheld]
      rfl
    obtain ⟨hfaults, hhelds⟩ := ih (created + 1)
    rw [Plan.courses, hnext]
    constructor
    · rw [firstFault, List.findSome?_cons, hfault]
      exact hfaults
    · rw [heldBy_cons_some hheld, List.map_cons, List.zipIdx_cons, List.map_cons, hhelds]

/-! ### Nodes and their places -/

/-- What is asked of the runtime for a node. -/
def specFor (m : Manager) (caller : Caller) (id : String) (placed : Placed) : Spec :=
  m.nodeSpec caller id placed.node placed.version

/-- A node as it is shown, which has the container with a number. -/
def deliveredNode (plan : Plan) (network : String) (number : Nat) (placed : Placed) : Node :=
  let address := ((plan.made number).2.address? network).getD Address.none
  { containerId := (plan.made number).1
    state := "running"
    name := placed.name
    serverVersion := placed.demand.serverVersion
    ipv4 := address.ipv4
    ipv6 := address.ipv6 }

/-- The delivered node is what is told of the container that was made for it. -/
theorem node_of_container (plan : Plan) (m : Manager) (caller : Caller) (id : String) (number : Nat)
    (placed : Placed) :
    Node.ofContainer m.config.networkName (plan.container number (specFor m caller id placed)) =
      deliveredNode plan m.config.networkName number placed := rfl

/-- In whatever order nodes run, they are the nodes for some order of the places. -/
theorem exists_arranged (w : World) (label : String) (places : List Placed) :
    ∃ turns : List Placed, turns.Perm places ∧
      w.arranged label (places.map Placed.node) = turns.map Placed.node := by
  have hsame : List.Forall₂ (fun node (placed : Placed) => node = placed.node)
      (places.map Placed.node) places := List.forall₂_map_left_iff.2 (List.forall₂_same.2 fun _ _ => rfl)
  obtain ⟨turns, hturns, hperm⟩ := List.perm_comp_forall₂ (w.arranged_perm label _) hsame
  refine ⟨turns, hperm, ?_⟩
  rwa [← List.forall₂_eq_eq_eq, List.forall₂_map_right_iff]

/-- The courses of nodes at places, in the order in which they run. -/
theorem coursesOf_placed (w : World) (m : Manager) (caller : Caller) (places : List Placed) :
    ∃ turns : List Placed, turns.Perm places ∧ w.coursesOf m caller (places.map Placed.node) =
      w.plan.courses m w.created (turns.map (specFor m caller w.nextId)) := by
  obtain ⟨turns, hperm, harranged⟩ := w.exists_arranged s!"allocate-{w.nextId}" places
  refine ⟨turns, hperm, ?_⟩
  rw [coursesOf, harranged, List.filterMap_map, ← List.filterMap_eq_map]
  rfl

/-! ### The cluster -/

/-- A world in which an allocation has delivered nodes, in the order in which their turns came. -/
structure Delivered (w after : World) (m : Manager) (caller : Caller) (expiry : Moment)
    (turns : List Placed) : Prop where
  created : ∃ asked, after.calls = w.calls ++ asked ∧
    (createdSpecs asked).map (fun spec => (spec.name, spec.image)) = turns.map fun one =>
      (s!"dynclsr-{w.nextId}-{one.name}",
        s!"{m.config.registry}/dynclsr-couchbase_{one.version.tag}")
  /-- The caller sees the cluster, and so does whoever does not mind ownership. -/
  shown : ∀ reader : Caller, reader.user = caller.user ∨ reader.ignoresOwnership = true →
    ((m.cluster reader w.nextId).run answer after).1 = .ok
      { id := w.nextId
        creator := caller.user
        owner := .text caller.user
        expiry := .moment expiry
        nodes := (turns.zipIdx (w.created + 1)).map fun (one, number) =>
          deliveredNode w.plan m.config.networkName number one }
  hidden : ∀ reader : Caller, reader.user ≠ caller.user → reader.ignoresOwnership = false →
    ((m.cluster reader w.nextId).run answer after).1 = .error (.clusterNotFound w.nextId)

section Built

variable {lease : Lease} {places turns : List Placed}

/-- The nodes of the new cluster, in the order of their turns. -/
theorem built_nodes (hworks : w.plan.Works m) (hprepared : w.Prepared lease)
    (hcourses : w.coursesOf m caller (places.map Placed.node) =
      w.plan.courses m w.created (turns.map (specFor m caller w.nextId))) :
    (Cluster.groupOf ((w.built m caller lease (places.map Placed.node)).containers.map (·.info))
        w.nextId).containers.map (Node.ofContainer m.config.networkName) =
      (turns.zipIdx (w.created + 1)).map fun (one, number) =>
        deliveredNode w.plan m.config.networkName number one := by
  rw [built_group m caller _ hprepared, hcourses, (hworks.courses w.created _).2, List.zipIdx_map,
    List.map_map, List.map_map]
  exact List.map_congr_left fun (one, number) _ =>
    node_of_container w.plan m caller w.nextId number one

/-- Whoever finds the new cluster is shown its creator, its lease and its nodes. -/
theorem built_cluster (huser : caller.user ≠ "") (hworks : w.plan.Works m)
    (hprepared : w.Prepared lease)
    (hcourses : w.coursesOf m caller (places.map Placed.node) =
      w.plan.courses m w.created (turns.map (specFor m caller w.nextId)))
    (hsome : heldBy (w.coursesOf m caller (places.map Placed.node)) ≠ []) :
    (w.built m caller lease (places.map Placed.node)).clusterOf m
        ((w.built m caller lease (places.map Placed.node)).containers.map (·.info)) w.nextId =
      { id := w.nextId
        creator := caller.user
        owner := lease.owner
        expiry := lease.expiry
        nodes := (turns.zipIdx (w.created + 1)).map fun (one, number) =>
          deliveredNode w.plan m.config.networkName number one } := by
  rw [clusterOf, built_lease? m caller _ hprepared, Cluster.ofGroup, built_creator hprepared huser hsome,
    built_nodes hworks hprepared hcourses]
  rfl

/-- With a node there is a container that carries the cluster. -/
theorem heldBy_placed_ne_nil (hworks : w.plan.Works m) (hturns : turns ≠ [])
    (hcourses : w.coursesOf m caller (places.map Placed.node) =
      w.plan.courses m w.created (turns.map (specFor m caller w.nextId))) :
    heldBy (w.coursesOf m caller (places.map Placed.node)) ≠ [] := by
  intro hnil
  have hhelds := (hworks.courses w.created (turns.map (specFor m caller w.nextId))).2
  rw [← hcourses, hnil, List.zipIdx_map, List.map_map] at hhelds
  exact hturns (by simpa using hhelds.symm)

/-- The caller finds the new cluster, and nobody else who minds ownership does. -/
theorem finds_built {nodes : List NodeDemand} (huser : caller.user ≠ "")
    (hprepared : w.Prepared lease) (hsome : heldBy (w.coursesOf m caller nodes) ≠ [])
    (reader : Caller) :
    Finds reader ((w.built m caller lease nodes).containers.map (·.info)) w.nextId ↔
      reader.user = caller.user ∨ reader.ignoresOwnership = true := by
  rw [Finds, and_iff_right (built_mem_ids hprepared hsome), Manager.sees,
    built_creator hprepared huser hsome, Bool.or_eq_true, beq_iff_eq, or_comm, eq_comm]

/-- A built cluster is found by whoever its labels let see it. -/
theorem run_cluster_built {nodes : List NodeDemand} (hworks : w.plan.Works m)
    (hprepared : w.Prepared lease) (reader : Caller) (logs : List Log.Entry) :
    ((m.cluster reader w.nextId).run answer ((w.built m caller lease nodes).withLogs logs)).1 =
      if Finds reader ((w.built m caller lease nodes).containers.map (·.info)) w.nextId then
        .ok ((w.built m caller lease nodes).clusterOf m
          ((w.built m caller lease nodes).containers.map (·.info)) w.nextId)
      else .error (.clusterNotFound w.nextId) := by
  have hreadable : ((w.built m caller lease nodes).withLogs logs).store.Readable
      ((w.built m caller lease nodes).withLogs logs).format := built_readable m caller nodes hprepared
  have hlist : ((w.built m caller lease nodes).withLogs logs).list =
      .ok ((w.built m caller lease nodes).containers.map (·.info)) :=
    built_list m caller lease nodes hworks.list
  rw [← outcome_quietly, run_cluster hreadable, hlist]
  rfl

end Built

/-- A valid demand is met where nothing goes wrong: the id of a new cluster is returned, and the cluster
has a node for every place of the demand. -/
theorem delivered_allocation {wanted : ClusterDemand} {nodes : List NodeDemand} {length : Duration}
    {expiry : Moment} (huser : caller.user ≠ "") (hchecked : wanted.checked m.limits = .ok nodes)
    (hlength : m.config.defaultLease = .ok length) (hexpiry : w.clock.add? length = some expiry)
    (hprepared : w.Prepared (Lease.ofUser caller.user expiry)) (hworks : w.plan.Works m) :
    ((m.allocate caller wanted).run answer w).1 = .ok w.nextId ∧
    ∃ turns : List Placed,
      (turns.map fun one => (one.demand, one.place)).Perm wanted.nodes.zipIdx ∧
      (∀ one ∈ turns, one.demand.resolvedVersion = .ok one.version) ∧
      Delivered w ((m.allocate caller wanted).run answer w).2 m caller expiry turns := by
  obtain ⟨places, hplaces, rfl⟩ := ClusterDemand.checked_placed hchecked
  obtain ⟨turns, hturns, hcourses⟩ := w.coursesOf_placed m caller places
  have hrun := run_allocate w hchecked hlength hexpiry hprepared.accepted
  have hnone : firstFault (w.completedCourses m caller (places.map Placed.node)) = none := by
    rw [completedCourses, firstFault, findSome?_completed_eq_none, hcourses]
    exact (hworks.courses w.created _).1
  rw [hnone, hcourses] at hrun
  obtain ⟨logs, hanswer⟩ := run_of_quietly hrun
  rw [hanswer, ← hcourses]
  have hasked : (turns.map fun one => (one.demand, one.place)).Perm wanted.nodes.zipIdx := by
    rw [← hplaces.places]
    exact hturns.map _
  -- A demand that passed its checks asks for some node.
  have hsome : heldBy (w.coursesOf m caller (places.map Placed.node)) ≠ [] := by
    refine heldBy_placed_ne_nil hworks (fun hnil => ?_) hcourses
    rw [hnil, List.map_nil, List.nil_perm] at hasked
    exact (ClusterDemand.checkNodes_of_checked hchecked).2.1 (by simpa using hasked)
  have hfinds := finds_built huser hprepared hsome
  refine ⟨rfl, turns, hasked, fun one hone => hplaces.versions one (hturns.mem_iff.1 hone), ?_⟩
  refine ⟨⟨(w.coursesOf m caller (places.map Placed.node)).flatMap (·.calls), ?_, ?_⟩,
    fun reader hreader => ?_, fun reader hother hminds => ?_⟩
  · exact afterCourses_calls _ _
  · rw [hcourses, createdSpecs_courses, List.map_map]
    rfl
  · refine (run_cluster_built hworks hprepared reader logs).trans ?_
    rw [if_pos ((hfinds reader).2 hreader), built_cluster huser hworks hprepared hcourses hsome]
    rfl
  · refine (run_cluster_built hworks hprepared reader logs).trans (if_neg fun hfound => ?_)
    rcases (hfinds reader).1 hfound with hsame | hoverrides
    · exact hother hsame
    · exact Bool.false_ne_true (hminds.symm.trans hoverrides)

namespace Sample

/-- The last node comes first. -/
def backwards : Plan := { Plan.smooth with arrange := fun _ count => .reversed count }

/-- Nothing fails in this plan; it only finishes the nodes in the opposite order. -/
theorem backwards_works (m : Manager) : backwards.Works m where
  create _ := rfl
  start _ := rfl
  inspect _ := rfl
  list := rfl
  dns _ _ _ _ := rfl

/-- A node without a name or a version, and one with both. -/
def nameless : ClusterDemand := ⟨minute, [⟨"", "centos7", "7.0.1", none⟩, node "b"]⟩

end Sample

open Sample in
/-- Two nodes are delivered, of which the first is named and given a version. -/
theorem delivered_allocation_of_nameless :
    ((manager.allocate ann nameless).run answer (initial backwards .yaml newYear)).1 =
      .ok (initial backwards .yaml newYear).nextId ∧
    ∃ turns : List Placed,
      (turns.map fun one => (one.demand, one.place)).Perm nameless.nodes.zipIdx ∧
      (∀ one ∈ turns, one.demand.resolvedVersion = .ok one.version) ∧
      Delivered (initial backwards .yaml newYear)
        ((manager.allocate ann nameless).run answer (initial backwards .yaml newYear)).2
        manager ann hourLater turns := by
  have hprepared : (initial backwards .yaml newYear).Prepared (Lease.ofUser ann.user hourLater) :=
    initial_prepared backwards rfl rfl _ _ _
  have hchecked : nameless.checked manager.limits =
      .ok [{ node "node_1" with version := some ⟨"7.0.1", "cheshire-cat", ""⟩ }, node "b"] := by
    decide +kernel
  have hlength : manager.config.defaultLease = .ok ⟨3600000000, by decide⟩ := rfl
  exact delivered_allocation (by decide) hchecked hlength (by decide +kernel) hprepared
    (backwards_works manager)

end ClusterLease.World
