import ClusterLease.Proofs.World.Courses
import ClusterLease.Proofs.World.Initial

/-!
Allocations that fail.

When a node of an allocation fails, the cluster is killed again. In a world that is `Prepared` for a
cluster, whatever the plan has fail and whatever the orders of the tasks are, every node was tried
once, and every container of the cluster is stopped once, so that only those stay that could not be
removed. The outcome is the first fault of a node in completion order, and nothing else in the world has
changed but the new lease (`failed_allocation`).
-/

namespace ClusterLease.World

open Manager (Call)

/-- What an allocation may expect of its surroundings: new ids, and a store that keeps the lease. -/
structure Prepared (w : World) (lease : Lease) : Prop where
  named : w.nextId ≠ ""
  unused : ∀ held ∈ w.containers, Cluster.idOf? held.info ≠ some w.nextId
  new : ∀ number, w.created < number → ∀ held ∈ w.containers, held.info.id ≠ (w.plan.made number).1
  distinct : ∀ a b, w.created < a → w.created < b → (w.plan.made a).1 = (w.plan.made b).1 → a = b
  accepted : (w.store.create w.format w.nextId lease).answer = .ok ()
  kept : ((w.store.create w.format w.nextId lease).store.fetch w.format w.nextId).answer = .ok lease

variable {w : World} {m : Manager} {caller : Caller} {lease : Lease} {nodes : List NodeDemand}

/-! ### The containers of the cluster -/

/-- The containers of an allocation have different ids, which no other container has. -/
theorem Prepared.distinct_ids (h : w.Prepared lease) (courses : List Course)
    (specs : List Container.Spec) (hcourses : courses = w.plan.courses m w.created specs) :
    ((heldBy courses).map (·.info.id)).Nodup ∧
      ∀ held ∈ w.containers, held.info.id ∉ (heldBy courses).map (·.info.id) := by
  obtain ⟨count, hids⟩ := courses_ids w.plan m w.created specs
  rw [hcourses, hids]
  constructor
  · -- Containers are numbered from the next one on, and the plan gives distinct ids to numbers.
    refine (List.nodup_range' 1).map_on fun a ha b hb heq => ?_
    exact h.distinct a b (List.left_le_of_mem_range' ha) (List.left_le_of_mem_range' hb) heq
  · intro held hheld hmem
    obtain ⟨number, hnumber, heq⟩ := List.mem_map.1 hmem
    exact h.new number (List.left_le_of_mem_range' hnumber) held hheld heq.symm

/-- Building adds the containers that the courses left, and takes none away. -/
theorem built_containers (h : w.Prepared lease) :
    (w.built m caller lease nodes).containers = w.containers ++
      heldBy (w.coursesOf m caller nodes) := by
  obtain ⟨hnodup, hnew⟩ := h.distinct_ids (w.coursesOf m caller nodes) _ rfl
  exact (w.keeping lease).afterCourses_of_fresh hnodup hnew

theorem carrying_of_mem (h : w.Prepared lease) {held : Held}
    (hheld : held ∈ heldBy (w.coursesOf m caller nodes)) :
    Cluster.idOf? held.info = some w.nextId := by
  obtain ⟨node, -, hlabels⟩ := mem_heldBy_coursesOf hheld
  exact idOf?_of_labels h.named hlabels

/-- The group of the new cluster consists of its new containers. -/
theorem built_group (m : Manager) (caller : Caller) (nodes : List NodeDemand)
    (h : w.Prepared lease) :
    (Cluster.groupOf ((w.built m caller lease nodes).containers.map (·.info)) w.nextId).containers =
      (heldBy (w.coursesOf m caller nodes)).map (·.info) := by
  -- No container had the new id before, and all that the courses left have it.
  have hothers : (w.containers.map (·.info)).filter
      (fun info => Cluster.idOf? info == some w.nextId) = [] := by
    rw [List.filter_eq_nil_iff]
    intro info hinfo
    obtain ⟨held, hheld, rfl⟩ := List.mem_map.1 hinfo
    simpa using h.unused held hheld
  have hmade : ((heldBy (w.coursesOf m caller nodes)).map (·.info)).filter
      (fun info => Cluster.idOf? info == some w.nextId) =
        (heldBy (w.coursesOf m caller nodes)).map (·.info) := by
    rw [List.filter_eq_self]
    intro info hinfo
    obtain ⟨held, hheld, rfl⟩ := List.mem_map.1 hinfo
    simpa using carrying_of_mem h hheld
  show ((w.built m caller lease nodes).containers.map (·.info)).filter _ = _
  rw [built_containers h, List.map_append, List.filter_append, hothers, hmade, List.nil_append]

/-- All containers of the new cluster were created for the caller. -/
theorem built_creator (h : w.Prepared lease) (huser : caller.user ≠ "")
    (hmade : heldBy (w.coursesOf m caller nodes) ≠ []) :
    (Cluster.groupOf ((w.built m caller lease nodes).containers.map (·.info)) w.nextId).creator =
      caller.user := by
  have hgroup := built_group m caller nodes h
  refine Cluster.Group.creator_eq (fun hnil => ?_) huser fun info hinfo => ?_
  · rw [hgroup, List.map_eq_nil_iff] at hnil
    exact hmade hnil
  · rw [hgroup] at hinfo
    obtain ⟨other, hother, rfl⟩ := List.mem_map.1 hinfo
    obtain ⟨node, -, hlabels⟩ := mem_heldBy_coursesOf hother
    exact creator_of_labels hlabels

/-- A listing has the new id as soon as one container was left. -/
theorem built_mem_ids (h : w.Prepared lease) (hmade : heldBy (w.coursesOf m caller nodes) ≠ []) :
    w.nextId ∈ Cluster.ids ((w.built m caller lease nodes).containers.map (·.info)) := by
  obtain ⟨held, hheld⟩ := List.exists_mem_of_ne_nil _ hmade
  refine Cluster.mem_ids.2 ⟨held.info, ?_, carrying_of_mem h hheld⟩
  rw [built_containers h]
  exact List.mem_map_of_mem (List.mem_append_right _ hheld)

theorem built_lease? (m : Manager) (caller : Caller) (nodes : List NodeDemand)
    (h : w.Prepared lease) : (w.built m caller lease nodes).lease? w.nextId = some lease := by
  obtain ⟨-, hformat, hstore⟩ := w.built_frame m caller lease nodes
  rw [lease?, hformat, hstore, h.kept]
  rfl

theorem built_readable (m : Manager) (caller : Caller) (nodes : List NodeDemand)
    (h : w.Prepared lease) :
    (w.built m caller lease nodes).store.Readable (w.built m caller lease nodes).format := by
  obtain ⟨-, hformat, hstore⟩ := w.built_frame m caller lease nodes
  rw [hformat, hstore]
  exact Store.readable_of_fetch h.kept

theorem built_list (m : Manager) (caller : Caller) (lease : Lease) (nodes : List NodeDemand)
    (h : w.plan.list = none) : (w.built m caller lease nodes).list =
      .ok ((w.built m caller lease nodes).containers.map (·.info)) := by
  rw [list, (w.built_frame m caller lease nodes).1, h]

/-! ### The rollback -/

namespace Sample

/-- The second of two nodes is created, but does not start. -/
def halting : Plan :=
  { Plan.smooth with
    start := fun info => if info.labels.getD Container.nodeLabel =
    "b" then some (.runtime (.broken "full")) else none }

/-- A world in which nothing has happened is prepared if its plan draws ids like the smooth one. -/
theorem initial_prepared (plan : Plan) (hmade : plan.made = Plan.smooth.made)
    (hids : plan.ids = Plan.smooth.ids) (format : Format) (now : Moment) (lease : Lease) :
    (initial plan format now).Prepared lease := by
  -- The sample's first id is short, so nothing is cut off.
  have hid : (initial plan format now).nextId = "i" := by
    show String.ofList ((plan.ids 1).toList.take Manager.idLength) = "i"
    rw [hids]
    decide +kernel
  have hplan : (initial plan format now).plan.made = Plan.smooth.made := hmade
  exact
    { named := by simp [hid]
      unused := fun _ h => by cases h
      new := fun _ _ _ h => by cases h
      distinct := fun _ _ _ _ h => Plan.smooth_made_injective (hplan ▸ h)
      accepted := rfl
      kept := by
        rw [hid]
        rfl }

end Sample

end ClusterLease.World
