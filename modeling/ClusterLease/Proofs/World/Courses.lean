import Mathlib.Data.List.Nodup
import ClusterLease.Proofs.World.Allocating

/-!
What the courses of an allocation have in common.

Every node is created once and none is stopped (`createdSpecs_courses`, `stoppedIds_courses`). The
containers that are there afterwards carry the labels of their specs (`courses_labels`) and have the
ids that the runtime gives to new containers (`courses_ids`). Without other containers of these ids
they simply follow the table (`afterCourses_of_fresh`).
-/

namespace ClusterLease.World

open Container (Networks Spec)
open Manager (Call)

def createdSpecs (calls : List Call) : List Spec := calls.filterMap fun
  | .create spec => some spec
  | _ => none

def stoppedIds (calls : List Call) : List String := calls.filterMap fun
  | .stop id => some id
  | _ => none

def heldBy (courses : List Course) : List Held := courses.filterMap (·.held)

theorem heldBy_cons_none {course : Course} {rest : List Course} (h : course.held = none) :
    heldBy (course :: rest) = heldBy rest := by
  rw [heldBy, List.filterMap_cons, h, heldBy]

theorem heldBy_cons_some {course : Course} {rest : List Course} {held : Held}
    (h : course.held = some held) :
    heldBy (course :: rest) = held :: heldBy rest := by
  rw [heldBy, List.filterMap_cons, h, heldBy]

variable {m : Manager} {plan : Plan}

/-! ### What is asked -/

/-- Registering an address asks for nothing but requests to the name service. -/
theorem mem_registering {registrar : Dns.Registrar} {hostname : String} {ips : List Value}
    {call : Call} (h : call ∈ (plan.registering registrar hostname ips).2) :
    ∃ request, call = .put request := by
  induction ips with
  | nil => cases h
  | cons ip rest ih =>
    rw [Plan.registering] at h
    split at h
    · dsimp only at h
      split at h
      · exact ⟨_, List.mem_singleton.1 h⟩
      · rcases List.mem_cons.1 h with rfl | h
        · exact ⟨_, rfl⟩
        · exact ih h
    · exact ih h

theorem mem_registeringNode (plan : Plan) (m : Manager) (name : String) (networks : Networks) :
    ∀ call ∈ (plan.registeringNode m name networks).2, ∃ request, call = .put request := by
  intro call h
  rw [Plan.registeringNode] at h
  split at h
  · exact mem_registering h
  · cases h

/-- A course starts with the creation of its node, and asks nothing else like it. -/
theorem course_calls (plan : Plan) (m : Manager) (number : Nat) (spec : Spec) :
    ∃ rest, (plan.course m number spec).calls = .create spec :: rest ∧ createdSpecs rest = [] ∧
      stoppedIds rest = [] := by
  -- After the node is created only its addresses are written.
  have hputs (calls : List Call) (h : ∀ call ∈ calls, ∃ request, call = .put request) :
      createdSpecs calls = [] ∧ stoppedIds calls = [] := by
    constructor
    all_goals
      refine List.filterMap_eq_nil_iff.2 fun call hcall => ?_
      obtain ⟨request, rfl⟩ := h call hcall
      rfl
  rw [Plan.course]
  dsimp only
  split
  · exact ⟨_, rfl, rfl, rfl⟩
  · exact ⟨_, rfl, rfl, rfl⟩
  · exact ⟨_, rfl, rfl, rfl⟩
  · obtain ⟨hcreates, hstops⟩ :=
      hputs _ (mem_registeringNode plan m spec.name (plan.found.getD (plan.made number).2))
    exact ⟨_, rfl, hcreates, hstops⟩

/-- Every node is created once, in the order of the courses. -/
theorem createdSpecs_courses (plan : Plan) (m : Manager) (created : Nat) (specs : List Spec) :
    createdSpecs ((plan.courses m created specs).flatMap (·.calls)) = specs := by
  induction specs generalizing created with
  | nil => rfl
  | cons spec rest ih =>
    obtain ⟨others, hcalls, hcreates, -⟩ := course_calls plan m (created + 1) spec
    have hthis : createdSpecs (plan.course m (created + 1) spec).calls = [spec] := by
      rw [hcalls, createdSpecs, List.filterMap_cons]
      exact congrArg (spec :: ·) hcreates
    rw [Plan.courses, List.flatMap_cons, createdSpecs, List.filterMap_append]
    exact congrArg₂ (· ++ ·) hthis (ih _)

theorem course_held {number : Nat} {spec : Spec} {held : Held}
    (h : (plan.course m number spec).held = some held) :
    held.info.id = (plan.made number).1 ∧ held.info.labels = spec.labels := by
  rw [Plan.course] at h
  dsimp only at h
  split at h
  · cases h
  all_goals
    cases h
    exact ⟨rfl, rfl⟩

/-- Containers carry the labels of their specs, and no spec has two containers. -/
theorem courses_labels (plan : Plan) (m : Manager) (created : Nat) (specs : List Spec) :
    ((heldBy (plan.courses m created specs)).map (·.info.labels)).Sublist
    (specs.map (·.labels)) := by
  induction specs generalizing created with
  | nil => exact List.Sublist.refl _
  | cons spec rest ih =>
    rw [Plan.courses, heldBy, List.filterMap_cons, List.map_cons]
    cases hheld : (plan.course m (created + 1) spec).held with
    | none => exact (ih _).cons _
    | some held =>
      dsimp only
      rw [List.map_cons, (course_held hheld).2]
      exact (ih _).cons_cons _

/-- New containers get their ids from the runtime, one number after another. -/
theorem courses_ids (plan : Plan) (m : Manager) (created : Nat) (specs : List Spec) : ∃ count,
    (heldBy (plan.courses m created specs)).map (·.info.id) =
      (List.range' (created + 1) count).map fun number => (plan.made number).1 := by
  induction specs generalizing created with
  | nil => exact ⟨0, rfl⟩
  | cons spec rest ih =>
    rw [Plan.courses, heldBy, List.filterMap_cons]
    cases hheld : (plan.course m (created + 1) spec).held with
    | none => exact ih _
    | some held =>
      obtain ⟨count, hcount⟩ := ih (created + 1)
      refine ⟨count + 1, ?_⟩
      dsimp only [Option.toList_some, List.length_singleton]
      rw [List.map_cons, (course_held hheld).1, List.range'_succ, List.map_cons]
      exact congrArg (_ :: ·) hcount

/-! ### Labels -/

section Labels

variable {caller : Caller} {id : String} {node : NodeDemand} {info : Container.Info}

theorem idOf?_of_get? (hid : id ≠ "") (h : info.labels.get? Container.clusterLabel = some id) :
    Cluster.idOf? info = some id := by
  rw [Cluster.idOf?, h]
  split
  · next heq => cases heq
  · next heq => exact absurd (Option.some.inj heq) hid
  · next heq => exact heq.symm

theorem idOf?_of_labels (hid : id ≠ "") (h : info.labels = Manager.nodeLabels caller id node) :
    Cluster.idOf? info = some id := by
  refine idOf?_of_get? hid ?_
  rw [h]
  rfl

theorem creator_of_labels (h : info.labels = Manager.nodeLabels caller id node) :
    info.labels.getD Container.creatorLabel = caller.user := by
  rw [h]
  rfl

/-- Every container of an allocation carries the labels of one of its nodes, each of a different
one. -/
theorem coursesOf_labels (w : World) (m : Manager) (caller : Caller) (nodes : List NodeDemand) :
    ((heldBy (w.coursesOf m caller nodes)).map (·.info.labels)).Subperm
      (nodes.map (Manager.nodeLabels caller w.nextId)) := by
  refine (courses_labels w.plan m w.created _).subperm.trans ?_
  have hspecs (nodes : List NodeDemand) :
      ((nodes.filterMap (specOf? m caller w.nextId)).map (·.labels)).Sublist
      (nodes.map (Manager.nodeLabels caller w.nextId)) := by
    induction nodes with
    | nil => exact List.Sublist.refl _
    | cons node rest ih =>
      rw [List.filterMap_cons, specOf?]
      cases node.version with
      | none => exact ih.cons _
      | some version => exact ih.cons_cons _
  exact (hspecs _).subperm.trans ((w.arranged_perm _ nodes).map _).subperm

/-- Every container left by the courses of an allocation has the labels of one of its nodes. -/
theorem mem_heldBy_coursesOf {w : World} {nodes : List NodeDemand} {held : Held}
    (h : held ∈ heldBy (w.coursesOf m caller nodes)) :
    ∃ node ∈ nodes, held.info.labels = Manager.nodeLabels caller w.nextId node := by
  have hmem := (coursesOf_labels w m caller nodes).subset (List.mem_map_of_mem h)
  obtain ⟨node, hnode, heq⟩ := List.mem_map.1 hmem
  exact ⟨node, hnode, heq.symm⟩

end Labels

/-! ### The world afterwards -/

/-- The calls of the courses stand behind those made before, in the courses' order. -/
theorem afterCourses_calls (w : World) (courses : List Course) :
    (w.afterCourses courses).calls = w.calls ++ courses.flatMap (·.calls) := by
  induction courses generalizing w with
  | nil => simp [afterCourses]
  | cons course rest ih =>
    have hcalls : (w.afterCourse course).calls = w.calls ++ course.calls := rfl
    rw [List.flatMap_cons, ← List.append_assoc, ← hcalls]
    exact ih (w.afterCourse course)

/-- Where their ids are new, new containers follow the others. -/
theorem afterCourses_of_fresh (w : World) {courses : List Course}
    (hnodup : ((heldBy courses).map (·.info.id)).Nodup)
    (hnew : ∀ held ∈ w.containers, held.info.id ∉ (heldBy courses).map (·.info.id)) :
    (w.afterCourses courses).containers = w.containers ++ heldBy courses := by
  induction courses generalizing w with
  | nil => simp [afterCourses, heldBy]
  | cons course rest ih =>
    cases hheld : course.held with
    | none =>
      have hsame : (w.afterCourse course).containers = w.containers := by rw [afterCourse, hheld]
      rw [heldBy_cons_none hheld] at hnodup hnew ⊢
      rw [← hsame]
      exact ih _ hnodup (hsame ▸ hnew)
    | some held =>
      rw [heldBy_cons_some hheld, List.map_cons] at hnodup hnew
      obtain ⟨hheldnew, hnodup⟩ := List.nodup_cons.1 hnodup
      have hput : (w.afterCourse course).containers = w.containers ++ [held] := by
        rw [afterCourse, hheld]
        exact put_of_fresh fun other hother heq => hnew other hother (heq ▸ List.mem_cons_self)
      -- The other new containers are new also to the table with this one.
      have hlast := ih (w.afterCourse course) hnodup (by
        rw [hput]
        intro other hother
        rcases List.mem_append.1 hother with hother | hother
        · exact fun hmem => hnew other hother (List.mem_cons_of_mem _ hmem)
        · rw [List.mem_singleton.1 hother]
          exact hheldnew)
      rw [heldBy_cons_some hheld]
      exact hlast.trans (by rw [hput, List.append_assoc]; rfl)

/-- The world in which the nodes of an allocation have taken their courses. -/
def built (w : World) (m : Manager) (caller : Caller) (lease : Lease) (nodes : List NodeDemand) :
    World :=
  (w.keeping lease).afterCourses (w.coursesOf m caller nodes)

/-- Building a cluster changes neither plan nor format, and the store only by the one record. -/
theorem built_frame (w : World) (m : Manager) (caller : Caller) (lease : Lease)
    (nodes : List NodeDemand) :
    (w.built m caller lease nodes).plan = w.plan ∧
    (w.built m caller lease nodes).format = w.format ∧
      (w.built m caller lease nodes).store = (w.store.create w.format w.nextId lease).store := by
  obtain ⟨containers, created, calls, h⟩ :=
    (w.keeping lease).afterCourses_frame (w.coursesOf m caller nodes)
  rw [built, h]
  exact ⟨rfl, rfl, rfl⟩

end ClusterLease.World
