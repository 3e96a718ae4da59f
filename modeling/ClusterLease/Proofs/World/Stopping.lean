import ClusterLease.Proofs.Manager.InTurn
import ClusterLease.Proofs.World.Reading

/-!
Killing in a world.

A stop removes its container unless the plan has it fail before that; `World.afterStops` is the
world after some stops. A kill that finds a cluster which the caller may kill stops all of its
nodes, each once (`run_kill_of_mayKill`); any other kill changes nothing.
-/

namespace ClusterLease.World

open Container (Info)
open Manager (Finished)

/-- The container goes, though the stop may fail afterwards. -/
def StopPlan.removes : StopPlan → Bool
  | .fails _ => false
  | .works | .failsAfter _ => true

/-- What the stop fails with. -/
def StopPlan.fault? : StopPlan → Option Fault
  | .works => none
  | .fails fault | .failsAfter fault => some fault

/-- The container stays when all of some containers are stopped. -/
def Stays (plan : Plan) (ids : List String) (held : Held) : Bool :=
  !(ids.contains held.info.id && (plan.stop held.info.id).removes)

def afterStops (w : World) (ids : List String) : World :=
  { w with calls := w.calls ++ ids.map .stop, containers := w.containers.filter (Stays w.plan ids) }

@[simp] theorem afterStops_nil (w : World) : w.afterStops [] = w := by
  have hall : w.containers.filter (Stays w.plan []) = w.containers :=
    List.filter_eq_self.2 fun held _ => rfl
  rw [afterStops, hall, List.map_nil, List.append_nil]

theorem afterStops_cons (w : World) (id : String) (ids : List String) :
    (w.afterStops [id]).afterStops ids = w.afterStops (id :: ids) := by
  have hstays (held : Held) :
      (Stays w.plan ids held && Stays w.plan [id] held) = Stays w.plan (id :: ids) held := by
    simp only [Stays, List.contains_cons, List.contains_nil, Bool.or_false]
    cases held.info.id == id <;> cases ids.contains held.info.id <;>
      cases (w.plan.stop held.info.id).removes <;> rfl
  have hcontainers : (w.containers.filter (Stays w.plan [id])).filter (Stays w.plan ids) =
      w.containers.filter (Stays w.plan (id :: ids)) := by
    rw [List.filter_filter]
    exact List.filter_congr fun held _ => hstays held
  have hcalls : w.calls ++ [id].map Manager.Call.stop ++ ids.map .stop =
      w.calls ++ (id :: ids).map .stop := by simp
  simp only [afterStops, hcalls, hcontainers]

/-! ### One container -/

variable {w : World} {m : Manager} {caller : Caller}

theorem removeContainer_of_not_held {id : String} (h : (w.held? id).isSome = false) :
    w.removeContainer id = w := by
  have hall : (w.containers.filter fun held => held.info.id ≠ id) = w.containers := by
    rw [List.filter_eq_self]
    intro held hheld
    rw [held?, Option.isSome_eq_false_iff, Option.isNone_iff_eq_none, List.find?_eq_none] at h
    simpa using h held hheld
  rw [removeContainer, hall]

/-- A stop removes the container that it names, unless it fails before that. -/
theorem stop_world (w : World) (id : String) :
    (w.stop id).2 = if (w.plan.stop id).removes then w.removeContainer id else w := by
  rw [stop]
  cases hplan : w.plan.stop id with
  | fails fault => rfl
  | works =>
    cases hheld : (w.held? id).isSome with
    | true => rfl
    | false => exact (removeContainer_of_not_held hheld).symm
  | failsAfter fault =>
    cases hheld : (w.held? id).isSome with
    | true => rfl
    | false => exact (removeContainer_of_not_held hheld).symm

/-- A stop leaves what its plan says of the container. -/
theorem answerQuietly_stop (w : World) (id : String) :
    (answerQuietly (.stop id) w).2 = w.afterStops [id] := by
  have hstays (held : Held) :
      Stays w.plan [id] held = !(decide (held.info.id = id) && (w.plan.stop id).removes) := by
    by_cases hid : held.info.id = id <;> simp [Stays, hid]
  show ((w.noting (.stop id)).stop id).2.withLogs w.logs = _
  rw [stop_world, afterStops, funext hstays]
  show withLogs (if (w.plan.stop id).removes then _ else _) _ = _
  cases (w.plan.stop id).removes with
  | true => simp [removeContainer, noting, withLogs]
  | false => simp [noting, withLogs]

/-- The fault of a stop is the one of the plan, or that there is no such container. -/
theorem stop_fault {id : String} {fault : Fault} (h : (w.stop id).1 = .error fault) :
    fault = .containerNotFound id ∨ (w.plan.stop id).fault? = some fault := by
  rw [stop] at h
  -- A stop fails as planned, or because there is nothing to stop.
  cases hplan : w.plan.stop id with
  | fails planned =>
    rw [hplan] at h
    cases h
    exact .inr rfl
  | works =>
    rw [hplan] at h
    cases hheld : (w.held? id).isSome with
    | true => simp [hheld] at h
    | false => exact .inl (by simpa [hheld] using h.symm)
  | failsAfter planned =>
    rw [hplan] at h
    cases hheld : (w.held? id).isSome with
    | true => exact .inr (by simpa [hheld, StopPlan.fault?] using h)
    | false => exact .inl (by simpa [hheld] using h.symm)

/-- Killing a node stops its container and fails with the fault of the stop, if at all. -/
theorem run_killNode (caller : Caller) (w : World) (id : String) : ∃ outcome,
    (Manager.killNode caller id).run answerQuietly w = (outcome, w.afterStops [id]) ∧
      ∀ fault, outcome = .error fault → (w.plan.stop id).fault? = some fault := by
  rw [Manager.killNode, run_info_bind, run_ask_bind, answerQuietly_stop]
  have hfault {fault : Fault} (h : (answerQuietly (.stop id) w).1 = .error fault) :
      fault = .containerNotFound id ∨ (w.plan.stop id).fault? = some fault :=
    stop_fault (w := w.noting (.stop id)) h
  cases hreply : (answerQuietly (.stop id) w).1 with
  | ok _ => exact ⟨.ok (), rfl, fun _ h => by cases h⟩
  | error fault =>
    cases fault with
    | containerNotFound other => exact ⟨.ok (), rfl, fun _ h => by cases h⟩
    | _ =>
      refine ⟨.error _, rfl, fun _ h => ?_⟩
      cases h
      exact (hfault hreply).resolve_left fun hnone => by cases hnone

/-! ### Several tasks -/

variable {α : Type} (label : String) (display : α → String) {work : α → ManagerM Unit}
    {items : List α}

/-- Failures are written down and nothing else. -/
theorem run_logFailures (finished : List (Finished α)) (w : World) :
    (Manager.logFailures label display finished).run answerQuietly w = (.ok (), w) := by
  induction finished with
  | nil => rfl
  | cons first rest ih =>
    rw [Manager.logFailures_cons]
    cases first.fault? with
    | none => exact ih
    | some fault => exact ih

/-- Items in the order that the world gives them under this label. -/
def arranged (w : World) (label : String) (items : List α) : List α :=
  (w.plan.arrange label items.length).apply items

/-- Arranging loses and repeats nothing. -/
theorem arranged_perm (w : World) (label : String) (items : List α) :
    (w.arranged label items).Perm items :=
  Manager.Arrangement.apply_perm items _

/-- What ran, in the order in which it is told to be complete. -/
def completed (w : World) (label : String) (items : List α) : List α :=
  (w.plan.collect label items.length).apply items

theorem completed_perm (w : World) (label : String) (items : List α) :
    (w.completed label items).Perm items :=
  Manager.Arrangement.apply_perm items (w.plan.collect label items.length).toArrangement

theorem completed_map {β : Type} (w : World) (label : String) (items : List α) (f : α → β) :
    (w.completed label items).map f = w.completed label (items.map f) := by
  rw [completed, completed, List.length_map, Manager.Arrangement.apply_map]

/-- Whether there is any fault does not depend on the completion order. -/
theorem findSome?_completed_eq_none {w : World} {label : String} {fault? : α → Option Fault} :
    (w.completed label items).findSome? fault? = none ↔ items.findSome? fault? = none := by
  rw [List.findSome?_eq_none_iff, List.findSome?_eq_none_iff]
  exact forall_congr' fun item => imp_congr_left (w.completed_perm label items).mem_iff

/-- In completion order, which fault is the first one depends on the faults only. -/
theorem findSome?_completed {β : Type} (w : World) (label : String) {finished : List (Finished α)}
    {items : List β} {fault? : β → Option Fault} (h : finished.map Finished.fault? = items.map fault?) :
    (w.completed label finished).findSome? Finished.fault? = (w.completed label items).findSome? fault? := by
  have htold := congrArg (fun faults => (w.completed label faults).findSome? id) h
  rwa [← completed_map, ← completed_map, List.findSome?_map, List.findSome?_map] at htold

/-- A fan-out runs its tasks in the order of the plan, and returns the fault of the first one that failed, in
completion order. -/
theorem run_fanOut {finished : List (Finished α)} {last : World}
    (h : (Manager.runAll work (w.arranged label items)).run answerQuietly w =
      (.ok finished, last)) :
    (Manager.fanOut label display work items).run answerQuietly w =
      (.ok ((last.completed label finished).findSome? Finished.fault?), last) := by
  have hdone : (Manager.runAll work (w.arranged label items) >>= Manager.takeUp label display).run
      answerQuietly w = (.ok ((last.completed label finished).findSome? Finished.fault?), last) := by
    rw [Program.run_bind, h]
    show Program.run answerQuietly (Manager.logFailures label display _ >>= _) last = _
    rw [Program.run_bind, run_logFailures]
    rfl
  cases items with
  | nil =>
    -- Nothing ran, so that nothing is taken up.
    have hnone : w.arranged label ([] : List α) = [] := List.perm_nil.1 (w.arranged_perm label [])
    rw [hnone] at h
    cases h
    have hnothing : w.completed label ([] : List (Finished α)) = [] :=
      List.perm_nil.1 (w.completed_perm label [])
    rw [hnothing]
    rfl
  | cons item rest => exact hdone

/-- Stopping nodes one after another. What fails is what the plan has fail. -/
theorem run_stopNodes (caller : Caller) (nodes : List Node) (w : World) : ∃ finished,
    (Manager.runAll (fun node : Node => Manager.killNode caller node.containerId) nodes).run
      answerQuietly w =
      (.ok finished, w.afterStops (nodes.map (·.containerId))) ∧
      ∀ task ∈ finished, ∀ fault, task.outcome = .error fault →
        ∃ id, (w.plan.stop id).fault? = some fault := by
  -- By induction on the nodes, for any world: each stop leaves the world that the next one begins in.
  induction nodes generalizing w with
  | nil => exact ⟨[], by rw [List.map_nil, afterStops_nil]; rfl, by simp⟩
  | cons node rest ih =>
    obtain ⟨outcome, hrun, hfault⟩ := run_killNode caller w node.containerId
    obtain ⟨finished, hrest, hfaults⟩ := ih (w.afterStops [node.containerId])
    refine ⟨⟨node, outcome⟩ :: finished, ?_, fun task htask => ?_⟩
    · rw [Manager.runAll, Program.run_bind, Program.run_attempt, hrun]
      dsimp only
      rw [Program.run_bind, hrest, afterStops_cons]
      rfl
    · rcases List.mem_cons.1 htask with rfl | htask
      · exact fun fault h => ⟨node.containerId, hfault fault h⟩
      · exact hfaults task htask

/-! ### Clusters -/

/-- Without a listing a kill fails as the listing did. -/
theorem run_kill_of_list_error (h : w.store.Readable w.format) {fault : Fault}
    (hlist : w.list = .error fault) (id : String) :
    (m.kill caller id).run answerQuietly w = (.error fault, w.noting .list) := by
  rw [Manager.kill, run_info_bind, Program.run_bind, run_cluster h, hlist]
  rfl

theorem run_kill_of_not_finds (h : w.store.Readable w.format) {listing : List Info}
    (hlist : w.list = .ok listing) {id : String} (hfinds : ¬Finds caller listing id) :
    (m.kill caller id).run answerQuietly w = (.error (.clusterNotFound id), w.noting .list) := by
  rw [Manager.kill, run_info_bind, Program.run_bind, run_cluster h, hlist]
  simp only [Except.bind, if_neg hfinds]

theorem run_kill_of_not_mayKill (h : w.store.Readable w.format) {listing : List Info}
    (hlist : w.list = .ok listing) {id : String} (hfinds : Finds caller listing id)
    (hmay : Manager.mayKill caller (w.clusterOf m listing id) = false) :
    (m.kill caller id).run answerQuietly w = (.error .forbidden, w.noting .list) := by
  rw [Manager.kill, run_info_bind, Program.run_bind, run_cluster h, hlist]
  simp only [Except.bind, if_pos hfinds, hmay]
  rfl

/-- A kill that may be done stops every node of the cluster once. Its fault is that of a stop. -/
theorem run_kill_of_mayKill (h : w.store.Readable w.format) {listing : List Info}
    (hlist : w.list = .ok listing) {id : String} (hfinds : Finds caller listing id)
    (hmay : Manager.mayKill caller (w.clusterOf m listing id) = true) :
    ∃ outcome ids, (m.kill caller id).run answerQuietly w =
      (outcome, (w.noting .list).afterStops ids) ∧
      ids.Perm ((Cluster.groupOf listing id).containers.map (·.id)) ∧
      ∀ fault, outcome = .error fault → ∃ id, (w.plan.stop id).fault? = some fault := by
  have hnodes : (w.clusterOf m listing id).nodes.map (·.containerId) =
      (Cluster.groupOf listing id).containers.map (·.id) := List.map_map
  -- The tasks are arranged in some order, in which every node comes once.
  have hperm := (arranged_perm (w.noting .list) s!"kill-{id}"
    (w.clusterOf m listing id).nodes).map (·.containerId)
  obtain ⟨finished, hrun, hfaults⟩ := run_stopNodes caller
    ((w.noting .list).arranged s!"kill-{id}" (w.clusterOf m listing id).nodes) (w.noting .list)
  -- They are told to be complete in another order, in which every task comes once as well.
  obtain ⟨told, hfanOut, htold⟩ : ∃ told : List (Finished Node),
      (Manager.fanOut s!"kill-{id}" Node.shown (fun node => Manager.killNode caller node.containerId)
        (w.clusterOf m listing id).nodes).run answerQuietly (w.noting .list) =
        (.ok (told.findSome? Finished.fault?), _) ∧ told.Perm finished :=
    ⟨_, run_fanOut _ _ hrun, completed_perm _ _ _⟩
  refine ⟨((Manager.failWith (told.findSome? Finished.fault?)).run answerQuietly w).1, _, ?_,
    hnodes ▸ hperm,
    fun fault hfault => ?_⟩
  · rw [Manager.kill, run_info_bind, Program.run_bind, run_cluster h, hlist]
    simp only [Except.bind, if_pos hfinds, if_pos hmay]
    rw [Program.run_bind, hfanOut]
    cases told.findSome? Finished.fault? <;> rfl
  · cases hfirst : told.findSome? Finished.fault? with
    | none =>
      rw [hfirst] at hfault
      cases hfault
    | some first =>
      rw [hfirst] at hfault
      cases hfault
      obtain ⟨task, htask, hfails⟩ := List.exists_of_findSome?_eq_some hfirst
      exact hfaults task (htold.mem_iff.1 htask) _ (Manager.Finished.outcome_of_fault? hfails)

end ClusterLease.World
