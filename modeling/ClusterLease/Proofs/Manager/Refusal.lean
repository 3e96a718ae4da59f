import ClusterLease.Proofs.Demand
import ClusterLease.Proofs.Manager.Operation
import ClusterLease.Proofs.Program.Refusal

/-!
What operations have done when they fail.

Runtimes and DNS services are expected to have failures of their own and no rejections
(`Expected`). Then an allocation is rejected before anything is altered, a refresh fails before
anything is altered, and a kill that has stopped something fails by a breakdown only, for a
container that is gone counts as stopped. A kill of all clusters is never rejected.
-/

namespace ClusterLease

/-- A breakdown: the failure of a runtime, or one that nothing foresees. -/
def Fault.IsBreakdown : Fault → Prop
  | .runtime _ => True
  | fault => fault.isForeseen = false

/-- What a runtime fails with: a breakdown, or a container that is not there. -/
def Fault.IsRuntime : Fault → Prop
  | .containerNotFound _ => True
  | fault => fault.IsBreakdown

/-- The request itself is at fault. -/
def Fault.IsRejection : Fault → Prop
  | .rejected _ => True
  | _ => False

/-- A mishap is a breakdown. -/
theorem Fault.isBreakdown_of_unforeseen {fault : Fault} (h : fault.isForeseen = false) :
    fault.IsBreakdown := by
  cases fault <;> trivial

/-- A runtime may break down. -/
theorem Fault.IsBreakdown.isRuntime {fault : Fault} (h : fault.IsBreakdown) : fault.IsRuntime := by
  cases fault <;> trivial

/-- No runtime rejects a request. -/
theorem Fault.IsRuntime.not_isRejection {fault : Fault} (h : fault.IsRuntime) : ¬fault.IsRejection := by
  cases fault with
  | rejected why => cases h
  | _ => exact fun hrejection => hrejection

theorem Fault.IsBreakdown.not_isRejection {fault : Fault} (h : fault.IsBreakdown) : ¬fault.IsRejection :=
  h.isRuntime.not_isRejection

namespace Manager

open Program (Fails)

/-- An answer with which surroundings are expected to come up. -/
def Expected : Event interface → Prop
  | ⟨.create _, .error fault⟩ | ⟨.start _, .error fault⟩ | ⟨.inspect _, .error fault⟩
  | ⟨.stop _, .error fault⟩ | ⟨.list, .error fault⟩ => fault.IsRuntime
  | ⟨.put _, .error (.other fault)⟩ => fault.isForeseen = false
  | _ => True

/-- A container was to be created, started or stopped, or a lease was changed. -/
def Alters : Event interface → Prop
  | ⟨.create _, _⟩ | ⟨.start _, _⟩ | ⟨.stop _, _⟩ => True
  | ⟨.keepLease .., .ok _⟩ | ⟨.changeLease .., .ok _⟩ => True
  | _ => False

/-- What goes wrong with runtimes and DNS services is of some kind, and so is what nothing foresees. -/
structure FailsAs (kind : Fault → Prop) (expected : Event interface → Prop) : Prop where
  create : ∀ spec fault, expected ⟨.create spec, .error fault⟩ → kind fault
  start : ∀ container fault, expected ⟨.start container, .error fault⟩ → kind fault
  inspect : ∀ container fault, expected ⟨.inspect container, .error fault⟩ → kind fault
  list : ∀ fault, expected ⟨.list, .error fault⟩ → kind fault
  put : ∀ request fault, expected ⟨.put request, .error (.other fault)⟩ → kind fault
  fetchLease : ∀ id fault, expected ⟨.fetchLease id, .error fault⟩ → fault.isForeseen = false → kind fault

/-- Expected answers fail as a runtime does. -/
theorem expected_failsAs : FailsAs Fault.IsRuntime Expected where
  create _ _ h := h
  start _ _ h := h
  inspect _ _ h := h
  list _ h := h
  put _ _ h := (Fault.isBreakdown_of_unforeseen h).isRuntime
  fetchLease _ _ _ h := (Fault.isBreakdown_of_unforeseen h).isRuntime

/-- Whatever only reads alters nothing. -/
theorem not_alters_of_reads (event : Event interface) (h : event.call.Reads) : ¬Alters event := by
  obtain ⟨call, reply⟩ := event
  cases call <;> first | exact h.elim | exact fun halters => halters

variable {α : Type} {m : Manager} {caller : Caller} {id : String} {expected : Event interface → Prop}
    {kind : Fault → Prop}

/-- To end well after every answer is to end well. -/
theorem ends_ask_bind {goal : Except Fault α → Prop} {call : Call} {f : interface.Reply call → ManagerM α}
    (h : ∀ reply, expected ⟨call, reply⟩ → (f reply).Ends expected goal) :
    (ask call >>= f).Ends expected goal := .ask h

/-- After an answer that alters something only what may come late may come. -/
theorem commits_ask_bind {alters : Event interface → Prop} {late : Except Fault α → Prop} {call : Call}
    {f : interface.Reply call → ManagerM α}
    (hlate : ∀ reply, expected ⟨call, reply⟩ → alters ⟨call, reply⟩ → (f reply).Ends expected late)
    (h : ∀ reply, expected ⟨call, reply⟩ → ¬alters ⟨call, reply⟩ → (f reply).Commits expected alters late) :
    (ask call >>= f).Commits expected alters late := .ask hlate h

/-- Writing to the log does not fail. -/
theorem ends_log_bind {goal : Except Fault α → Prop} {entry : Log.Entry} {f : Unit → ManagerM α}
    (h : (f ()).Ends expected goal) : (ask (.log entry) >>= f).Ends expected goal := .ask fun _ _ => h

/-- Nothing can go wrong with logging. -/
theorem ends_log {goal : Except Fault Unit → Prop} {entry : Log.Entry} (h : goal (.ok ())) :
    (ask (.log entry)).Ends expected goal := .ask fun _ _ => .done h

theorem commits_log_bind {late : Except Fault α → Prop} {entry : Log.Entry} {f : Unit → ManagerM α}
    (h : (f ()).Commits Expected Alters late) :
    (ask (.log entry) >>= f).Commits Expected Alters late := .ask (fun _ _ => False.elim) fun _ _ _ => h

/-! ### Reading -/

/-- Listing fails as the runtime does. -/
theorem ends_list (hkind : FailsAs kind expected) : list.Ends expected (Fails kind) := by
  refine ends_ask_bind fun reply hreply => Program.ends_ofExcept ?_
  cases reply with
  | ok listing => exact Program.fails_ok _ _
  | error fault => exact Program.fails_error.2 (hkind.list fault hreply)

/-- A lease that cannot be read fails the same way, unless it is none of those faults that are passed over. -/
theorem ends_leaseOf (hkind : FailsAs kind expected) (id : String) :
    (leaseOf id).Ends expected (Fails kind) := by
  refine ends_ask_bind fun reply hreply => ?_
  split
  · exact .done (Program.fails_ok _ _)
  · exact ends_log_bind (.done (Program.fails_ok _ _))
  · split
    · exact ends_log_bind (.done (Program.fails_ok _ _))
    · next hforeseen =>
      exact .done (Program.fails_error.2 (hkind.fetchLease _ _ hreply (Bool.eq_false_iff.2 hforeseen)))

/-- Showing clusters fails as reading one of their leases does. -/
theorem ends_describe (hkind : FailsAs kind expected) (groups : List Cluster.Group) :
    (m.describe groups).Ends expected (Fails kind) := by
  induction groups with
  | nil => exact .done (Program.fails_ok _ _)
  | cons group rest ih =>
    exact (ends_leaseOf hkind group.id).fails_bind fun _ => ih.fails_bind fun _ => .done (Program.fails_ok _ _)

/-- So does looking at all of them. -/
theorem ends_clusters (hkind : FailsAs kind expected) : (m.clusters caller).Ends expected (Fails kind) :=
  (ends_list hkind).fails_bind fun _ => ends_describe hkind _

/-- Looking for one may also find none. -/
theorem ends_cluster (hkind : FailsAs kind expected) (id : String) :
    (m.cluster caller id).Ends expected (Fails fun fault => kind fault ∨ fault = .clusterNotFound id) := by
  refine Program.Ends.fails_bind ((ends_clusters hkind).imp fun _ h => h.imp fun _ => Or.inl) fun clusters => ?_
  split
  · exact .done (Program.fails_ok _ _)
  · exact .done (Program.fails_error.2 (.inr rfl))

/-! ### Fan-outs -/

/-- A fan-out fails as its tasks do. -/
theorem ends_fanOut {label : String} {shown : α → String} {work : α → ManagerM Unit}
    {items : List α}
    (hwork : ∀ item ∈ items, (work item).Ends expected (Fails kind)) :
    (fanOut label shown work items).Ends expected fun o => ∃ fault?, o = .ok fault? ∧
      ∀ fault, fault? = some fault → kind fault := by
  let Done (o : Except Fault Unit) (now : List (Event interface)) : Prop :=
    (∀ event ∈ now, expected event) → Fails kind o
  have hsteady : Program.Steady Call.IsRoutine (fun _ _ => True) fun (_ : List (Event interface)) => True :=
    ⟨fun _ _ => trivial, fun _ _ => trivial⟩
  have htasks : ∀ item ∈ items, ∀ past, True →
      (work item).Upholds (fun _ _ => True) (fun o now => True ∧ Done o now) past :=
    fun item hitem past _ => ((hwork item hitem).upholds past).imp fun _ _ _ h => ⟨trivial, h⟩
  -- If all answers were expected in the end, they were so when the task was done.
  have hdone : ∀ outcome past now, past <:+ now → Done outcome past → Done outcome now :=
    fun _ _ _ hsuffix h hall => h fun event hevent => hall event (hsuffix.subset hevent)
  have hnone : ∀ event ∈ ([] : List (Event interface)), expected event := fun _ h => by cases h
  refine Program.ends_of_upholds ((upholds_fanOut Done hsteady htasks hdone trivial).imp ?_) hnone
  rintro _ now - ⟨-, fault?, rfl, hfault⟩ hall
  exact ⟨fault?, rfl, fun fault hsome => hfault fault hsome hall fault rfl⟩

/-- A fan-out whose tasks fail in one way goes on with none of their faults or with one of that kind. -/
theorem ends_fanOut_bind {β : Type} {label : String} {shown : α → String} {work : α → ManagerM Unit}
    {items : List α} {goal : Except Fault β → Prop} {f : Option Fault → ManagerM β}
    (hwork : ∀ item ∈ items, (work item).Ends expected (Fails kind))
    (hnone : (f none).Ends expected goal) (hsome : ∀ fault, kind fault → (f (some fault)).Ends expected goal) :
    (fanOut label shown work items >>= f).Ends expected goal := by
  refine (ends_fanOut hwork).bind ?_ ?_
  · rintro (_ | fault) ⟨_, ⟨⟩, hfault⟩
    · exact hnone
    · exact hsome fault (hfault fault rfl)
  · rintro _ ⟨_, hfalse, _⟩
    cases hfalse

theorem ends_fanOut_failWith {label : String} {shown : α → String} {work : α → ManagerM Unit}
    {items : List α}
    (hwork : ∀ item ∈ items, (work item).Ends expected (Fails kind)) :
    (fanOut label shown work items >>= failWith).Ends expected (Fails kind) :=
  ends_fanOut_bind hwork (.done (Program.fails_ok _ _)) fun _ h => .done (Program.fails_error.2 h)

/-! ### Killing -/

/-- A node that is gone counts as stopped, so that only breakdowns are left. -/
theorem ends_killNode (container : String) :
    (killNode caller container).Ends Expected (Fails Fault.IsBreakdown) := by
  refine ends_log_bind (ends_ask_bind fun reply hreply => ?_)
  split
  · exact .done (Program.fails_ok _ _)
  · exact ends_log (Program.fails_ok _ _)
  · next fault hother =>
    refine .done (Program.fails_error.2 ?_)
    cases fault with
    | containerNotFound other => exact absurd rfl (hother other)
    | _ => exact hreply

/-- No kill is rejected. -/
theorem ends_kill (id : String) : (m.kill caller id).Ends Expected (Fails fun fault => ¬fault.IsRejection) := by
  have hcluster : (m.cluster caller id).Ends Expected (Fails fun fault => ¬fault.IsRejection) := by
    refine (ends_cluster expected_failsAs id).imp fun _ h => h.imp ?_
    rintro fault (hruntime | rfl)
    · exact hruntime.not_isRejection
    · exact fun hrejection => hrejection
  refine ends_log_bind (hcluster.fails_bind fun cluster => ?_)
  split
  · refine ends_fanOut_failWith fun node _ => (ends_killNode node.containerId).imp ?_
    exact fun _ h => h.imp fun _ => Fault.IsBreakdown.not_isRejection
  · exact .done (Program.fails_error.2 fun h => h)

/-- A kill that has stopped something fails by a breakdown only. -/
theorem commits_kill (id : String) :
    (m.kill caller id).Commits Expected Alters (Fails Fault.IsBreakdown) := by
  refine commits_log_bind ?_
  refine (m.asks_cluster caller id).commits_bind not_alters_of_reads fun cluster => ?_
  split
  · exact (ends_fanOut_failWith fun node _ => ends_killNode node.containerId).commits
  · exact .done

/-- Nor is killing all. -/
theorem ends_killAll : (m.killAll caller).Ends Expected (Fails fun fault => ¬fault.IsRejection) := by
  have hclusters : (m.clusters caller).Ends Expected (Fails fun fault => ¬fault.IsRejection) :=
    (ends_clusters expected_failsAs).imp fun _ h => h.imp fun _ => Fault.IsRuntime.not_isRejection
  exact ends_log_bind <|
    hclusters.fails_bind fun clusters => ends_fanOut_failWith fun id _ => ends_kill id

/-! ### Refreshing -/

/-- Keeping a lease alters something if it succeeds. -/
theorem commits_keepLease (id : String) (lease : Lease) :
    (keepLease id lease).Commits Expected Alters fun o => o = .ok () := by
  refine commits_ask_bind (fun reply _ halters => ?_) fun _ _ _ => .done
  cases reply with
  | ok _ => exact .done rfl
  | error fault => exact halters.elim

/-- A refresh that has changed a lease succeeds. -/
theorem commits_refresh (id : String) (extension : Duration) :
    (m.refresh caller id extension).Commits Expected Alters fun o => ∃ lease, o = .ok lease := by
  refine commits_log_bind ?_
  refine (m.asks_cluster caller id).commits_bind not_alters_of_reads fun _ => ?_
  refine commits_ask_bind (fun _ _ => False.elim) fun now _ _ => ?_
  split
  · exact .done
  · refine commits_ask_bind (fun reply _ halters => ?_) fun reply _ _ => ?_
    · cases reply with
      | ok lease => exact .done ⟨lease, rfl⟩
      | error fault => exact halters.elim
    · split
      · exact .done
      · exact (commits_keepLease _ _).bind_ends (fun _ => .done ⟨_, rfl⟩) fun _ h => by cases h
      · exact .done

/-! ### Allocating -/

theorem ends_create (hkind : FailsAs kind expected) (spec : Container.Spec) :
    (create spec).Ends expected (Fails kind) :=
  ends_ask_bind fun _ hreply => .done fun fault hfault => by
    cases hfault
    exact hkind.create spec fault hreply

theorem ends_start (hkind : FailsAs kind expected) (container : String) :
    (start container).Ends expected (Fails kind) :=
  ends_ask_bind fun _ hreply => .done fun fault hfault => by
    cases hfault
    exact hkind.start container fault hreply

theorem ends_inspect (hkind : FailsAs kind expected) (container : String) :
    (inspect container).Ends expected (Fails kind) :=
  ends_ask_bind fun _ hreply => .done fun fault hfault => by
    cases hfault
    exact hkind.inspect container fault hreply

/-- A registration fails as such, or over something else that went wrong. -/
theorem fails_accepted (hostname : String) (ip : Value) {reply : Except Dns.PutError Dns.Response}
    (hreply : ∀ fault, reply = .error (.other fault) → kind fault) :
    Fails (fun fault => kind fault ∨
      ∃ host address reason body, fault = .registration host address reason body)
      (Dns.accepted hostname ip reply) := by
  unfold Dns.accepted
  split
  · split
    · exact Program.fails_ok _ _
    · exact Program.fails_error.2 (.inr ⟨_, _, _, _, rfl⟩)
  · exact Program.fails_error.2 (.inr ⟨_, _, _, _, rfl⟩)
  · exact Program.fails_error.2 (.inl (hreply _ rfl))

/-- An address that is not registered does no harm. -/
theorem ends_registerAddress (hkind : FailsAs kind expected) (registrar : Dns.Registrar)
    (hostname : String) (ip : Value) :
    (registerAddress registrar hostname ip).Ends expected (Fails kind) := by
  have hregister : ((registrar.register hostname ip).through answerRegistrar).Ends expected
      (Fails fun fault => kind fault ∨
        ∃ host address reason body, fault = .registration host address reason body) := by
    refine .ask fun _ _ => .ask fun reply hreply => .done (fails_accepted hostname ip fun fault h => ?_)
    subst h
    exact hkind.put _ fault hreply
  rw [registerAddress]
  split
  · refine hregister.attempt_bind fun outcome houtcome => ?_
    split
    · -- An error of the registration itself is only logged; every other one is passed on.
      exact .done (Program.fails_ok _ _)
    · exact ends_log (Program.fails_ok _ _)
    · next fault hother =>
      refine .done (Program.fails_error.2 ((Program.fails_error.1 houtcome).elim (fun h => h) ?_))
      rintro ⟨host, address, reason, body, rfl⟩
      exact absurd rfl (hother host address reason body)
  · exact .done (Program.fails_ok _ _)

/-- Registering fails as the service does. -/
theorem ends_registerNode (hkind : FailsAs kind expected) (containerName : String)
    (networks : Container.Networks) :
    (m.registerNode containerName networks).Ends expected (Fails kind) := by
  rw [registerNode]
  split
  · exact (ends_registerAddress hkind _ _ _).fails_bind fun _ => ends_registerAddress hkind _ _ _
  · exact .done (Program.fails_ok _ _)

/-- A node whose version is known is allocated, or its runtime fails. -/
theorem ends_allocateNode (hkind : FailsAs kind expected) (expiry : Moment) {node : NodeDemand}
    (hversion : node.version.isSome) :
    (m.allocateNode caller id expiry node).Ends expected (Fails kind) := by
  obtain ⟨version, hversion⟩ := Option.isSome_iff_exists.1 hversion
  have hresolved : node.resolvedVersion = .ok version := by rw [NodeDemand.resolvedVersion, hversion]
  refine ends_log_bind ?_
  rw [hresolved]
  refine ends_log_bind ((ends_create hkind _).fails_bind fun container => ?_)
  refine (ends_start hkind container).fails_bind fun _ => ?_
  refine (ends_inspect hkind container).fails_bind fun networks => ?_
  exact (ends_registerNode hkind _ _).fails_bind fun _ => .done (Program.fails_ok _ _)

/-- What goes wrong in a clean-up is not passed on. -/
theorem ends_cleanUp : (m.cleanUp caller id).Ends Expected fun o => o = .ok () := by
  have hkill : (m.kill caller id).Ends Expected fun _ => True := Program.ends_of_forall (fun _ => trivial) _
  refine hkill.attempt_bind fun outcome _ => ?_
  split
  · exact .done rfl
  · exact ends_log rfl
  · exact ends_log rfl

/-- An allocation that has altered something is not rejected any more. -/
theorem commits_allocate (wanted : ClusterDemand) :
    (m.allocate caller wanted).Commits Expected Alters (Fails fun fault => ¬fault.IsRejection) := by
  refine commits_log_bind (Program.commits_ofExcept_bind fun nodes hchecked => ?_)
  refine commits_ask_bind (fun _ _ => False.elim) fun fresh _ _ => ?_
  refine commits_ask_bind (fun _ _ => False.elim) fun now _ _ => ?_
  refine Program.commits_ofExcept_bind fun length _ => Program.commits_ofExcept_bind fun expiry _ => ?_
  -- From here on the lease is kept, and all that can go wrong is a node.
  have htask : ∀ node ∈ nodes, (do
      let _ ← m.allocateNode caller (String.ofList (fresh.toList.take idLength)) expiry node : ManagerM Unit).Ends
        Expected (Fails fun fault => ¬fault.IsRejection) := by
    intro node hnode
    have hversion := (ClusterDemand.checked_ok hchecked).versions node hnode
    refine Program.Ends.fails_bind ((ends_allocateNode expected_failsAs expiry hversion).imp fun _ h => ?_) fun _ => ?_
    · exact h.imp fun _ => Fault.IsRuntime.not_isRejection
    · exact .done (Program.fails_ok _ _)
  refine (commits_keepLease _ _).bind_ends (fun _ => ends_fanOut_bind htask ?_ fun fault hfault => ?_)
    fun _ h => by cases h
  · exact ends_log_bind (.done (Program.fails_ok _ _))
  · exact ends_cleanUp.bind (fun _ _ => .done (Program.fails_error.2 hfault)) fun _ h => by cases h

end Manager

end ClusterLease
