import ClusterLease.Manager
import ClusterLease.Proofs.Manager.FanOut

/-!
The operations of the management of clusters, and the kinds of questions that each of them asks.

Showing clusters only reads. Killing reads and stops. Refreshing reads and changes leases, but
touches no container. Only an allocation may ask anything.
-/

namespace ClusterLease.Manager

/-- What callers can ask of the management of clusters. -/
inductive Operation where
  | clusters
  | cluster (id : String)
  | allocate (wanted : ClusterDemand)
  | refresh (id : String) (extension : Duration)
  | kill (id : String)
  | killAll

/-- What an operation is for. -/
abbrev Operation.Result : Operation → Type
  | .clusters => List Cluster
  | .cluster _ => Cluster
  | .allocate _ => String
  | .refresh .. => Lease
  | .kill _ => Unit
  | .killAll => Unit

/-- What a manager does for it. -/
def Operation.program (m : Manager) (caller : Caller) :
    (operation : Operation) → ManagerM operation.Result
  | .clusters => m.clusters caller
  | .cluster id => m.cluster caller id
  | .allocate wanted => m.allocate caller wanted
  | .refresh id extension => m.refresh caller id extension
  | .kill id => m.kill caller id
  | .killAll => m.killAll caller

/-! ### Kinds of questions -/

/-- The question changes nothing but the log. -/
def Call.Reads : Call → Prop
  | .log _ | .list | .fetchLease _ => True
  | _ => False

/-- The question looks up a lease, or writes to the log. -/
def Call.LooksUp : Call → Prop
  | .log _ | .fetchLease _ => True
  | _ => False

/-- The question creates no container and changes no lease. -/
def Call.Kills : Call → Prop
  | .log _ | .list | .fetchLease _ | .arrange .. | .collect .. | .stop _ => True
  | _ => False

/-- The question is one of the registration of addresses. -/
def Call.Registers : Call → Prop
  | .log _ | .put _ => True
  | _ => False

/-- The question is one of the allocation of a node whose container gets some labels. -/
def Call.Allocates (labels : Labels) : Call → Prop
  | .create spec => spec.labels = labels
  | .log _ | .put _ | .start _ | .inspect _ => True
  | _ => False

/-- The question is one of the allocation of a node that has its container already. -/
def Call.Furnishes : Call → Prop
  | .log _ | .put _ | .start _ | .inspect _ => True
  | _ => False

/-- The question changes no container. -/
def Call.SparesContainers : Call → Prop
  | .create _ | .start _ | .stop _ => False
  | _ => True

/-- The question needs no container to be there. -/
def Call.IsOpen : Call → Prop
  | .start _ | .inspect _ => False
  | _ => True

/-- The question puts down a new lease. -/
def Call.KeepsLease : Call → Prop
  | .keepLease .. => True
  | _ => False

theorem Call.LooksUp.reads {call : Call} (h : call.LooksUp) : call.Reads := by
  cases call <;> trivial

/-- Whatever only reads may be asked on the way to a kill. -/
theorem Call.Reads.kills {call : Call} (h : call.Reads) : call.Kills := by
  cases call <;> trivial

/-- Reading spares containers. -/
theorem Call.Reads.sparesContainers {call : Call} (h : call.Reads) : call.SparesContainers := by
  cases call <;> trivial

theorem Call.Reads.not_keepsLease {call : Call} (h : call.Reads) : ¬call.KeepsLease := by
  cases call with
  | keepLease id lease => exact h.elim
  | _ => exact fun hkeeps => hkeeps

/-- A kill asks nothing about leases to come. -/
theorem Call.Kills.isOpen {call : Call} (h : call.Kills) : call.IsOpen := by
  cases call <;> trivial

theorem Call.Registers.isOpen {call : Call} (h : call.Registers) : call.IsOpen := by
  cases call <;> trivial

theorem Call.Registers.furnishes {call : Call} (h : call.Registers) : call.Furnishes := by
  cases call <;> trivial

/-- What it takes to furnish a node is asked for an allocation. -/
theorem Call.Furnishes.allocates {call : Call} {labels : Labels} (h : call.Furnishes) :
    call.Allocates labels := by
  cases call <;> trivial

theorem Call.IsRoutine.sparesContainers {call : Call} (h : call.IsRoutine) :
    call.SparesContainers := by
  cases call <;> trivial

/-- Routine questions may be asked on the way to anything. -/
theorem Call.IsRoutine.kills {call : Call} (h : call.IsRoutine) : call.Kills := by
  cases call <;> trivial

/-! ### What operations ask -/

variable (m : Manager) (caller : Caller)

/-- Listing only reads. -/
theorem asks_list : list.Asks Call.Reads :=
  (asks_ask trivial).bind fun _ => Program.asks_ofExcept _ _

theorem asks_leaseOf (id : String) : (leaseOf id).Asks Call.LooksUp := by
  refine (asks_ask trivial).bind fun reply => ?_
  have hlog (source : Log.Source) (text : String) : (warning source text).Asks Call.LooksUp :=
    asks_ask trivial
  split
  · exact Program.asks_pure _ _
  · exact (hlog _ _).bind fun _ => Program.asks_pure _ _
  · split
    · exact (hlog _ _).bind fun _ => Program.asks_pure _ _
    · exact Program.asks_fail _ _

theorem asks_describe (groups : List Cluster.Group) : (m.describe groups).Asks Call.LooksUp := by
  induction groups with
  | nil => exact Program.asks_pure _ _
  | cons group rest ih =>
    refine (asks_leaseOf group.id).bind fun lease => ?_
    exact ih.bind fun others => Program.asks_pure _ _

/-- To look at clusters is to list containers and to look up leases. -/
theorem asks_clusters : (m.clusters caller).Asks Call.Reads :=
  asks_list.bind fun _ => (m.asks_describe _).mono fun _ => Call.LooksUp.reads

theorem asks_cluster (id : String) : (m.cluster caller id).Asks Call.Reads := by
  refine (m.asks_clusters caller).bind fun clusters => ?_
  split
  · exact Program.asks_pure _ _
  · exact Program.asks_fail _ _

/-- To kill a node is to stop it, and to log that. -/
theorem asks_killNode (container : String) : (killNode caller container).Asks Call.Kills := by
  refine (asks_ask trivial).bind fun _ => (asks_ask trivial).bind fun reply => ?_
  split
  · exact Program.asks_pure _ _
  · exact asks_ask trivial
  · exact Program.asks_fail _ _

/-- A kill looks first and then stops nodes. -/
theorem asks_kill (id : String) : (m.kill caller id).Asks Call.Kills := by
  refine (asks_ask trivial).bind fun _ => ?_
  refine ((m.asks_cluster caller id).mono fun _ => Call.Reads.kills).bind fun cluster => ?_
  split
  · refine (asks_fanOut (fun _ => Call.IsRoutine.kills) fun node => ?_).bind fun fault? =>
      asks_failWith fault?
    exact asks_killNode caller node.containerId
  · exact Program.asks_fail _ _

/-- Killing all is killing one after another. -/
theorem asks_killAll : (m.killAll caller).Asks Call.Kills := by
  refine (asks_ask trivial).bind fun _ => ?_
  refine ((m.asks_clusters caller).mono fun _ => Call.Reads.kills).bind fun clusters => ?_
  exact (asks_fanOut (fun _ => Call.IsRoutine.kills) (m.asks_kill caller)).bind fun fault? =>
    asks_failWith fault?

/-- Registering the addresses of a node asks the DNS service and writes to the log. -/
theorem asks_registerNode (containerName : String) (networks : Container.Networks) :
    (m.registerNode containerName networks).Asks Call.Registers := by
  have haddress (registrar : Dns.Registrar) (hostname : String) (ip : Value) :
      (registerAddress registrar hostname ip).Asks Call.Registers := by
    rw [registerAddress]
    split
    · -- The questions of the registrar are passed on one by one.
      have hthrough :
          ((registrar.register hostname ip).through answerRegistrar).Asks Call.Registers := by
        refine Program.asks_through (fun call => ?_) _
        cases call with
        | log entry => exact asks_ask trivial
        | put request => exact asks_ask trivial
      refine hthrough.attempt.bind fun outcome => ?_
      split
      · exact Program.asks_pure _ _
      · exact asks_ask trivial
      · exact Program.asks_fail _ _
    · exact Program.asks_pure _ _
  rw [registerNode]
  split
  · exact (haddress _ _ _).bind fun _ => haddress _ _ _
  · exact Program.asks_pure _ _

/-- What is asked of a node once its container is there. -/
theorem asks_furnish (container name : String) : (do
    start container
    let networks ← inspect container
    m.registerNode name networks
    return container : ManagerM String).Asks Call.Furnishes := by
  refine ((asks_ask trivial).bind fun _ => Program.asks_ofExcept _ _).bind fun _ => ?_
  refine ((asks_ask trivial).bind fun _ => Program.asks_ofExcept _ _).bind fun networks => ?_
  exact ((m.asks_registerNode _ _).mono fun _ => Call.Registers.furnishes).bind fun _ =>
    Program.asks_pure _ _

/-- Containers are created for a node with the labels of it and no others. -/
theorem asks_allocateNode (id : String) (expiry : Moment) (node : NodeDemand) :
    (m.allocateNode caller id expiry node).Asks (Call.Allocates (nodeLabels caller id node)) := by
  refine (asks_ask trivial).bind fun _ => (Program.asks_ofExcept _ _).bind fun version => ?_
  refine (asks_ask trivial).bind fun _ => ?_
  have hlabels : Call.Allocates (nodeLabels caller id node)
      (.create (m.nodeSpec caller id node version)) := rfl
  have hcreate : (create (m.nodeSpec caller id node version)).Asks
      (Call.Allocates (nodeLabels caller id node)) :=
    (asks_ask hlabels).bind fun _ => Program.asks_ofExcept _ _
  exact hcreate.bind fun container => (m.asks_furnish container _).mono fun _ =>
    Call.Furnishes.allocates

theorem asks_keepLease (id : String) (lease : Lease) :
    (keepLease id lease).Asks Call.SparesContainers :=
  (asks_ask trivial).bind fun _ => Program.asks_ofExcept _ _

/-- A refresh touches leases and no container. -/
theorem asks_refresh (id : String) (extension : Duration) :
    (m.refresh caller id extension).Asks Call.SparesContainers := by
  refine (asks_ask trivial).bind fun _ => ?_
  refine ((m.asks_cluster caller id).mono fun _ => Call.Reads.sparesContainers).bind fun _ => ?_
  refine (asks_ask trivial).bind fun now => ?_
  split
  · exact Program.asks_fail _ _
  · refine (asks_ask trivial).bind fun reply => ?_
    split
    · exact Program.asks_pure _ _
    · exact (asks_keepLease _ _).bind fun _ => Program.asks_pure _ _
    · exact Program.asks_fail _ _

/-- What is left of a failed allocation is killed, and nothing else is done. -/
theorem asks_cleanUp (id : String) : (m.cleanUp caller id).Asks Call.Kills := by
  refine (m.asks_kill caller id).attempt.bind fun outcome => ?_
  split
  · exact Program.asks_pure _ _
  · exact asks_ask trivial
  · exact asks_ask trivial

end ClusterLease.Manager
