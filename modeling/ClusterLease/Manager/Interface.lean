import ClusterLease.Cluster
import ClusterLease.Dns
import ClusterLease.Lease.Store

/-!
What the management of clusters asks of its surroundings.

There are a clock, a source of fresh ids, a container runtime, a keeper of leases, a DNS service and a log.
Tasks that may run side by side run in some `Arrangement`, and their completion is told in some `Completion`.
The surroundings choose both: programs that are right for every answerer are right for every order of their
tasks, and for every order in which these are found complete.
-/

namespace ClusterLease.Manager

open Container (Info Networks Spec)

/-- An order in which a number of tasks run: every task is in it once. -/
structure Arrangement (count : Nat) where
  order : List Nat
  perm : order.Perm (List.range count)

namespace Arrangement

/-- The order in which the tasks are given. -/
def inOrder (count : Nat) : Arrangement count := ⟨List.range count, .refl _⟩

def reversed (count : Nat) : Arrangement count := ⟨(List.range count).reverse, List.reverse_perm _⟩

/-- The items of a list in the order of the tasks. -/
def apply {α : Type} {count : Nat} (arrangement : Arrangement count) (items : List α) : List α :=
  arrangement.order.filterMap fun index => items[index]?

end Arrangement

/-- The completion order of tasks, as it is told to whoever waits for them. Tasks that are complete before the
waiting begins are told first, in no particular order, and the others as they complete. -/
structure Completion (count : Nat) extends Arrangement count where
  /-- How many tasks are complete before the waiting begins. -/
  early : Nat
  asCompleted : order.drop early = (List.range count).drop early

/-- The completion order of tasks all of which are waited for. -/
def Completion.inOrder (count : Nat) : Completion count where
  toArrangement := .inOrder count
  early := 0
  asCompleted := rfl

/-- Questions to the surroundings. -/
inductive Call where
  | log (entry : Log.Entry)
  | now
  /-- A text that starts with an id that was never used. -/
  | freshId
  /-- The order of tasks with a common label. -/
  | arrange (label : String) (count : Nat)
  /-- The completion order of tasks with a common label, once they have run. -/
  | collect (label : String) (count : Nat)
  | create (spec : Spec)
  | start (container : String)
  | inspect (container : String)
  | stop (container : String)
  | list
  | put (request : Dns.PutRequest)
  | keepLease (id : String) (lease : Lease)
  | fetchLease (id : String)
  | changeLease (id : String) (change : Lease → Except Fault Lease)

/-- The interface of the surroundings. -/
abbrev interface : Interface where
  Call := Call
  Reply
    | .log _ => Unit
    | .now => Moment
    | .freshId => String
    | .arrange _ count => Arrangement count
    | .collect _ count => Completion count
    | .create _ => Except Fault String
    | .start _ => Except Fault Unit
    | .inspect _ => Except Fault Networks
    | .stop _ => Except Fault Unit
    | .list => Except Fault (List Info)
    | .put _ => Except Dns.PutError Dns.Response
    | .keepLease .. => Except Fault Unit
    | .fetchLease _ => Except Fault Lease
    | .changeLease .. => Except Fault Lease

end Manager

abbrev ManagerM := Program Manager.interface

namespace Manager

open Container (Info Networks Spec)

def ask (call : Call) : ManagerM (interface.Reply call) := Program.question (I := interface) call

/-- Creates a container and returns its id. -/
def create (spec : Spec) : ManagerM String := do Program.ofExcept (← ask (.create spec))

def start (container : String) : ManagerM Unit := do Program.ofExcept (← ask (.start container))

def inspect (container : String) : ManagerM Networks := do Program.ofExcept (← ask (.inspect container))

def list : ManagerM (List Info) := do Program.ofExcept (← ask .list)

def keepLease (id : String) (lease : Lease) : ManagerM Unit := do Program.ofExcept (← ask (.keepLease id lease))

def info (source : Log.Source) (text : String) : ManagerM Unit := ask (.log (Log.info source text))

def warning (source : Log.Source) (text : String) : ManagerM Unit := ask (.log (Log.warning source text))

def error (source : Log.Source) (text : String) : ManagerM Unit := ask (.log (Log.error source text))

end Manager

end ClusterLease
