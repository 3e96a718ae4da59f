import ClusterLease.Manager.Interface
import ClusterLease.Text.Hex

/-!
A world to manage clusters in: a table of containers, a keeper of leases, a clock, a source of ids, and a
plan of what goes wrong.

`World.answer` answers every question of the management of clusters, so that its programs can be run from
any world under any plan. A world also remembers what was asked of its runtime and its DNS service, and what
was logged.
-/

namespace ClusterLease

open Container (Info Networks Spec)

namespace World

/-- A container of the table, and the networks that it gets when it is started. -/
structure Held where
  info : Info
  whenStarted : Networks

/-- What becomes of a stop. -/
inductive StopPlan where
  | works
  | fails (fault : Fault)
  /-- The container is removed, and then something goes wrong. -/
  | failsAfter (fault : Fault)

/-- What goes wrong in a world, and what its runtime and its DNS service answer otherwise. -/
structure Plan where
  create : Spec → Option Fault
  start : Info → Option Fault
  inspect : Info → Option Fault
  stop : String → StopPlan
  list : Option Fault
  /-- The id of the container that is created next, and the networks that it gets when it is started. -/
  made : (number : Nat) → String × Networks
  /-- What an inspection finds, in place of the networks of the container. -/
  found : Option Networks
  dns : Dns.PutRequest → Except Dns.PutError Dns.Response
  /-- The order of tasks. -/
  arrange : (label : String) → (count : Nat) → Manager.Arrangement count
  /-- The completion order of tasks. -/
  collect : (label : String) → (count : Nat) → Manager.Completion count := fun _ count => .inOrder count
  /-- The texts that ids are made from. -/
  ids : (number : Nat) → String

end World

/-- A world. -/
structure World where
  plan : World.Plan
  format : Format
  containers : List World.Held
  /-- The number of containers created so far, and of ids given out. -/
  created : Nat
  issued : Nat
  store : Store
  now : Moment
  calls : List Manager.Call
  logs : List Log.Entry

namespace World

def noting (w : World) (call : Manager.Call) : World := { w with calls := w.calls ++ [call] }

def logging (w : World) (entries : List Log.Entry) : World := { w with logs := w.logs ++ entries }

def held? (w : World) (id : String) : Option Held := w.containers.find? fun held => held.info.id == id

/-- Adds a container at the end, or in place of the one with its id. -/
def putContainer (w : World) (held : Held) : World :=
  let rec put : List Held → List Held
    | [] => [held]
    | other :: rest => if other.info.id = held.info.id then held :: rest else other :: put rest
  { w with containers := put w.containers }

/-- Removes a container, as if it went away by itself. -/
def removeContainer (w : World) (id : String) : World :=
  { w with containers := w.containers.filter fun held => held.info.id ≠ id }

def create (w : World) (spec : Spec) : Except Fault String × World :=
  match w.plan.create spec with
  | some fault => (.error fault, w)
  | none =>
    let (id, networks) := w.plan.made (w.created + 1)
    let held : Held := ⟨⟨id, "created", spec.labels, []⟩, networks⟩
    (.ok id, { w.putContainer held with created := w.created + 1 })

def start (w : World) (id : String) : Except Fault Unit × World :=
  match w.held? id with
  | none => (.error (.containerNotFound id), w)
  | some held =>
    match w.plan.start held.info with
    | some fault => (.error fault, w)
    | none =>
      (.ok (), w.putContainer { held with info := { held.info with state := "running", networks := held.whenStarted } })

def inspect (w : World) (id : String) : Except Fault Networks :=
  match w.held? id with
  | none => .error (.containerNotFound id)
  | some held =>
    match w.plan.inspect held.info with
    | some fault => .error fault
    | none => .ok (w.plan.found.getD held.info.networks)

/-- Stops a container, which removes it. -/
def stop (w : World) (id : String) : Except Fault Unit × World :=
  match w.plan.stop id with
  | .fails fault => (.error fault, w)
  | .works => if (w.held? id).isSome then (.ok (), w.removeContainer id) else (.error (.containerNotFound id), w)
  | .failsAfter fault =>
    if (w.held? id).isSome then (.error fault, w.removeContainer id) else (.error (.containerNotFound id), w)

def list (w : World) : Except Fault (List Info) :=
  match w.plan.list with
  | some fault => .error fault
  | none => .ok (w.containers.map (·.info))

/-- The world after an operation on its store, and the answer of the store. -/
def withStore {α : Type} (w : World) (operation : Store → Store.Result α) : Except Fault α × World :=
  let result := operation w.store
  (result.answer, { w.logging result.logs with store := result.store })

/-- The clock, in universal time. -/
def clock (w : World) : Moment := w.now.toUtc?.getD w.now

def answer : Answerer Manager.interface World
  | .log entry, w => ((), w.logging [entry])
  | .now, w => (w.clock, w)
  | .freshId, w => (w.plan.ids (w.issued + 1), { w with issued := w.issued + 1 })
  | .arrange label count, w => (w.plan.arrange label count, w)
  | .collect label count, w => (w.plan.collect label count, w)
  | .create spec, w => (w.noting (.create spec)).create spec
  | .start id, w => (w.noting (.start id)).start id
  | .inspect id, w => ((w.inspect id), w.noting (.inspect id))
  | .stop id, w => (w.noting (.stop id)).stop id
  | .list, w => (w.list, w.noting .list)
  | .put request, w => (w.plan.dns request, w.noting (.put request))
  | .keepLease id lease, w => w.withStore fun store => store.create w.format id lease
  | .fetchLease id, w => w.withStore fun store => store.fetch w.format id
  | .changeLease id change, w => w.withStore fun store => store.update w.format id change

end World

end ClusterLease
