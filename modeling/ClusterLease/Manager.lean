import ClusterLease.Config
import ClusterLease.Demand
import ClusterLease.Manager.FanOut

/-!
Managing clusters: listing, allocating, refreshing and killing them.

A cluster is what the labels of its containers say, together with its lease; both are read anew for every
operation. Allocating a cluster puts its lease down before the first node is created, and kills the cluster
if a node fails. Only its owner may kill a cluster, and only its creator sees it; callers without regard for
ownership may do both.
-/

namespace ClusterLease

open Container (Networks Spec)

/-- The settings of the management of clusters, and the DNS service if there is one. -/
structure Manager where
  config : Config
  registrar : Option Dns.Registrar

namespace Manager

/-! ### Nodes -/

/-- The labels of the container of a node. -/
def nodeLabels (caller : Caller) (clusterId : String) (node : NodeDemand) : Labels :=
  [(Container.creatorLabel, caller.user), (Container.clusterLabel, clusterId), (Container.nodeLabel, node.name),
    (Container.versionLabel, node.serverVersion)]

def nodeSpec (m : Manager) (caller : Caller) (clusterId : String) (node : NodeDemand) (version : Version) : Spec :=
  { name := Container.nameFor clusterId node.name
    image := version.image m.config.registry
    network := m.config.networkName
    labels := nodeLabels caller clusterId node
    dnsServers := m.config.dnsServers }

/-- Questions of the registrar, asked of the surroundings of the manager. -/
def answerRegistrar : (call : Dns.interface.Call) → ManagerM (Dns.interface.Reply call)
  | .log entry => ask (.log entry)
  | .put request => ask (.put request)

/-- A text without the blanks at its end. -/
def trimmedRight (s : String) : String := String.ofList (Text.trimRight Text.isBlank s.toList)

/-- Registers one address, if it is not empty. A service that refuses it does no harm. -/
def registerAddress (registrar : Dns.Registrar) (hostname : String) (ip : Value) : ManagerM Unit := do
  if ip.isTruthy then
    match ← ((registrar.register hostname ip).through answerRegistrar).attempt with
    | .ok _ => pure ()
    | .error (.registration host address reason body) =>
      let fault := Fault.registration host address reason body
      warning .nodes (trimmedRight s!"{fault.message} {body}")
    | .error fault => Program.fail fault

/-- Registers the addresses of a new node, the one of version 4 first. -/
def registerNode (m : Manager) (containerName : String) (networks : Networks) : ManagerM Unit :=
  match m.registrar, networks.address? m.config.networkName with
  | some registrar, some address => do
    let hostname := s!"{containerName}.{m.config.dnsDomainSuffix}"
    registerAddress registrar hostname address.ipv4
    registerAddress registrar hostname address.ipv6
  | _, _ => pure ()

/-- Creates and starts a node and returns its container. If the start fails the container stays. -/
def allocateNode (m : Manager) (caller : Caller) (clusterId : String) (expiry : Moment) (node : NodeDemand) :
    ManagerM String := do
  info .nodes (s!"Allocating node {node.name} for cluster {clusterId} " ++
    s!"(requested by: {caller.user}, expires: {expiry.isoText})")
  let version ← Program.ofExcept node.resolvedVersion
  let url := version.url m.config.releaseUrl m.config.buildUrl
  info .nodes s!"Node {node.name} runs server {node.serverVersion} from {url}"
  let spec := m.nodeSpec caller clusterId node version
  let container ← create spec
  start container
  let networks ← inspect container
  m.registerNode spec.name networks
  return container

/-- Stops the container of a node. One that is gone already counts as stopped. -/
def killNode (caller : Caller) (container : String) : ManagerM Unit := do
  info .nodes s!"Killing node {container} (requested by: {caller.user})"
  match ← ask (.stop container) with
  | .ok () => pure ()
  | .error (.containerNotFound _) => warning .nodes s!"Node {container} already removed"
  | .error fault => Program.fail fault

/-! ### Reading -/

/-- The lease of a cluster, or none if there is none or it cannot be read. -/
def leaseOf (id : String) : ManagerM (Option Lease) := do
  match ← ask (.fetchLease id) with
  | .ok lease => return some lease
  | .error (.metaNotFound _) =>
    warning .clusters s!"Encountered unregistered cluster: {id}"
    return none
  | .error fault =>
    if fault.isForeseen then
      warning .clusters s!"Failed to read metadata for cluster {id}: {fault.message}"
      return none
    else Program.fail fault

/-- Whether a caller sees a group of containers. -/
def sees (caller : Caller) (group : Cluster.Group) : Bool := caller.ignoresOwnership || group.creator == caller.user

/-- The clusters of groups, one after another. -/
def describe (m : Manager) : List Cluster.Group → ManagerM (List Cluster)
  | [] => pure []
  | group :: rest => do
    let lease ← leaseOf group.id
    let others ← describe m rest
    return Cluster.ofGroup m.config.networkName group lease :: others

def clusters (m : Manager) (caller : Caller) : ManagerM (List Cluster) := do
  let listing ← list
  m.describe ((Cluster.groups listing).filter (sees caller))

/-- One of the clusters that a caller sees. -/
def cluster (m : Manager) (caller : Caller) (id : String) : ManagerM Cluster := do
  match (← m.clusters caller).find? fun cluster => cluster.id == id with
  | some cluster => return cluster
  | none => Program.fail (.clusterNotFound id)

/-! ### Killing -/

/-- Whether a caller may kill a cluster. -/
def mayKill (caller : Caller) (cluster : Cluster) : Bool :=
  caller.ignoresOwnership || cluster.owner.text? == some caller.user

def kill (m : Manager) (caller : Caller) (id : String) : ManagerM Unit := do
  info .clusters s!"Killing cluster {id} (requested by: {caller.user})"
  let cluster ← m.cluster caller id
  if mayKill caller cluster then
    failWith (← fanOut s!"kill-{id}" Node.shown (fun node => killNode caller node.containerId) cluster.nodes)
  else Program.fail .forbidden

/-- Kills every cluster that a caller sees. -/
def killAll (m : Manager) (caller : Caller) : ManagerM Unit := do
  info .clusters s!"Killing all clusters (requested by: {caller.user})"
  let clusters ← m.clusters caller
  failWith (← fanOut "kill-all" id (m.kill caller) (clusters.map (·.id)))

/-! ### Allocating and refreshing -/

/-- The number of characters of a cluster id. -/
def idLength : Nat := 8

/-- A moment after another, or a failure if it is out of range. -/
def laterBy (m : Moment) (d : Duration) : Except Fault Moment :=
  Fault.orMishap .overflow (m.add? d)

def limits (m : Manager) : ClusterDemand.Limits := ⟨m.config.maxLease, m.config.maxNodes⟩

/-- Kills a cluster of which a node failed. What goes wrong here is only logged. -/
def cleanUp (m : Manager) (caller : Caller) (id : String) : ManagerM Unit := do
  match ← (m.kill caller id).attempt with
  | .ok () => pure ()
  | .error (.clusterNotFound _) => info .clusters s!"No containers of cluster {id} to clean up"
  | .error fault =>
    error .clusters s!"Failed to clean up cluster {id} after allocation error: {fault.message}"

/-- Allocates a cluster with all of its nodes and returns its id. -/
def allocate (m : Manager) (caller : Caller) (wanted : ClusterDemand) : ManagerM String := do
  info .clusters s!"Allocating cluster (requested by: {caller.user})"
  let nodes ← Program.ofExcept (wanted.checked m.limits)
  let fresh ← ask .freshId
  let id := String.ofList (fresh.toList.take idLength)
  -- The lease comes before the first container, so that no container is ever without one.
  let now ← ask .now
  let length ← Program.ofExcept m.config.defaultLease
  let expiry ← Program.ofExcept (laterBy now length)
  keepLease id (Lease.ofUser caller.user expiry)
  let work (node : NodeDemand) : ManagerM Unit := do let _ ← m.allocateNode caller id expiry node
  match ← fanOut s!"allocate-{id}" NodeDemand.shown work nodes with
  | some fault =>
    m.cleanUp caller id
    Program.fail fault
  | none =>
    info .clusters s!"Allocated cluster {id} with {nodes.length} nodes"
    return id

/-- Takes over a cluster and makes its lease longer; its end never comes earlier. -/
def refresh (m : Manager) (caller : Caller) (id : String) (extension : Duration) : ManagerM Lease := do
  info .clusters s!"Refreshing cluster {id} (requested by: {caller.user})"
  let _ ← m.cluster caller id
  let now ← ask .now
  match now.add? extension with
  | none => Program.fail (.rejected (.extensionOutOfRange extension))
  | some expiry =>
    match ← ask (.changeLease id fun lease => lease.extended caller.user expiry) with
    | .ok lease => return lease
    -- The containers are there but no lease is, as after a restart of a daemon that keeps leases in memory.
    | .error (.metaNotFound _) =>
      let lease := Lease.ofUser caller.user expiry
      keepLease id lease
      return lease
    | .error fault => Program.fail fault

end Manager

end ClusterLease
