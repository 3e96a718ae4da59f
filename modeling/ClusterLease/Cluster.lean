import ClusterLease.Container
import ClusterLease.Lease

/-!
Clusters as they are shown: the containers of a runtime grouped by the cluster they belong to.

Nothing is kept about a cluster but the labels of its containers and its lease. `Cluster.groups` sorts a
listing into groups with increasing ids; containers without a cluster are left out.
-/

namespace ClusterLease

open Container (Address Info)

/-- A node of a cluster, with its addresses on the network of the daemon. -/
structure Node where
  containerId : String
  state : String
  name : String
  serverVersion : String
  ipv4 : Value
  ipv6 : Value

namespace Node

/-- The node in a container. One without an address on the network is shown all the same. -/
def ofContainer (network : String) (container : Info) : Node :=
  let address := (container.networks.address? network).getD Address.none
  { containerId := container.id
    state := container.state
    name := container.labels.getD Container.nodeLabel
    serverVersion := container.labels.getD Container.versionLabel
    ipv4 := address.ipv4
    ipv6 := address.ipv6 }

def document (node : Node) : Value :=
  .map [(.text "id", .text node.containerId), (.text "state", .text node.state), (.text "name", .text node.name),
    (.text "initial_server_version", .text node.serverVersion), (.text "ipv4_address", node.ipv4),
    (.text "ipv6_address", node.ipv6)]

/-- A node as the log shows it. -/
def shown (node : Node) : String :=
  s!"Node(container_id={Text.quoted node.containerId}, state={Text.quoted node.state}, " ++
    s!"name={Text.quoted node.name}, initial_server_version={Text.quoted node.serverVersion}, " ++
    s!"ipv4_address={node.ipv4.shown}, ipv6_address={node.ipv6.shown})"

end Node

/-- A cluster with its nodes. Without a lease it has an empty owner and no expiry. -/
structure Cluster where
  id : String
  creator : String
  owner : Value
  expiry : Value
  nodes : List Node

namespace Cluster

/-- The containers of one cluster, in the order in which they are listed. -/
structure Group where
  id : String
  containers : List Info

/-- The cluster of a container, if it has one. -/
def idOf? (container : Info) : Option String :=
  match container.labels.get? Container.clusterLabel with
  | none | some "" => none
  | some id => some id

/-- The clusters of a listing, each once, in increasing order. -/
def ids (listing : List Info) : List String := (listing.filterMap idOf?).eraseDups.mergeSort

/-- The containers of a listing by cluster. -/
def groups (listing : List Info) : List Group :=
  (ids listing).map fun id => ⟨id, listing.filter fun container => idOf? container == some id⟩

/-- The creator of containers of which none names one. -/
def unknownCreator : String := "unknown"

/-- The creator of a group: the first one that a container names. -/
def Group.creator (group : Group) : String :=
  -- Containers of one cluster have one creator unless someone else relabelled them.
  let named := group.containers.find? fun container => container.labels.getD Container.creatorLabel ≠ ""
  match named with
  | some container => container.labels.getD Container.creatorLabel
  | none => unknownCreator

/-- The cluster of a group with a lease, or without one. -/
def ofGroup (network : String) (group : Group) (lease : Option Lease) : Cluster where
  id := group.id
  creator := group.creator
  owner := match lease with
    | some lease => lease.owner
    | none => .text ""
  expiry := match lease with
    | some lease => lease.expiry
    | none => .null
  nodes := group.containers.map (Node.ofContainer network)

/-- The text of an expiry, or null if there is none. -/
def shownExpiry (expiry : Value) : Except Fault Value :=
  if expiry.isTruthy then (Lease.expiryText expiry).map .text else .ok .null

def document (cluster : Cluster) : Except Fault Value :=
  (shownExpiry cluster.expiry).map fun expiry =>
    .map [(.text "id", .text cluster.id), (.text "creator", .text cluster.creator), (.text "owner", cluster.owner),
      (.text "timeout", expiry), (.text "nodes", .list (cluster.nodes.map Node.document))]

end Cluster

end ClusterLease
