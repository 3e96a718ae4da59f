import ClusterLease.Table
import ClusterLease.Value

/-!
Containers as the daemon sees them: what it asks a runtime to create, and what a runtime reports.

Labels tie a container to its cluster, its creator, its node name and the server version first put on it.
-/

namespace ClusterLease

abbrev Labels := Table String

/-- The text under a key, empty if there is none. -/
def Labels.getD (labels : Labels) (key : String) : String := (labels.get? key).getD ""

namespace Container

/-- The label that holds the user who asked for the container. -/
def creatorLabel : String := "com.couchbase.dyncluster.creator"

def clusterLabel : String := "com.couchbase.dyncluster.cluster_id"

/-- The label that holds the node name. -/
def nodeLabel : String := "com.couchbase.dyncluster.node_name"

/-- The label that holds the version text that was asked for. -/
def versionLabel : String := "com.couchbase.dyncluster.initial_server_version"

/-- The file that tells a container the local time zone. -/
def localTimePath : String := "/etc/localtime"

/-- What a runtime is asked to create. -/
structure Spec where
  name : String
  image : String
  network : String
  labels : Labels
  /-- Host paths and the paths inside the container at which they appear, for reading only. -/
  binds : Labels := [(localTimePath, localTimePath)]
  dnsServers : List String := []
  autoRemove : Bool := true
  deriving DecidableEq, Repr

/-- The addresses of a container on one network. What a runtime reports need not be a text. -/
structure Address where
  ipv4 : Value
  ipv6 : Value

def Address.none : Address := ⟨.text "", .text ""⟩

/-- Addresses by the name of the network. A network may be listed without any. -/
abbrev Networks := Table (Option Address)

/-- The addresses on a network, if the network is listed and has some. -/
def Networks.address? (networks : Networks) (network : String) : Option Address := (networks.get? network).join

/-- What a runtime lists. -/
structure Info where
  id : String
  state : String
  labels : Labels
  networks : Networks

/-- The name of the container of a node. -/
def nameFor (clusterId nodeName : String) : String := s!"dynclsr-{clusterId}-{nodeName}"

end Container

end ClusterLease
