import ClusterLease.Container
import ClusterLease.Fault
import ClusterLease.Text.HostName
import ClusterLease.Text.LetterCase
import ClusterLease.Version

/-!
What callers ask for, and which demands are met.

A caller asks for a cluster of nodes for some time. `ClusterDemand.checked` gives every node a name and a
resolved version, or refuses the demand: first for its timeout, then for the number of its nodes, then for
the first node whose host name is taken or whose version is not known.
-/

namespace ClusterLease

/-- Who calls. A caller without regard for ownership sees and kills the clusters of others. -/
structure Caller where
  user : String
  ignoresOwnership : Bool
  deriving DecidableEq, Repr

/-- A node that is asked for. -/
structure NodeDemand where
  name : String
  platform : String
  serverVersion : String
  version : Option Version
  deriving DecidableEq, Repr

namespace NodeDemand

/-- The platform of nodes for which none is named. -/
def defaultPlatform : String := "centos7"

/-- A node without a name is named by its place, which counts from one. -/
def named (demand : NodeDemand) (index : Nat) : NodeDemand :=
  if demand.name = "" then { demand with name := s!"node_{index + 1}" } else demand

/-- The host name of a node: host names know neither case nor special characters. -/
def hostName (demand : NodeDemand) : String :=
  String.ofList (Text.hyphenate Text.isAlphanumeric (Text.lower demand.name).toList)

/-- The version of a node, which is resolved if it is not known yet. -/
def resolvedVersion (demand : NodeDemand) : Except Fault Version :=
  match demand.version with
  | some version => .ok version
  | none => Version.resolve demand.serverVersion

/-- A version as the log shows it. -/
def shownVersion : Option Version → String
  | none => "None"
  | some v =>
    s!"NodeVersion(version={Text.quoted v.number}, flavor={Text.quoted v.flavor}, build={Text.quoted v.build})"

/-- A node that is asked for, as the log shows it. -/
def shown (demand : NodeDemand) : String :=
  s!"NodeOptions(name={Text.quoted demand.name}, platform={Text.quoted demand.platform}, " ++
    s!"server_version={Text.quoted demand.serverVersion}, version_info={shownVersion demand.version})"

end NodeDemand

/-- A cluster that is asked for. -/
structure ClusterDemand where
  timeout : Duration
  nodes : List NodeDemand

namespace ClusterDemand

/-- What a demand is measured by. -/
structure Limits where
  timeout : Except Fault Duration
  nodes : Int

/--
The nodes from some place on, with names and versions. `taken` holds the host names before that place and
the names that they belong to.
-/
def checkNodes (taken : Table String) : (index : Nat) → List NodeDemand → Except Fault (List NodeDemand)
  | _, [] => .ok []
  | index, demand :: rest => do
    let node := demand.named index
    match taken.get? node.hostName with
    | some name => .error (.rejected (.sameHostName name node.name))
    | none =>
      let version ← node.resolvedVersion
      let others ← checkNodes (taken.put node.hostName node.name) (index + 1) rest
      .ok ({ node with version := some version } :: others)

/-- The nodes of a demand that is within its limits. -/
def checked (demand : ClusterDemand) (limits : Limits) : Except Fault (List NodeDemand) := do
  -- The limit is looked at only once the timeout is known to be positive, for it may itself be out of range.
  if demand.timeout ≤ .zero then .error (.rejected .timeoutNotPositive)
  else
    let longest ← limits.timeout
    if longest < demand.timeout then .error (.rejected (.timeoutTooLong longest))
    else if demand.nodes.isEmpty then .error (.rejected .noNodes)
    else if limits.nodes < demand.nodes.length then .error (.rejected (.tooManyNodes limits.nodes))
    else checkNodes [] 0 demand.nodes

end ClusterDemand

end ClusterLease
