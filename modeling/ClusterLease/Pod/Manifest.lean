import ClusterLease.Container
import ClusterLease.Pod.Name

/-!
Pods: one for each container that is asked for.

All labels of a container become annotations, because the values of real labels may not hold arbitrary
texts; the cluster id also becomes a real label, so that pods can be selected by it. Every bind becomes a
volume and a mount, tied together by the name of the volume.
-/

namespace ClusterLease.Pod

open Value (object)

/-- The annotation that asks for a network. -/
def networksAnnotation : String := "k8s.v1.cni.cncf.io/networks"

/-- A directory or file of the host. -/
structure Volume where
  name : String
  hostPath : String
  deriving DecidableEq, Repr

/-- A place inside the container at which a volume appears. -/
structure Mount where
  name : String
  path : String
  readOnly : Bool
  deriving DecidableEq, Repr

/-- A pod as the cluster is asked to run it. -/
structure Manifest where
  name : String
  space : String
  labels : Labels
  annotations : Labels
  image : String
  mounts : List Mount
  volumes : List Volume
  /-- Name servers to use in place of those of the cluster. -/
  nameServers : Option (List String)
  deriving DecidableEq, Repr

/-- The binds in the order of their host paths. -/
def sortedBinds (binds : Labels) : Labels := binds.mergeSort fun a b => a.1 ≤ b.1

/-- The name of the volume of a numbered bind. -/
def volumeName (index : Nat) : String := s!"bind-{index}"

def volumesAndMounts (binds : Labels) : List (Volume × Mount) :=
  ((sortedBinds binds).zip (List.range binds.length)).map fun ((hostPath, path), index) =>
    (⟨volumeName index, hostPath⟩, ⟨volumeName index, path, true⟩)

def labelsFor (labels : Labels) : Labels :=
  let app := [("app", "dyncluster-node")]
  match labels.get? Container.clusterLabel with
  | some id => Table.put app Container.clusterLabel id
  | none => app

def Manifest.ofSpec (spec : Container.Spec) (space : String) : Manifest where
  name := nameFor spec.name
  space := space
  labels := labelsFor spec.labels
  annotations := Table.put spec.labels networksAnnotation spec.network
  image := spec.image
  mounts := (volumesAndMounts spec.binds).map (·.2)
  volumes := (volumesAndMounts spec.binds).map (·.1)
  nameServers := if spec.dnsServers.isEmpty then none else some spec.dnsServers

/-! ### As a document -/

def labelsDocument (labels : Labels) : Value := object (labels.map fun (key, text) => (key, .text text))

def Mount.document (mount : Mount) : Value :=
  object [("mountPath", .text mount.path), ("name", .text mount.name), ("readOnly", .bool mount.readOnly)]

def Volume.document (volume : Volume) : Value :=
  object [("hostPath", object [("path", .text volume.hostPath)]), ("name", .text volume.name)]

def Manifest.document (pod : Manifest) : Value :=
  let container := object [("image", .text pod.image), ("imagePullPolicy", .text "IfNotPresent"),
    ("name", .text "server"), ("volumeMounts", .list (pod.mounts.map Mount.document))]
  let dns := match pod.nameServers with
    | some servers => [("dnsConfig", object [("nameservers", .list (servers.map .text))]), ("dnsPolicy", .text "None")]
    | none => []
  object [("apiVersion", .text "v1"), ("kind", .text "Pod"),
    ("metadata", object [("annotations", labelsDocument pod.annotations), ("labels", labelsDocument pod.labels),
      ("name", .text pod.name), ("namespace", .text pod.space)]),
    ("spec", object ([("containers", .list [container]), ("hostname", .text pod.name),
      ("restartPolicy", .text "Never"), ("volumes", .list (pod.volumes.map Volume.document))] ++ dns))]

end ClusterLease.Pod
