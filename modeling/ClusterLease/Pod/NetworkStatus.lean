import ClusterLease.Container
import ClusterLease.Json.Document
import ClusterLease.Log
import ClusterLease.Net.Ip
import ClusterLease.Value.Access

/-!
The network status that a cluster puts on a pod: a JSON list with one entry per network.

An entry has a name, of which only what follows the last slash counts, and a list of addresses. Of each
family the first address is taken; a version 6 address valid on one link only is passed over. Of two entries
for one network the last one counts.
-/

namespace ClusterLease.Pod

open Container (Address Networks)

def statusAnnotation : String := "k8s.v1.cni.cncf.io/network-status"

/-- What follows the last slash of a text. -/
def afterLastSlash (s : String) : String := String.ofList (s.toList.reverse.takeWhile (· != '/')).reverse

/-- One more address of an entry: it is taken if its family has none yet. -/
def takeAddress (address : Address) (ip : Value) : Address :=
  match Ip.ofValue? ip with
  -- An address that counts as no value, such as the number zero, does not fill its place.
  | some (.v4 _) => if address.ipv4.isTruthy then address else { address with ipv4 := ip }
  | some (.v6 n) =>
    if Ip.isLinkLocal n || address.ipv6.isTruthy then address else { address with ipv6 := ip }
  | none => address

/-- The network and addresses of one entry. -/
def entryAddress (entry : Value) : Except Fault (String × Address) :=
  match entry with
  | .map fields => do
    let name := ((Entries.getText? fields "name").getD (.text "")).display
    let ips ← ((Entries.getText? fields "ips").getD (.list [])).members
    .ok (afterLastSlash name, ips.foldl takeAddress Address.none)
  | _ => .error (.mishap .missingMember)

/-- The networks of a status, from its entries. -/
def networksOfEntries (entries : List Value) : Except Fault Networks :=
  entries.foldlM (fun networks entry => (entryAddress entry).map fun (name, address) =>
    networks.put name (some address)) []

/-- A status together with a warning, if it is not a list of entries. -/
structure StatusReading where
  warnings : List Log.Entry
  networks : Except Fault Networks

/-- The networks in the text of a status. -/
def readStatus (raw : String) : StatusReading :=
  match Json.read? raw.toList with
  | none => ⟨[Log.warning .pods s!"Malformed {statusAnnotation} annotation: {Text.quoted raw}"], .ok []⟩
  | some (.list entries) => ⟨[], networksOfEntries entries⟩
  | some _ => ⟨[Log.warning .pods s!"Unexpected {statusAnnotation} annotation: {Text.quoted raw}"], .ok []⟩

/-- The networks that the annotations of a pod report. -/
def networkStatus (annotations : Labels) : StatusReading :=
  match annotations.getD statusAnnotation with
  | "" => ⟨[], .ok []⟩
  | raw => readStatus raw

end ClusterLease.Pod
