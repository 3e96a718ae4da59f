import ClusterLease.Container
import ClusterLease.Value.Access

/-!
Addresses in what a container engine answers.

A record of a container may hold settings, and the settings may hold networks; each may be missing or null.
`networks` unwraps the networks; a container that is inspected and one that is listed differ only in how the
settings around them are unwrapped.
-/

namespace ClusterLease.Engine

open Container (Address Networks)

/-- The text under a key of an engine's settings, empty if there is none. -/
def addressField (settings : Value) (key : String) : Except Fault Value :=
  (settings.lookup key).map fun value => (value.getD .null).orElse (.text "")

def address (settings : Value) : Except Fault Address := do
  let settings := settings.orElse (.map [])
  let ipv4 ← addressField settings "IPAddress"
  let ipv6 ← addressField settings "GlobalIPv6Address"
  .ok ⟨ipv4, ipv6⟩

/-- The networks of a container, from an engine's mapping of them. -/
def networks (v : Value) : Except Fault Networks :=
  match v.orElse (.map []) with
  | .map entries => entries.mapM fun (name, settings) =>
    (address settings).map fun found => (name.display, some found)
  | _ => .error (.mishap .missingMember)

/-- The networks in the answer to an inspection. The settings may be missing but must not be null. -/
def inspectedNetworks (details : Value) : Except Fault Networks := do
  let settings := (← details.lookup "NetworkSettings").getD (.map [])
  networks ((← settings.lookup "Networks").getD .null)

/-- The networks of an entry of a listing. The settings may be missing or null. -/
def listedNetworks (entry : Value) : Except Fault Networks := do
  let settings := ((← entry.lookup "NetworkSettings").getD .null).orElse (.map [])
  networks ((← settings.lookup "Networks").getD .null)

end ClusterLease.Engine
