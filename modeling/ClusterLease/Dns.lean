import ClusterLease.Log
import ClusterLease.Program
import ClusterLease.Text.Blank
import ClusterLease.Value

/-!
Registration of host names with the DNS service.

A name is registered by writing its address under the name's own URL. Only status 200 counts as success;
anything else, and a service that cannot be reached, is a failed registration.
-/

namespace ClusterLease.Dns

/-- How the HTTP client repeats a request by itself. -/
structure RetryPolicy where
  total : Int
  backoffFactor : Value
  statuses : List Int
  methods : List String
  raiseOnStatus : Bool

/-- How often a request is repeated if nothing else is said. -/
def RetryPolicy.defaultTotal : Int := 3

/-- The factor of the pauses if nothing else is said. -/
def RetryPolicy.defaultBackoff : Value := .real (Double.ofRatio false 1 2)

/-- Failing servers are asked again, with growing pauses, for writing an address twice does no harm. -/
def RetryPolicy.standard (total : Int) (backoffFactor : Value) : RetryPolicy :=
  ⟨total, backoffFactor, [500, 502, 503, 504], ["PUT"], false⟩

/-- The service: where it is, the zone it writes to, and how long to wait for it. -/
structure Registrar where
  host : String
  port : Int
  zone : String
  timeout : Value

/-- A registrar for a zone, whose name may be given with slashes around it. -/
def Registrar.ofZone (host : String) (port : Int) (zone : String) (timeout : Value) : Registrar :=
  ⟨host, port, String.ofList (Text.trim (· == '/') zone.toList), timeout⟩

/-- A registrar with the usual port, zone and timeout. -/
def Registrar.ofHost (host : String) : Registrar := ofZone host 80 "couchbase.com" (.real (Double.ofInt 10))

def Registrar.urlFor (registrar : Registrar) (hostname : String) : String :=
  s!"http://{registrar.host}:{registrar.port}/{registrar.zone}/{hostname}"

/-- A request to write something under a URL. -/
structure PutRequest where
  url : String
  body : Value
  timeout : Value

/-- The answer to a request. -/
structure Response where
  status : Int
  text : String

/-- What a request can end in: the service could not be asked, or something else went wrong. -/
inductive PutError where
  | unreachable (reason : String)
  | other (fault : Fault)

/-- Questions to the service, and the log. -/
inductive Call where
  | log (entry : Log.Entry)
  | put (request : PutRequest)

abbrev interface : Interface where
  Call := Call
  Reply
    | .log _ => Unit
    | .put _ => Except PutError Response

def Registrar.request (registrar : Registrar) (hostname : String) (ip : Value) : PutRequest :=
  ⟨registrar.urlFor hostname, .map [(.text "ips", .list [ip])], registrar.timeout⟩

/-- The text of the answer, if it says that the address is registered. -/
def accepted (hostname : String) (ip : Value) (answer : Except PutError Response) : Except Fault String :=
  match answer with
  | .ok response =>
    if response.status = 200 then .ok response.text
    else .error (.registration hostname ip.display s!"unexpected status {response.status}" response.text)
  | .error (.unreachable reason) => .error (.registration hostname ip.display reason "")
  | .error (.other fault) => .error fault

/-- Points a host name at an address. -/
def Registrar.register (registrar : Registrar) (hostname : String) (ip : Value) : Program interface String := do
  Program.question (I := interface)
    (.log (Log.info .dns s!"Registering {ip.display} => {hostname} on {registrar.host}"))
  let answer ← Program.question (I := interface) (.put (registrar.request hostname ip))
  Program.ofExcept (accepted hostname ip answer)

end ClusterLease.Dns
