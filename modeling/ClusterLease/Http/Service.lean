import ClusterLease.Http.Route
import ClusterLease.Http.Target
import ClusterLease.Json.Body
import ClusterLease.Json.Plain
import ClusterLease.Manager
import ClusterLease.Time.Requested

/-!
The service: requests over HTTP to manage clusters, with JSON bodies and answers.

Every request but the one for the version must name a user. A fault that the daemon's rules foresee is
answered with its text, under a status that says whose fault it is; any other one is answered without a text.
-/

namespace ClusterLease.Http

open Value (object)

def daemonVersion : String := "0.3.0"

/-- A request. -/
structure Request where
  method : String
  target : String
  headers : Labels
  contentType : String
  body : List UInt8

/-- An answer: its status, and a JSON document unless there is none. -/
structure Response where
  status : Nat
  document : Option Value

namespace Request

/-! ### Headers -/

/-- A header's name as it is compared: case does not count, and hyphens are as good as underscores. -/
def headerKey (name : String) : String :=
  String.ofList ((Text.lower name).toList.map fun c => if c == '_' then '-' else c)

/-- The value of a header, without blanks at its ends; empty if it is missing. Several count as a list. -/
def header (request : Request) (name : String) : String :=
  let values := request.headers.filterMap fun (key, value) => if headerKey key = headerKey name then some value else none
  Text.strip (", ".intercalate values)

def userHeader : String := "X-Dyncluster-User"

/-- The header that lifts the regard for ownership. -/
def adminHeader : String := "X-Dyncluster-Admin"

/-- Who calls; none if no user is named. -/
def caller? (request : Request) : Option Caller :=
  let user := request.header userHeader
  if user = "" then none
  else some ⟨user, ["1", "true", "yes"].contains (Text.lower (request.header adminHeader))⟩

def methodName (request : Request) : String := request.method.toUpper

/-! ### Bodies -/

/-- Whether a request says that its body is JSON. -/
def isJson (request : Request) : Bool :=
  let kind := Text.lower (Text.strip (String.ofList (request.contentType.toList.takeWhile (· != ';'))))
  kind == "application/json" || ("application/".toList.isPrefixOf kind.toList && "+json".toList.isSuffixOf kind.toList)

/-- The entries of the body, if it is a JSON object. -/
def object? (request : Request) : Option Entries :=
  if request.isJson then
    match Json.ofBytes? request.body with
    | some (.map entries) => some entries
    | _ => none
  else none

end Request

/-- A field of an object as text. -/
def textField (fields : Entries) (key default : String) : String :=
  ((Entries.getText? fields key).getD (.text default)).display

/-- A node that a body asks for. -/
def nodeDemand (entry : Value) : Except Fault NodeDemand :=
  match entry with
  | .map fields => .ok
      { name := textField fields "name" ""
        platform := textField fields "platform" NodeDemand.defaultPlatform
        serverVersion := textField fields "server_version" ""
        version := none }
  | _ => .error (.rejected .nodeNotObject)

/-- The nodes that a body asks for. A value that counts as no asks for none. -/
def nodeDemands (nodes : Value) : Except Fault (List NodeDemand) :=
  if nodes.isTruthy then do (← nodes.members).mapM nodeDemand else .ok []

/-- The cluster that a body asks for. -/
def clusterDemand (fields : Entries) : Except Fault ClusterDemand :=
  match Entries.getText? fields "timeout" with
  | none => .error (.rejected .missingTimeout)
  | some timeout => do
    let nodes ← nodeDemands ((Entries.getText? fields "nodes").getD .null)
    let timeout ← Duration.requested timeout
    .ok ⟨timeout, nodes⟩

/-! ### Answers -/

/-- The answer to a request that went well. -/
def succeed (document : Value) : ManagerM Response := do
  let plain ← Program.ofExcept (Json.plain document)
  return ⟨200, some plain⟩

/-- An answer that tells what went wrong. -/
def failure (status : Nat) (text : String) : Response := ⟨status, some (object [("error", .text text)])⟩

def statusOf : Fault → Nat
  | .rejected _ => 400
  | .forbidden => 403
  | .clusterNotFound _ | .metaNotFound _ | .containerNotFound _ => 404
  | _ => 500

/-- The answer to a request that ended in a fault. -/
def answerFault (method path : String) (fault : Fault) : ManagerM Response := do
  if fault.isForeseen then
    let status := statusOf fault
    if status = 500 then Manager.error .api s!"{method} {path} failed: {fault.message}"
    return failure status fault.message
  else return ⟨500, none⟩

/-- The document that says that all went well. -/
def done : Value := object [("status", .text "ok")]

/-! ### Requests -/

/-- Lists the clusters that the caller sees. -/
def listClusters (m : Manager) (caller : Caller) : ManagerM Response := do
  let clusters ← m.clusters caller
  succeed (.list (← Program.ofExcept (clusters.mapM Cluster.document)))

/-- Allocates the cluster that the body asks for. -/
def createCluster (m : Manager) (caller : Caller) (request : Request) : ManagerM Response :=
  match request.object? with
  | none => pure (failure 400 "request body must be a JSON object")
  | some fields => do
    let wanted ← Program.ofExcept (clusterDemand fields)
    let id ← m.allocate caller wanted
    succeed (object [("id", .text id)])

/-- Kills all clusters that the caller sees. -/
def killClusters (m : Manager) (caller : Caller) : ManagerM Response := do
  m.killAll caller
  succeed done

def showCluster (m : Manager) (caller : Caller) (id : String) : ManagerM Response := do
  let cluster ← m.cluster caller id
  succeed (← Program.ofExcept cluster.document)

/-- Makes the lease of a cluster longer by what the body says. -/
def refreshCluster (m : Manager) (caller : Caller) (id : String) (request : Request) : ManagerM Response :=
  match request.object?.bind fun fields => Entries.getText? fields "timeout" with
  | none => pure (failure 400 Rejection.missingTimeout.message)
  | some timeout => do
    let extension ← Program.ofExcept (Duration.requested timeout)
    let lease ← m.refresh caller id extension
    succeed (← Program.ofExcept lease.toEntry)

def killCluster (m : Manager) (caller : Caller) (id : String) : ManagerM Response := do
  m.kill caller id
  succeed done

/-- Serves a request for a route by a caller. -/
def serveCaller (m : Manager) (caller : Caller) (request : Request) (method : String) : Route → ManagerM Response
  | .clusters =>
    if method = "POST" then createCluster m caller request
    else if method = "DELETE" then killClusters m caller
    else listClusters m caller
  | .cluster id =>
    if method = "PUT" then refreshCluster m caller id request
    else if method = "DELETE" then killCluster m caller id
    else showCluster m caller id
  | .version | .files => pure ⟨404, none⟩

def serve (m : Manager) (request : Request) (method : String) (route : Route) : ManagerM Response :=
  match route with
  | .version => succeed (object [("version", .text daemonVersion)])
  | .files => pure ⟨404, none⟩
  | route =>
    match request.caller? with
    | none => pure (failure 401 s!"missing {Request.userHeader} header")
    | some caller => serveCaller m caller request method route

/-- The answer to a request, with a document even if only the status is asked for. -/
def answer (m : Manager) (request : Request) : ManagerM Response :=
  let method := request.methodName
  let path := pathOf request.target
  match Route.decide method path with
  | .serve route => do
    -- Faults end the serving of this request only, whatever they are.
    match ← (serve m request method route).attempt with
    | .ok response => return response
    | .error fault => answerFault method path fault
  | .describe => pure ⟨200, none⟩
  | .redirect => pure ⟨308, none⟩
  | .notAllowed => pure ⟨405, none⟩
  | .notFound => pure ⟨404, none⟩

/-- The answer to a request. Where only the head is asked for, the document is left out. -/
def respond (m : Manager) (request : Request) : ManagerM Response := do
  let response ← answer m request
  return if request.methodName = "HEAD" then { response with document := none } else response

end ClusterLease.Http
