import ClusterLease.Config.Load
import ClusterLease.Daemon
import ClusterLease.Http.Wire
import ClusterLease.World

/-!
The daemon as a program.

Settings come from the environment and from the file that it names. Requests are read from standard input
and answered on standard output, one after another; the log goes to standard error. The containers are those
of a `World` in which nothing fails, so that the service can be tried without a container runtime, and a DNS
service cannot be reached from it. A file of leases is read and written for every request.
-/

namespace ClusterLease.Main

def log (entry : Log.Entry) : IO Unit := do (← IO.getStderr).putStrLn entry.line

/-! ### The machine -/

def view (path : String) : IO Config.FileView := do
  try return .bytes (← IO.FS.readBinFile path).toList
  catch
    | .noFileOrDirectory .. => return .missing
    | _ => return .unreadable

/-- The content of a file, if there is one. -/
def content? (path : String) : IO (Option (List UInt8)) := do
  match ← view path with
  | .bytes content => return some content
  | .missing | .unreadable => return none

/-- The variables of the environment that the daemon looks at. -/
def environment : IO (Table String) := do
  let names := Config.pathVariable :: Setting.all.map Setting.variableName
  names.filterMapM fun name => return (← IO.getEnv name).map (name, ·)

/-- The present moment: the time at which a file made for this purpose was changed. -/
def present : IO Moment := do
  let (_, path) ← IO.FS.createTempFile
  let time := (← path.metadata).modified
  IO.FS.removeFile path
  match Moment.ofEpoch? (time.sec * Duration.second + time.nsec.toNat / 1000) with
  | some moment => return moment
  | none => throw (IO.userError "the clock is out of range")

def freshId : IO String := do
  let bytes ← IO.getRandomBytes 16
  return String.ofList (bytes.toList.flatMap fun b => Text.hexPadded 2 b.toNat)

def answerStart : (call : Daemon.Call) → IO (Daemon.interface.Reply call)
  | .log entry => log entry
  | .connectEngine => return .ok ()
  | .loadServiceAccount => return true
  | .loadUserFile => return true
  | .fileContent path => content? path

/-! ### Requests -/

/-- The headers up to the next empty line. -/
partial def readHeaders (input : IO.FS.Stream) : IO Labels := do
  let line ← input.getLine
  match Http.headerOfText? line with
  | none => return []
  | some header => return header :: (← readHeaders input)

/-- The next bytes, fewer only if the input ends before. -/
partial def readBody (input : IO.FS.Stream) (length : Nat) : IO (List UInt8) := do
  if length = 0 then return []
  let bytes ← input.read length.toUSize
  if bytes.isEmpty then return []
  return bytes.toList ++ (← readBody input (length - bytes.size))

/-- The plan of a world in which nothing fails, for a request that needs at most one id. -/
def plan (network id : String) : World.Plan where
  create _ := none
  start _ := none
  inspect _ := none
  stop _ := .works
  list := none
  made number :=
    (String.ofList (Text.hexPadded 12 number), [(network, some ⟨.text s!"10.0.0.{number}", .text s!"fd00::{number}"⟩)])
  found := none
  dns _ := .error (.unreachable "no network")
  arrange _ count := .inOrder count
  ids _ := id

def current : Store → IO Store
  | .memory leases => return .memory leases
  | .file path _ => return .file path (← content? path)

def save : Store → IO Unit
  | .file path (some content) => IO.FS.writeBinFile path ⟨content.toArray⟩
  | .file _ none | .memory _ => return

def answer (manager : Manager) (request : Http.Request) (world : World) : IO (Http.Response × World) := do
  let now ← present
  let plan := plan manager.config.networkName (← freshId)
  let store ← current world.store
  let (outcome, world) := (Http.respond manager request).run World.answer { world with plan, now, store }
  for entry in world.logs do
    log entry
  save world.store
  match outcome with
  | .ok response => return (response, { world with calls := [], logs := [] })
  | .error fault => throw (IO.userError fault.message)

partial def serve (manager : Manager) (input output : IO.FS.Stream) (world : World) : IO Unit := do
  let line ← input.getLine
  if line.isEmpty then return
  match Http.RequestLine.ofText? line with
  | none =>
    output.putStr Http.Response.malformed.text
    output.flush
  | some first =>
    let headers ← readHeaders input
    let body ← readBody input (Http.bodyLength headers)
    let (response, world) ← answer manager (.ofParts first headers body) world
    output.putStr response.text
    output.flush
    serve manager input output world

/-- Loads the settings and starts the daemon. -/
def start : IO (Except Fault (Daemon.Started Daemon.RuntimeChoice)) := do
  let environment ← environment
  let file ← match Config.path? "" environment with
    | some path => view path
    | none => pure .missing
  let draft := Config.load Format.yaml "" environment fun _ => file
  for entry in draft.logs do
    log entry
  match draft.outcome with
  | .ok config => (Daemon.start Format.yaml config (Daemon.connect config)).perform answerStart
  | .error fault => return .error fault

end ClusterLease.Main

def main : IO UInt32 := do
  match ← ClusterLease.Main.start with
  | .error fault =>
    (← IO.getStderr).putStrLn fault.message
    return 1
  | .ok started =>
    ClusterLease.Main.save started.store
    let world : ClusterLease.World :=
      { plan := ClusterLease.Main.plan started.manager.config.networkName ""
        format := .yaml
        containers := []
        created := 0
        issued := 0
        store := started.store
        now := ← ClusterLease.Main.present
        calls := []
        logs := [] }
    ClusterLease.Main.serve started.manager (← IO.getStdin) (← IO.getStdout) world
    return 0
