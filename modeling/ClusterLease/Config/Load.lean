import ClusterLease.Config
import ClusterLease.Lease.Store

/-!
Where the daemon's settings come from: a file, and above it the environment.

A file that cannot be read, or that holds no mapping, counts as empty. Bytes that are no text, and values
that YAML cannot make, end loading.
-/

namespace ClusterLease.Config

/-- What is found under a path. -/
inductive FileView where
  | missing
  /-- Something that cannot be read as a file. -/
  | unreadable
  | bytes (content : List UInt8)

/-- The variable that names the configuration file. -/
def pathVariable : String := "DYNCLUSTER_CONFIG"

/-- The path of the configuration file: the one given, or the one in the environment, if it is not empty. -/
def path? (given : String) (environment : Table String) : Option String :=
  let path := if given ≠ "" then given else (environment.get? pathVariable).getD ""
  if path ≠ "" then some path else none

/-- The mapping in a file, or a warning and nothing. -/
def readMapping (format : Format) (path : String) (view : FileView) : Except Fault (Entries × List Log.Entry) :=
  let failed : Except Fault (Entries × List Log.Entry) :=
    .ok ([], [Log.warning .config s!"Failed to load config from {path}"])
  match view with
  | .missing | .unreadable => failed
  | .bytes content =>
    match format.read content with
    | .error .malformed => failed
    | .error (.mishap what) => .error (.mishap what)
    | .ok document =>
      if !document.isTruthy then .ok ([], [])
      else
        match document with
        | .map entries => .ok (entries, [])
        | _ => .ok ([], [Log.warning .config s!"Config file {path} does not contain a mapping, ignoring it"])

/-- The settings of a file on top of the usual ones. -/
def Draft.readFile (draft : Draft) (format : Format) (path : String) (view : FileView) : Draft :=
  match view with
  | .missing => draft.log (Log.warning .config s!"Config file not found: {path}")
  | view =>
    match readMapping format path view with
    | .error fault => { draft with outcome := .error fault }
    | .ok (entries, warnings) =>
      let read := (warnings.foldl Draft.log draft).update entries
      match read.outcome with
      | .error _ => read
      | .ok _ => read.log (Log.info .config s!"Loaded config file: {path}")

/-- The settings that the environment holds, as a mapping. -/
def overrides (environment : Table String) : Entries :=
  Setting.all.filterMap fun setting =>
    (environment.get? setting.variableName).map fun text => (.text setting.key, .text text)

def load (format : Format) (given : String) (environment : Table String) (files : String → FileView) : Draft :=
  let fromFile := match path? given environment with
    | some path => Draft.initial.readFile format path (files path)
    | none => Draft.initial
  match fromFile.outcome with
  | .error _ => fromFile
  | .ok _ => fromFile.update (overrides environment)

end ClusterLease.Config
