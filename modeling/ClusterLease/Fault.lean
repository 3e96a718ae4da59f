import ClusterLease.Text.Quoted
import ClusterLease.Time.Duration

/-!
What can go wrong, by cause.

A `Rejection` is a request refused before anything was done. A `Mishap` is a failure that no rule of the
daemon foresees: a value of the wrong type, a number out of range, a crash elsewhere. `Fault` puts them
together with the failures of lookups, of the container runtime, of the metadata file and of the DNS service.
The wording of each is in its `message`.
-/

namespace ClusterLease

/-- Why a request is refused. -/
inductive Rejection where
  | invalidDuration (shown : String)
  | missingDuration
  | durationOutOfRange (shown : String)
  | missingTimeout
  | nodeNotObject
  | timeoutNotPositive
  | timeoutTooLong (limit : Duration)
  | noNodes
  | tooManyNodes (limit : Int)
  | sameHostName (first second : String)
  | extensionOutOfRange (extension : Duration)
  | noMinorVersion (version : String)
  | majorNotNumber (version : String)
  | minorNotNumber (version : String)
  | unknownFlavor (major : Int) (bucket : Nat)
  deriving DecidableEq, Repr

namespace Rejection

def message : Rejection → String
  | invalidDuration shown => s!"invalid duration: {shown}"
  | missingDuration => "missing duration"
  | durationOutOfRange shown => s!"duration out of range: {shown}"
  | missingTimeout => "missing timeout"
  | nodeNotObject => "node entries must be objects"
  | timeoutNotPositive => "must specify a valid timeout for the cluster"
  | timeoutTooLong limit => s!"cannot allocate clusters for longer than {limit.text}"
  | noNodes => "must specify at least a single node for the cluster"
  | tooManyNodes limit => s!"cannot allocate clusters with more than {limit} nodes"
  | sameHostName first second =>
    s!"node names {Text.quoted first} and {Text.quoted second} are not distinct host names"
  | extensionOutOfRange extension => s!"timeout {extension.text} is out of range"
  | noMinorVersion version => s!"version {Text.quoted version} has no minor component"
  | majorNotNumber version => s!"could not convert major of {Text.quoted version} to int"
  | minorNotNumber version => s!"could not convert minor of {Text.quoted version} to int"
  | unknownFlavor major bucket => s!"{major}.{bucket} is not a recognised flavor"

end Rejection

/-- A failure that no rule of the daemon foresees. -/
inductive Mishap where
  | badValue
  | wrongType
  | missingKey
  | missingMember
  | missingIndex
  | overflow
  | undecodable
  | unencodable
  | noCredentials
  | crash (text : String)
  deriving DecidableEq, Repr

/-- The word for a mishap; a crash brings its own text. -/
def Mishap.word : Mishap → String
  | badValue => "ValueError"
  | wrongType => "TypeError"
  | missingKey => "KeyError"
  | missingMember => "AttributeError"
  | missingIndex => "IndexError"
  | overflow => "OverflowError"
  | undecodable => "UnicodeDecodeError"
  | unencodable => "UnicodeEncodeError"
  | noCredentials => "ConfigException"
  | crash text => text

/-- Why a container runtime could not do what it was asked. -/
inductive RuntimeCause where
  | unreachable (reason : String)
  | refused (action reason : String)
  | exited (container phase : String)
  | notRunning (container waited phase : String)
  | broken (text : String)
  deriving DecidableEq, Repr

def RuntimeCause.message : RuntimeCause → String
  | unreachable reason => s!"could not connect to docker: {reason}"
  | refused action reason => s!"failed to {action}: {reason}"
  | exited container phase => s!"pod {container} exited before running (phase={phase})"
  | notRunning container waited phase => s!"pod {container} not running after {waited}s (phase={phase})"
  | broken text => text

/-- Any failure. -/
inductive Fault where
  | rejected (why : Rejection)
  | clusterNotFound (id : String)
  | metaNotFound (id : String)
  | containerNotFound (id : String)
  | forbidden
  | runtime (cause : RuntimeCause)
  | registration (hostname ip reason body : String)
  | unreadableMetadata (path : String)
  | metadataNotMapping (path : String)
  | unknownRuntime (name : String)
  | metadataNotShared (workers : Int)
  | mishap (what : Mishap)
  deriving DecidableEq, Repr

namespace Fault

def message : Fault → String
  | rejected why => why.message
  | clusterNotFound id => s!"cluster not found: {id}"
  | metaNotFound id => s!"no metadata stored for cluster {id}"
  | containerNotFound id => s!"container not found: {id}"
  | forbidden => "cannot kill clusters you don't own"
  | runtime cause => cause.message
  | registration hostname ip reason _ => s!"failed registering {hostname} => {ip}: {reason}"
  | unreadableMetadata path => s!"failed to read metadata file {path}"
  | metadataNotMapping path => s!"metadata file {path} does not hold a mapping"
  | unknownRuntime name => s!"unknown container runtime: {Text.quoted name}"
  | metadataNotShared workers =>
    s!"{workers} workers need a shared metadata file; set meta_store_path or use a single worker"
  | mishap what => what.word

/-- Whether the daemon's own rules foresee a failure, so that it is answered and not passed on. -/
def isForeseen : Fault → Bool
  | unknownRuntime _ | metadataNotShared _ | mishap _ => false
  | _ => true

/-- What was found; a mishap if nothing was. -/
def orMishap {α : Type} (what : Mishap) (found : Option α) : Except Fault α :=
  match found with
  | some value => .ok value
  | none => .error (.mishap what)

end Fault

end ClusterLease
