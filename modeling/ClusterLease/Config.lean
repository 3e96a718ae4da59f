import ClusterLease.Fault
import ClusterLease.Log
import ClusterLease.Number.Numeral
import ClusterLease.Value
import ClusterLease.Version

/-!
Settings of the daemon.

There are 17 settings, each a text, a whole number or a number. `Config.update` takes values from a mapping,
one after another; a value is converted to the kind of its setting, and null stands for the zero of the kind.
Keys that name no setting are passed over with a warning, unless they cannot be written into it.
-/

namespace ClusterLease

/-- What a setting holds. -/
inductive Kind where
  | text
  | whole
  | real
  deriving DecidableEq, Repr

namespace Kind

abbrev Carrier : Kind → Type
  | text => String
  | whole => Int
  | real => Double

def zero : (kind : Kind) → kind.Carrier
  | text => ""
  | whole => (0 : Int)
  | real => Double.zero

/-- Bytes as the text of a number; they must be ASCII without separators of records. -/
def asciiText? (bytes : List UInt8) : Option String :=
  if bytes.all fun b => b < 0x1C || (0x20 ≤ b && b < 0x80) then
    some (String.ofList (bytes.map fun b => Char.ofNat b.toNat))
  else none

/-- A whole number from a value. The fraction of a number is cut off. -/
def toWhole (v : Value) : Except Fault Int :=
  match v with
  | .bool b => .ok (if b then 1 else 0)
  | .int n => .ok n
  | .real .nan => .error (.mishap .badValue)
  | .real x => Fault.orMishap .overflow x.truncate?
  | .text s => Fault.orMishap .badValue (Numeral.int? s)
  | .bytes bytes => Fault.orMishap .badValue ((asciiText? bytes).bind Numeral.int?)
  | _ => .error (.mishap .wrongType)

/-- A number from a value. A whole number must not be too large. -/
def toReal (v : Value) : Except Fault Double :=
  let ofWhole (n : Int) : Except Fault Double :=
    let x := Double.ofInt n
    if x.isFinite then .ok x else .error (.mishap .overflow)
  match v with
  | .bool b => ofWhole (if b then 1 else 0)
  | .int n => ofWhole n
  | .real x => .ok x
  | .text s => Fault.orMishap .badValue (Numeral.double? s)
  | .bytes bytes => Fault.orMishap .badValue ((asciiText? bytes).bind Numeral.double?)
  | _ => .error (.mishap .wrongType)

def convert (kind : Kind) (v : Value) : Except Fault kind.Carrier :=
  match v with
  | .null => .ok kind.zero
  | v =>
    match kind with
    | text => Fault.orMishap .badValue v.display?
    | whole => toWhole v
    | real => toReal v

/-- A value of a kind as a value of a document. -/
def toValue : (kind : Kind) → kind.Carrier → Value
  | text, s => .text s
  | whole, n => .int n
  | real, x => .real x

end Kind

/-- The settings. -/
inductive Setting where
  | runtime
  | networkName
  | space
  | registry
  | releaseUrl
  | buildUrl
  | dnsHost
  | dnsPort
  | dnsZone
  | dnsDomainSuffix
  | dnsRetries
  | defaultLeaseSeconds
  | maxLeaseSeconds
  | maxNodes
  | leaseFile
  | podStartSeconds
  | logLevel
  deriving DecidableEq, Repr

namespace Setting

/-- All settings, in the order in which they are shown and read from the environment. -/
def all : List Setting :=
  [runtime, networkName, space, registry, releaseUrl, buildUrl, dnsHost, dnsPort, dnsZone, dnsDomainSuffix,
    dnsRetries, defaultLeaseSeconds, maxLeaseSeconds, maxNodes, leaseFile, podStartSeconds, logLevel]

/-- The key of a setting in a configuration file. -/
def key : Setting → String
  | runtime => "runtime"
  | networkName => "network_name"
  | space => "namespace"
  | registry => "docker_registry"
  | releaseUrl => "release_url"
  | buildUrl => "build_url"
  | dnsHost => "dns_host"
  | dnsPort => "dns_port"
  | dnsZone => "dns_zone"
  | dnsDomainSuffix => "dns_domain_suffix"
  | dnsRetries => "dns_retries"
  | defaultLeaseSeconds => "default_cluster_timeout_s"
  | maxLeaseSeconds => "max_cluster_timeout_s"
  | maxNodes => "max_nodes"
  | leaseFile => "meta_store_path"
  | podStartSeconds => "pod_start_timeout_s"
  | logLevel => "log_level"

def kind : Setting → Kind
  | dnsPort | dnsRetries | defaultLeaseSeconds | maxLeaseSeconds | maxNodes => .whole
  | podStartSeconds => .real
  | _ => .text

def ofKey? (key : Value) : Option Setting := all.find? fun setting => (Value.text setting.key).sameKey key

def variableName (setting : Setting) : String := "DYNCLUSTER_" ++ setting.key.toUpper

end Setting

/-- A value for every setting. -/
structure Config where
  /-- The container runtime: `docker` or `kubernetes`. -/
  runtime : String := "docker"
  networkName : String := "macvlan0"
  space : String := "dyncluster"
  registry : String := "dockerhub.build.couchbase.com"
  releaseUrl : String := Version.defaultReleaseUrl
  buildUrl : String := Version.defaultBuildUrl
  /-- The DNS service, which also resolves names for new nodes; without one no names are registered. -/
  dnsHost : String := ""
  dnsPort : Int := 80
  dnsZone : String := "couchbase.com"
  dnsDomainSuffix : String := "couchbase.com"
  dnsRetries : Int := 3
  defaultLeaseSeconds : Int := 3600
  maxLeaseSeconds : Int := 14 * 24 * 3600
  maxNodes : Int := 10
  /-- The file that holds leases; without one they are kept in memory. -/
  leaseFile : String := ""
  podStartSeconds : Double := .ofInt 120
  logLevel : String := "INFO"
  deriving DecidableEq

namespace Config

def get (c : Config) : (setting : Setting) → setting.kind.Carrier
  | .runtime => c.runtime
  | .networkName => c.networkName
  | .space => c.space
  | .registry => c.registry
  | .releaseUrl => c.releaseUrl
  | .buildUrl => c.buildUrl
  | .dnsHost => c.dnsHost
  | .dnsPort => c.dnsPort
  | .dnsZone => c.dnsZone
  | .dnsDomainSuffix => c.dnsDomainSuffix
  | .dnsRetries => c.dnsRetries
  | .defaultLeaseSeconds => c.defaultLeaseSeconds
  | .maxLeaseSeconds => c.maxLeaseSeconds
  | .maxNodes => c.maxNodes
  | .leaseFile => c.leaseFile
  | .podStartSeconds => c.podStartSeconds
  | .logLevel => c.logLevel

def set (c : Config) : (setting : Setting) → setting.kind.Carrier → Config
  | .runtime, s => { c with runtime := s }
  | .networkName, s => { c with networkName := s }
  | .space, s => { c with space := s }
  | .registry, s => { c with registry := s }
  | .releaseUrl, s => { c with releaseUrl := s }
  | .buildUrl, s => { c with buildUrl := s }
  | .dnsHost, s => { c with dnsHost := s }
  | .dnsPort, n => { c with dnsPort := n }
  | .dnsZone, s => { c with dnsZone := s }
  | .dnsDomainSuffix, s => { c with dnsDomainSuffix := s }
  | .dnsRetries, n => { c with dnsRetries := n }
  | .defaultLeaseSeconds, n => { c with defaultLeaseSeconds := n }
  | .maxLeaseSeconds, n => { c with maxLeaseSeconds := n }
  | .maxNodes, n => { c with maxNodes := n }
  | .leaseFile, s => { c with leaseFile := s }
  | .podStartSeconds, x => { c with podStartSeconds := x }
  | .logLevel, s => { c with logLevel := s }

/-- A setting that was just set has the value it was set to. -/
@[simp] theorem get_set_same (c : Config) (setting : Setting) (v : setting.kind.Carrier) :
    (c.set setting v).get setting = v := by
  cases setting <;> rfl

/-- Setting one setting leaves the others alone. -/
theorem get_set_of_ne (c : Config) {setting other : Setting} (v : setting.kind.Carrier) (h : other ≠ setting) :
    (c.set setting v).get other = c.get other := by
  cases setting <;> cases other <;> first | rfl | exact absurd rfl h

def toEntries (c : Config) : Entries := Setting.all.map fun setting =>
  (.text setting.key, setting.kind.toValue (c.get setting))

/-! ### Taking values from mappings -/

/-- A configuration that is being put together, or the failure that ended it, and what was logged. -/
structure Draft where
  outcome : Except Fault Config
  logs : List Log.Entry

/-- One more key and value. Nothing happens after a failure. -/
def Draft.take (draft : Draft) (entry : Value × Value) : Draft :=
  match draft.outcome with
  | .error _ => draft
  | .ok config =>
    match Setting.ofKey? entry.1 with
    | none =>
      match entry.1.display? with
      | none => { draft with outcome := .error (.mishap .badValue) }
      | some shown =>
        { draft with logs := draft.logs ++ [Log.warning .config s!"Ignoring unknown config key: {shown}"] }
    | some setting => { draft with outcome := (setting.kind.convert entry.2).map (config.set setting) }

/-- The configuration with the values of a mapping. -/
def Draft.update (draft : Draft) (data : Entries) : Draft := data.foldl Draft.take draft

def Draft.log (draft : Draft) (entry : Log.Entry) : Draft := { draft with logs := draft.logs ++ [entry] }

def Draft.initial : Draft := ⟨.ok {}, []⟩

def ofEntries (data : Entries) : Draft := Draft.initial.update data

/-! ### What settings mean -/

def defaultLease (c : Config) : Except Fault Duration :=
  Fault.orMishap .overflow (Duration.ofSeconds? c.defaultLeaseSeconds)

/-- The greatest timeout that may be asked for. -/
def maxLease (c : Config) : Except Fault Duration :=
  Fault.orMishap .overflow (Duration.ofSeconds? c.maxLeaseSeconds)

def dnsServers (c : Config) : List String := if c.dnsHost = "" then [] else [c.dnsHost]

end Config

end ClusterLease
