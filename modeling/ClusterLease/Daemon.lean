import ClusterLease.Manager
import ClusterLease.Pod.Runtime

/-!
Starting the daemon: from its settings to the management of clusters.

The settings choose the container runtime, the DNS service and the keeper of leases. The runtime is connected
first, so that a daemon without one leaves no file behind.
-/

namespace ClusterLease.Daemon

/-- A container runtime that is connected. -/
inductive RuntimeChoice where
  | engine
  | pods (settings : Pod.Settings Double)

/-- Questions to the machine on which the daemon starts. -/
inductive Call where
  | log (entry : Log.Entry)
  | connectEngine
  /-- The credentials that a pod of a cluster finds in its place. -/
  | loadServiceAccount
  /-- The credentials in the user's own files. -/
  | loadUserFile
  | fileContent (path : String)

/-- The interface of the machine. An engine that cannot be reached says why. -/
abbrev interface : Interface where
  Call := Call
  Reply
    | .log _ => Unit
    | .connectEngine => Except String Unit
    | .loadServiceAccount => Bool
    | .loadUserFile => Bool
    | .fileContent _ => Option (List UInt8)

abbrev StartM := Program interface

def ask (call : Call) : StartM (interface.Reply call) := Program.question (I := interface) call

def info (source : Log.Source) (text : String) : StartM Unit := ask (.log (Log.info source text))

/-- Connects to the container engine of the machine. -/
def connectEngine : StartM RuntimeChoice := do
  match ← ask .connectEngine with
  | .error reason => Program.fail (.runtime (.unreachable reason))
  | .ok () =>
    info .engine "Connected to Docker engine"
    return .engine

/-- Finds the credentials for a cluster of pods. -/
def connectPods (settings : Pod.Settings Double) : StartM RuntimeChoice := do
  if ← ask .loadServiceAccount then
    info .pods "Loaded in-cluster Kubernetes config"
    return .pods settings
  else if ← ask .loadUserFile then
    info .pods "Loaded kubeconfig"
    return .pods settings
  else Program.fail (.mishap .noCredentials)

/-- Connects to the container runtime that the settings name, in letters of either case. -/
def connect (config : Config) : StartM RuntimeChoice :=
  let name := Text.lower config.runtime
  if name = "docker" then connectEngine
  else if name = "kubernetes" then
    connectPods { Pod.Settings.standard with space := config.space, startTimeout := config.podStartSeconds }
  else Program.fail (.unknownRuntime config.runtime)

/-- The DNS service that the settings name, and how it is asked. -/
def registrar? (config : Config) : Option (Dns.Registrar × Dns.RetryPolicy) :=
  if config.dnsHost = "" then none
  else
    let usual := Dns.Registrar.ofHost config.dnsHost
    some (Dns.Registrar.ofZone config.dnsHost config.dnsPort config.dnsZone usual.timeout,
      Dns.RetryPolicy.standard config.dnsRetries Dns.RetryPolicy.defaultBackoff)

/-- Opens the keeper of leases that the settings name. -/
def openStore (format : Format) (config : Config) : StartM Store :=
  if config.leaseFile = "" then opened Store.openMemory
  else do
    let content ← ask (.fileContent config.leaseFile)
    opened (Store.openFile format config.leaseFile content)
where
  /-- A store that was opened, after logging that. -/
  opened : Store × List Log.Entry → StartM Store
    | (store, logs) => do
      for entry in logs do
        ask (.log entry)
      return store

/-- The levels that the log may be set to. -/
def logLevels : List String := ["CRITICAL", "FATAL", "ERROR", "WARN", "WARNING", "INFO", "DEBUG", "NOTSET"]

/-- The daemon when it has started. -/
structure Started (ρ : Type) where
  manager : Manager
  retries : Option Dns.RetryPolicy
  runtime : ρ
  store : Store

/-- Starts the daemon with a runtime that is connected as `connect` says. -/
def start {ρ : Type} (format : Format) (config : Config) (connect : StartM ρ) : StartM (Started ρ) := do
  if logLevels.any fun level => Text.spellsCapitals level config.logLevel then
    info .daemon s!"Starting cluster daemon with {config.runtime} runtime on network {config.networkName}"
    -- A daemon that cannot reach its runtime stops here, before the file of leases is created.
    let runtime ← connect
    match registrar? config with
    | some _ => info .daemon s!"Registering node addresses with DNS service at {config.dnsHost}"
    | none => info .daemon "No DNS service configured, node addresses will not be registered"
    let store ← openStore format config
    return ⟨⟨config, (registrar? config).map (·.1)⟩, (registrar? config).map (·.2), runtime, store⟩
  else Program.fail (.mishap .badValue)

end ClusterLease.Daemon
