import ClusterLease.Config
import ClusterLease.Table

/-!
Worker processes of the daemon.

Leases in memory belong to one process, so more than one worker needs a file that holds them.
-/

namespace ClusterLease

/-- How the daemon is run by worker processes. -/
structure Workers where
  application : String := "app:build_app()"
  address : String
  count : Int
  /-- The most seconds that a request may take: allocating waits until every node runs. -/
  timeout : Nat := 600
  workerClass : String := "gthread"
  threads : Nat := 4
  preload : Bool := false

namespace Workers

/-- The number of workers if nothing else is said. -/
def usualCount (config : Config) : String := if config.leaseFile = "" then "1" else "2"

/-- The workers that the environment asks for. -/
def plan (config : Config) (environment : Table String) : Except Fault Workers :=
  let address := (environment.get? "DYNCLUSTER_BIND").getD "0.0.0.0:8080"
  let count := Numeral.int? ((environment.get? "DYNCLUSTER_WORKERS").getD (usualCount config))
  (Fault.orMishap .badValue count).map fun count => { address, count }

/-- Refuses workers that would keep leases apart from each other. -/
def check (config : Config) (count : Int) : Except Fault Unit :=
  if 1 < count ∧ config.leaseFile = "" then .error (.metadataNotShared count) else .ok ()

/-- What a worker says when it is ready, from the settings that it serves with, if it has any. -/
def greeting (worker : Int) (config : Option Config) : String :=
  match config with
  | none => s!"[Worker {worker}] WARNING: daemon config not found on app"
  | some config => s!"[Worker {worker}] Serving with {config.runtime} runtime"

end Workers

end ClusterLease
