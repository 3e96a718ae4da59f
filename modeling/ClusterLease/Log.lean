/-!
Log entries: how grave they are, which part of the daemon speaks, and what it says.
-/

namespace ClusterLease.Log

/-- How grave an entry is. -/
inductive Level where
  | info
  | warning
  | error
  deriving DecidableEq, Repr

def Level.name : Level → String
  | info => "INFO"
  | warning => "WARNING"
  | error => "ERROR"

/-- The part of the daemon that speaks. -/
inductive Source where
  | daemon
  | api
  | clusters
  | config
  | dns
  | engine
  | leases
  | nodes
  | pods
  deriving DecidableEq, Repr

/-- The name under which a part of the daemon logs. -/
def Source.name : Source → String
  | daemon => "app"
  | api => "dyncluster.api"
  | clusters => "dyncluster.clusters"
  | config => "dyncluster.config"
  | dns => "dyncluster.dns"
  | engine => "dyncluster.runtime.docker_runtime"
  | leases => "dyncluster.meta_store"
  | nodes => "dyncluster.nodes"
  | pods => "dyncluster.runtime.kubernetes_runtime"

/-- One entry. -/
structure Entry where
  level : Level
  source : Source
  text : String
  deriving DecidableEq, Repr

def info (source : Source) (text : String) : Entry := ⟨.info, source, text⟩

def warning (source : Source) (text : String) : Entry := ⟨.warning, source, text⟩

def error (source : Source) (text : String) : Entry := ⟨.error, source, text⟩

/-- An entry on one line: level, source and text. -/
def Entry.line (entry : Entry) : String := s!"{entry.level.name} {entry.source.name}: {entry.text}"

end ClusterLease.Log
