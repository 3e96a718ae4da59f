import ClusterLease.Manager
import ClusterLease.World

/-!
Where runs start: a world without containers or leases, a plan in which nothing goes wrong, and
someone who asks for nodes.
-/

namespace ClusterLease.World

/-- A world in which nothing has happened yet. Its leases are kept in memory. -/
def initial (plan : Plan) (format : Format) (now : Moment) : World where
  plan := plan
  format := format
  containers := []
  created := 0
  issued := 0
  store := .memory []
  now := now
  calls := []
  logs := []

/-- A plan in which nothing goes wrong and every id is new. -/
def Plan.smooth : Plan where
  create _ := none
  start _ := none
  inspect _ := none
  stop _ := .works
  list := none
  made number := (String.ofList (List.replicate number 'c'), [])
  found := none
  dns _ := .ok ⟨200, ""⟩
  arrange _ count := .inOrder count
  ids number := String.ofList (List.replicate number 'i')

theorem Plan.smooth_made_injective {a b : Nat} (h : (smooth.made a).1 = (smooth.made b).1) :
    a = b := by
  have hlength := congrArg (·.toList.length) h
  simpa [smooth] using hlength

namespace Sample

/-- Midnight at the start of a year. -/
def newYear : Moment := ⟨⟨2024, 1, 1, by decide⟩, ⟨0, Nat.zero_lt_succ _⟩, some Offset.utc⟩

def hourLater : Moment := ⟨⟨2024, 1, 1, by decide⟩, ⟨3600000000, by decide⟩, some Offset.utc⟩

def manager : Manager := ⟨{}, none⟩

/-- Someone who minds ownership. -/
def ann : Caller := ⟨"ann", false⟩

/-- A node of that name that asks for nothing special. -/
def node (name : String) : NodeDemand :=
  ⟨name, "centos7", "7.0.1", some ⟨"7.0.1", "cheshire-cat", ""⟩⟩

def minute : Duration := ⟨60000000, by decide⟩

/-- Two nodes, for a minute. -/
def pair : ClusterDemand := ⟨minute, [node "a", node "b"]⟩

end Sample

end ClusterLease.World
