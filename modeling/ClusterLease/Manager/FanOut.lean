import ClusterLease.Manager.Interface

/-!
Running one task for each of several items.

All tasks run, in the order that the surroundings choose, whatever becomes of the others. Then they are taken
up in their completion order: the failures are logged in that order, and the first of them is the outcome.
-/

namespace ClusterLease.Manager

variable {α : Type}

/-- What became of the task of an item. -/
structure Finished (α : Type) where
  item : α
  outcome : Except Fault Unit

/-- The fault of a task that failed. -/
def Finished.fault? (finished : Finished α) : Option Fault :=
  match finished.outcome with
  | .ok () => none
  | .error fault => some fault

/-- Runs the tasks of all items, one after another. -/
def runAll (work : α → ManagerM Unit) : List α → ManagerM (List (Finished α))
  | [] => pure []
  | item :: rest => do
    let outcome ← (work item).attempt
    let others ← runAll work rest
    return ⟨item, outcome⟩ :: others

def logFailures (label : String) (shown : α → String) : List (Finished α) → ManagerM Unit
  | [] => pure ()
  | finished :: rest => do
    match finished.fault? with
    | some fault => error .clusters s!"{label} failed for {shown finished.item}: {fault.message}"
    | none => pure ()
    logFailures label shown rest

/-- Takes up tasks that have run, in their completion order: logs their failures and returns the first one. -/
def takeUp (label : String) (shown : α → String) (finished : List (Finished α)) : ManagerM (Option Fault) := do
  let completion ← ask (.collect label finished.length)
  logFailures label shown (completion.apply finished)
  return (completion.apply finished).findSome? Finished.fault?

/-- Runs the tasks of all items and returns the fault of the first one that failed, in completion order. -/
def fanOut (label : String) (shown : α → String) (work : α → ManagerM Unit) (items : List α) :
    ManagerM (Option Fault) :=
  if items.isEmpty then pure none
  else do
    let arrangement ← ask (.arrange label items.length)
    let finished ← runAll work (Arrangement.apply arrangement items)
    takeUp label shown finished

/-- Fails with a fault if there is one. -/
def failWith : Option Fault → ManagerM Unit
  | none => pure ()
  | some fault => Program.fail fault

end ClusterLease.Manager
