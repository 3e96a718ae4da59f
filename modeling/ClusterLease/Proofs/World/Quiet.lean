import ClusterLease.Manager
import ClusterLease.Proofs.Lease.Failing
import ClusterLease.Proofs.Program.Conduct
import ClusterLease.World

/-!
Worlds without regard for their logs.

What is logged changes no answer, so a run has the same outcome and leaves the same world, apart
from the log, if nothing is logged at all (`run_quietly`). Such a run can be computed step by step:
entries of the log drop out, and reading a lease changes nothing.
-/

namespace ClusterLease

namespace World

open Manager (ask)

def withLogs (w : World) (logs : List Log.Entry) : World := { w with logs := logs }

/-- Answers a question, but logs nothing. -/
def answerQuietly : Answerer Manager.interface World := fun call w =>
  ((answer call w).1, (answer call w).2.withLogs w.logs)

/-- Answers neither depend on log entries nor does anything that they leave. -/
theorem answerQuietly_withLogs (call : Manager.Call) (w : World) (logs : List Log.Entry) :
    answerQuietly call (w.withLogs logs) =
      ((answer call w).1, (answer call w).2.withLogs logs) := by
  -- Only calls on containers look at anything before they answer, and that is never the log.
  cases call with
  | create spec =>
    simp only [answerQuietly, answer, create, noting, withLogs]
    cases w.plan.create spec <;> rfl
  | start id =>
    simp only [answerQuietly, answer, start, held?, noting, withLogs]
    cases w.containers.find? fun held => held.info.id == id with
    | none => rfl
    | some held =>
      dsimp only
      cases w.plan.start held.info <;> rfl
  | stop id =>
    simp only [answerQuietly, answer, stop, held?, noting, withLogs]
    cases w.plan.stop id with
    | fails fault => rfl
    | _ =>
      by_cases h : (w.containers.find? fun held => held.info.id == id).isSome = true <;>
        simp [h, removeContainer]
  | _ => rfl

/-- A run has the same outcome without a log, and leaves the same world but for the log. -/
theorem run_quietly {α : Type} (p : ManagerM α) (w : World) :
    p.run answerQuietly w = ((p.run answer w).1, (p.run answer w).2.withLogs w.logs) :=
  Program.run_map (fun w' => withLogs w' w.logs)
    (fun call s => answerQuietly_withLogs call s w.logs) p w

/-- Without the log, a run has the outcome that it has with it. -/
theorem outcome_quietly {α : Type} (p : ManagerM α) (w : World) :
    (p.run answerQuietly w).1 = (p.run answer w).1 := by
  rw [run_quietly]

/-- What a run is without a log, it is with one. -/
theorem run_of_quietly {α : Type} {p : ManagerM α} {w after : World} {outcome : Except Fault α}
    (h : p.run answerQuietly w = (outcome, after)) :
    ∃ logs, p.run answer w = (outcome, after.withLogs logs) := by
  rw [run_quietly] at h
  obtain ⟨rfl, rfl⟩ := Prod.mk.inj h
  exact ⟨(p.run answer w).2.logs, rfl⟩

/-! ### Single questions -/

variable {α β : Type} (w : World)

theorem run_ask_bind (call : Manager.Call) (f : Manager.interface.Reply call → ManagerM β) :
    (ask call >>= f).run answerQuietly w =
      (f (answerQuietly call w).1).run answerQuietly (answerQuietly call w).2 := rfl

theorem run_info_bind (source : Log.Source) (text : String) (f : Unit → ManagerM β) :
    (Manager.info source text >>= f).run answerQuietly w = (f ()).run answerQuietly w := rfl

@[simp] theorem run_ofExcept (outcome : Except Fault α) :
    (Program.ofExcept outcome : ManagerM α).run answerQuietly w = (outcome, w) := rfl

theorem answerQuietly_fetchLease (id : String) :
    answerQuietly (.fetchLease id) w = ((w.store.fetch w.format id).answer, w) := by
  have hstore := Store.fetch_store w.format w.store id
  show ((w.store.fetch w.format id).answer,
    { w with store := (w.store.fetch w.format id).store }) = _
  rw [hstore]

end World

end ClusterLease
