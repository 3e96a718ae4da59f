import ClusterLease.Proofs.Program.Conduct

/-!
The conversations that a program can have.

A trace of a program is a list of questions with answers, whoever gives them, and the outcome that they lead
to. Every run leaves a trace (`trace_run`). The trace of a sequence is one of its first part, followed by one
of its second part unless the first one failed (`Trace.of_bind`).
-/

namespace ClusterLease.Program

variable {I : Interface} {α β γ σ : Type}

/-- These questions are asked one after another if they get these answers, and lead to this outcome. -/
inductive Trace : Program I α → List (Event I) → Except Fault α → Prop where
  | done (outcome : Except Fault α) : Trace (done outcome) [] outcome
  | ask {call : I.Call} {next : I.Reply call → Program I α} {reply : I.Reply call} {events : List (Event I)}
      {outcome : Except Fault α} (h : Trace (next reply) events outcome) :
      Trace (ask call next) (⟨call, reply⟩ :: events) outcome

/-- Every run leaves a trace, with the run's own outcome. -/
theorem trace_run (answer : Answerer I σ) (p : Program I α) (s : σ) :
    p.Trace (p.events answer s) (p.run answer s).1 := by
  induction p generalizing s with
  | done outcome => exact .done outcome
  | ask call next ih => exact .ask (ih _ _)

variable {p : Program I α} {f : α → Program I β} {events : List (Event I)}

/-- A sequence stops where its first part fails, or goes on with its second part. -/
theorem Trace.of_bind {outcome : Except Fault β} (h : (p >>= f).Trace events outcome) :
    (∃ fault, outcome = .error fault ∧ p.Trace events (.error fault)) ∨
      ∃ value first second, events = first ++ second ∧ p.Trace first (.ok value) ∧
        (f value).Trace second outcome := by
  change (p.bind f).Trace events outcome at h
  -- By induction on the first program, whose calls come off the trace one by one.
  induction p generalizing events with
  | done result =>
    cases result with
    | ok value => exact .inr ⟨value, [], events, rfl, .done _, h⟩
    | error fault =>
      cases h
      exact .inl ⟨fault, rfl, .done _⟩
  | ask call next ih =>
    cases h with
    | ask h =>
      obtain ⟨fault, rfl, hfails⟩ | ⟨value, first, second, rfl, hfirst, hsecond⟩ := ih _ h
      · exact .inl ⟨fault, rfl, .ask hfails⟩
      · exact .inr ⟨value, _ :: first, second, rfl, .ask hfirst, hsecond⟩

/-- A computed step leaves nothing in a trace: either it ends the program, or the trace is that of the rest. -/
theorem Trace.of_ofExcept_bind {result : Except Fault α} {outcome : Except Fault β}
    (h : (ofExcept result >>= f).Trace events outcome) :
    (∃ fault, result = .error fault ∧ events = []) ∨
      ∃ value, result = .ok value ∧ (f value).Trace events outcome := by
  cases result with
  | ok value => exact .inr ⟨value, rfl, h⟩
  | error fault =>
    cases h
    exact .inl ⟨fault, rfl, rfl⟩

/-- A question comes first, with some answer. -/
theorem Trace.of_question_bind {call : I.Call} {f : I.Reply call → Program I β} {outcome : Except Fault β}
    (h : (question call >>= f).Trace events outcome) :
    ∃ reply rest, events = ⟨call, reply⟩ :: rest ∧ (f reply).Trace rest outcome := by
  cases h with
  | ask h => exact ⟨_, _, rfl, h⟩

/-- A question whose answer may be a fault comes first, and what follows is asked unless it is one. -/
theorem Trace.of_check_bind {call : I.Call} {check : I.Reply call → Except Fault α} {outcome : Except Fault β}
    (h : ((question call >>= fun reply => ofExcept (check reply)) >>= f).Trace events outcome) :
    ∃ reply rest, events = ⟨call, reply⟩ :: rest ∧
      ((∃ fault, check reply = .error fault ∧ rest = []) ∨
        ∃ value, check reply = .ok value ∧ (f value).Trace rest outcome) := by
  cases h with
  | ask h => exact ⟨_, _, rfl, of_ofExcept_bind h⟩

/-- What a program asks at all, it asks in every trace. -/
theorem Asks.trace {kind : I.Call → Prop} {outcome : Except Fault α} (hp : p.Asks kind)
    (h : p.Trace events outcome) : ∀ event ∈ events, kind event.call := by
  induction h with
  | done outcome => simp
  | ask _ ih => exact List.forall_mem_cons.2 ⟨hp.1, ih (hp.2 _)⟩

end ClusterLease.Program
