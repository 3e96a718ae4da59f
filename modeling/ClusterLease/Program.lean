import ClusterLease.Fault

/-!
Programs that ask their surroundings.

A program either is done, with a value or a fault, or asks a question and goes on with the answer. What may
be asked is an `Interface`. A program says nothing about who answers: `run` gives it one answerer with a
state, so that the same program can be tried against every behaviour of what surrounds it.
-/

namespace ClusterLease

/-- The questions a program may ask, and the kind of answer to each. -/
structure Interface where
  Call : Type
  Reply : Call → Type

/-- A program over an interface: a finished outcome, or a question and what follows the answer. -/
inductive Program (I : Interface) (α : Type) where
  | done (outcome : Except Fault α)
  | ask (call : I.Call) (next : I.Reply call → Program I α)

/-- Someone who answers: each answer may depend on a state and change it. -/
abbrev Answerer (I : Interface) (σ : Type) := (call : I.Call) → σ → I.Reply call × σ

namespace Program

variable {I : Interface} {α β γ σ : Type}

/-- One program after another; the second does not start if the first fails. -/
def bind : Program I α → (α → Program I β) → Program I β
  | done (.ok value), f => f value
  | done (.error fault), _ => done (.error fault)
  | ask call next, f => ask call fun reply => (next reply).bind f

/-- A program whose fault is part of its value, so that it never fails. -/
def attempt : Program I α → Program I (Except Fault α)
  | done outcome => done (.ok outcome)
  | ask call next => ask call fun reply => (next reply).attempt

instance : Monad (Program I) where
  pure value := done (.ok value)
  bind := bind

def ofExcept (outcome : Except Fault α) : Program I α := done outcome

def fail (fault : Fault) : Program I α := done (.error fault)

/-- The program that asks one question and returns the answer. -/
def question (call : I.Call) : Program I (I.Reply call) := ask call fun reply => done (.ok reply)

/-- The program over another interface in which every question is answered by a program of its own. -/
def through {J : Interface} (answer : (call : I.Call) → Program J (I.Reply call)) : Program I α → Program J α
  | done outcome => done outcome
  | ask call next => (answer call).bind fun reply => (next reply).through answer

/-- The outcome of a program under an answerer, and the state it leaves. -/
def run (answer : Answerer I σ) : Program I α → σ → Except Fault α × σ
  | done outcome, s => (outcome, s)
  | ask call next, s =>
    let (reply, s) := answer call s
    (next reply).run answer s

/-- The outcome of a program whose questions are answered in a monad, where answers may have effects. -/
def perform {m : Type → Type} [Monad m] (answer : (call : I.Call) → m (I.Reply call)) :
    Program I α → m (Except Fault α)
  | done outcome => pure outcome
  | ask call next => do (next (← answer call)).perform answer

/-! ### Running -/

@[simp] theorem run_pure (answer : Answerer I σ) (value : α) (s : σ) :
    (pure value : Program I α).run answer s = (.ok value, s) := rfl

@[simp] theorem run_fail (answer : Answerer I σ) (fault : Fault) (s : σ) :
    (fail fault : Program I α).run answer s = (.error fault, s) := rfl

@[simp] theorem run_question (answer : Answerer I σ) (call : I.Call) (s : σ) :
    (question call).run answer s = (.ok (answer call s).1, (answer call s).2) := rfl

/-- A sequence runs its first part, and its second part where the first one stopped. -/
theorem run_bind (answer : Answerer I σ) (p : Program I α) (f : α → Program I β) (s : σ) :
    (p >>= f).run answer s =
      match p.run answer s with
      | (.ok value, t) => (f value).run answer t
      | (.error fault, t) => (.error fault, t) := by
  show (p.bind f).run answer s = _
  induction p generalizing s with
  | done outcome => cases outcome <;> rfl
  | ask call next ih => exact ih _ _

/-- An attempt leaves the same state and cannot fail. -/
theorem run_attempt (answer : Answerer I σ) (p : Program I α) (s : σ) :
    p.attempt.run answer s = (.ok (p.run answer s).1, (p.run answer s).2) := by
  induction p generalizing s with
  | done outcome => rfl
  | ask call next ih => exact ih _ _

end Program

end ClusterLease
