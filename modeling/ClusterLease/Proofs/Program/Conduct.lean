import ClusterLease.Program

/-!
What a program asks, whoever answers.

`Program.events` lists the questions of a run with their answers. Two judgements speak about a
program without naming anyone who answers: `Asks` says that all questions are of some kind, and
`Upholds` that every question keeps a rule about the events before it and that the outcome meets a
goal. `Upholds.run` takes such a judgement to every run, which then `Follows` the rule, and
`Asks.preserves` turns a fact about single answers into one about runs. `Proceeds` speaks about the
run under one answerer, and about all states that it goes through, and `Parallel` about two runs from
related states.
-/

namespace ClusterLease

/-- A question and the answer that it got. -/
structure Event (I : Interface) where
  call : I.Call
  reply : I.Reply call

namespace Program

variable {I : Interface} {α β σ : Type}

/-- The questions of a run with their answers, the first one first. -/
def events (answer : Answerer I σ) : Program I α → σ → List (Event I)
  | done _, _ => []
  | ask call next, s => ⟨call, (answer call s).1⟩ :: (next (answer call s).1).events answer
    (answer call s).2

/-- Every question of the program is of some kind, whatever the answers are. -/
def Asks (kind : I.Call → Prop) : Program I α → Prop
  | done _ => True
  | ask call next => kind call ∧ ∀ reply, (next reply).Asks kind

theorem asks_pure (kind : I.Call → Prop) (value : α) : (pure value : Program I α).Asks kind :=
  trivial

theorem asks_fail (kind : I.Call → Prop) (fault : Fault) : (fail fault : Program I α).Asks kind :=
  trivial

theorem asks_ofExcept (kind : I.Call → Prop) (outcome : Except Fault α) :
    (ofExcept outcome : Program I α).Asks kind := trivial

theorem asks_question {kind : I.Call → Prop} {call : I.Call} (h : kind call) :
    (question call : Program I (I.Reply call)).Asks kind := ⟨h, fun _ => trivial⟩

/-- A program asks calls of a kind if each of the two that it is put together from does. -/
theorem Asks.bind {kind : I.Call → Prop} {p : Program I α} {f : α → Program I β} (hp : p.Asks kind)
    (hf : ∀ value, (f value).Asks kind) : (p >>= f).Asks kind := by
  show (p.bind f).Asks kind
  induction p with
  | done outcome =>
    cases outcome with
    | ok value => exact hf value
    -- A fault ends the sequence, so that the second part is never asked.
    | error fault => trivial
  | ask call next ih => exact ⟨hp.1, fun reply => ih reply (hp.2 reply)⟩

theorem Asks.attempt {kind : I.Call → Prop} {p : Program I α} (hp : p.Asks kind) :
    p.attempt.Asks kind := by
  induction p with
  | done outcome => trivial
  | ask call next ih => exact ⟨hp.1, fun reply => ih reply (hp.2 reply)⟩

/-- A program whose questions are answered by programs asks what these ask. -/
theorem asks_through {J : Interface} {kind : J.Call → Prop}
    {answer : (call : I.Call) → Program J (I.Reply call)}
    (hanswer : ∀ call, (answer call).Asks kind) (p : Program I α) :
    (p.through answer).Asks kind := by
  induction p with
  | done outcome => trivial
  | ask call next ih => exact Asks.bind (hanswer call) fun reply => ih reply

theorem Asks.mono {kind wider : I.Call → Prop} (h : ∀ call, kind call → wider call)
    {p : Program I α} (hp : p.Asks kind) : p.Asks wider := by
  induction p with
  | done outcome => trivial
  | ask call next ih => exact ⟨h call hp.1, fun reply => ih reply (hp.2 reply)⟩

/-- What every single answer does to the state, a run of such answers does as well. -/
theorem Asks.preserves {kind : I.Call → Prop} {p : Program I α} (hp : p.Asks kind)
    {answer : Answerer I σ} (R : σ → σ → Prop) (refl : ∀ s, R s s)
    (trans : ∀ {s t u}, R s t → R t u → R s u) (step : ∀ call s, kind call → R s (answer call s).2)
    (s : σ) : R s (p.run answer s).2 := by
  induction p generalizing s with
  | done outcome => exact refl s
  -- One answer first, and then the rest of the run by induction.
  | ask call next ih => exact trans (step call s hp.1) (ih _ (hp.2 _) _)

/-- Two answerers that agree up to a view of the state have runs that agree up to it. -/
theorem run_map {τ : Type} {answer : Answerer I σ} {answer' : Answerer I τ} (view : σ → τ)
    (h : ∀ call s, answer' call (view s) = ((answer call s).1, view (answer call s).2))
    (p : Program I α) (s : σ) :
    p.run answer' (view s) = ((p.run answer s).1, view (p.run answer s).2) := by
  induction p generalizing s with
  | done outcome => rfl
  | ask call next ih =>
    -- Both runs get the same answer, so they go on with the same program.
    show (next (answer' call (view s)).1).run answer' (answer' call (view s)).2 = _
    rw [h]
    exact ih _ _

/-- It is enough that the answerers agree about the questions of the program. -/
theorem Asks.run_map {τ : Type} {kind : I.Call → Prop} {answer : Answerer I σ}
    {answer' : Answerer I τ} {p : Program I α} (hp : p.Asks kind) (view : σ → τ)
    (h : ∀ call s, kind call →
      answer' call (view s) = ((answer call s).1, view (answer call s).2)) (s : σ) :
    p.run answer' (view s) = ((p.run answer s).1, view (p.run answer s).2) := by
  induction p generalizing s with
  | done outcome => rfl
  | ask call next ih =>
    show (next (answer' call (view s)).1).run answer' (answer' call (view s)).2 = _
    rw [h call s hp.1]
    exact ih _ (hp.2 _) _

/-! ### Rules about the events so far -/

/-- Every question of the program keeps a rule about the events before it, whatever the answers are,
and the outcome and all events meet a goal. Events are given with the latest one first. -/
def Upholds (rule : List (Event I) → I.Call → Prop)
    (goal : Except Fault α → List (Event I) → Prop) :
    Program I α → List (Event I) → Prop
  | done outcome, past => goal outcome past
  | ask call next, past => rule past call ∧
    ∀ reply, (next reply).Upholds rule goal (⟨call, reply⟩ :: past)

variable {rule : List (Event I) → I.Call → Prop} {goal : Except Fault α → List (Event I) → Prop}
  {past : List (Event I)} {p : Program I α}

@[simp] theorem upholds_pure (value : α) :
    (pure value : Program I α).Upholds rule goal past = goal (.ok value) past := rfl

@[simp] theorem upholds_fail (fault : Fault) :
    (fail fault : Program I α).Upholds rule goal past = goal (.error fault) past := rfl

@[simp] theorem upholds_ofExcept (outcome : Except Fault α) :
    (ofExcept outcome : Program I α).Upholds rule goal past = goal outcome past := rfl

/-- What is left to show of the second part of a sequence, where the first part has stopped. -/
def Then (rule : List (Event I) → I.Call → Prop) (goal : Except Fault β → List (Event I) → Prop)
    (f : α → Program I β) (outcome : Except Fault α) (past : List (Event I)) : Prop :=
  match outcome with
  | .ok value => (f value).Upholds rule goal past
  | .error fault => goal (.error fault) past

/-- A sequence upholds a rule if its first part does, and leads to where the second part does. -/
theorem upholds_bind {goal : Except Fault β → List (Event I) → Prop} {f : α → Program I β} :
    (p >>= f).Upholds rule goal past ↔ p.Upholds rule (Then rule goal f) past := by
  show (p.bind f).Upholds rule goal past ↔ _
  induction p generalizing past with
  | done outcome => cases outcome <;> rfl
  | ask call next ih => exact and_congr_right fun _ => forall_congr' fun reply => ih reply

theorem upholds_attempt {goal : Except Fault (Except Fault α) → List (Event I) → Prop} :
    p.attempt.Upholds rule goal past ↔
      p.Upholds rule (fun outcome now => goal (.ok outcome) now) past := by
  induction p generalizing past with
  | done outcome => rfl
  | ask call next ih => exact and_congr_right fun _ => forall_congr' fun reply => ih reply

/-- A rule may be loosened and a goal widened, the goal only over what is added to the past. -/
theorem Upholds.mono {rule' : List (Event I) → I.Call → Prop}
    {goal' : Except Fault α → List (Event I) → Prop} (h : p.Upholds rule goal past)
    (hrule : ∀ now call, rule now call → rule' now call)
    (hgoal : ∀ outcome now, past <:+ now → goal outcome now → goal' outcome now) :
    p.Upholds rule' goal' past := by
  induction p generalizing past with
  | done outcome => exact hgoal outcome past (List.suffix_refl _) h
  | ask call next ih =>
    refine ⟨hrule past call h.1, fun reply => ih reply (h.2 reply) fun outcome now hnow => ?_⟩
    exact hgoal outcome now ((List.suffix_cons _ _).trans hnow)

theorem Upholds.imp {goal' : Except Fault α → List (Event I) → Prop} (h : p.Upholds rule goal past)
    (hgoal : ∀ outcome now, past <:+ now → goal outcome now → goal' outcome now) :
    p.Upholds rule goal' past :=
  h.mono (fun _ _ hrule => hrule) hgoal

theorem Upholds.and {goal' : Except Fault α → List (Event I) → Prop} (h : p.Upholds rule goal past)
    (h' : p.Upholds rule goal' past) :
    p.Upholds rule (fun outcome now => goal outcome now ∧ goal' outcome now) past := by
  induction p generalizing past with
  | done outcome => exact ⟨h, h'⟩
  | ask call next ih => exact ⟨h.1, fun reply => ih reply (h.2 reply) (h'.2 reply)⟩

/-- Two rules with their goals, at the same questions. -/
theorem Upholds.both {rule' : List (Event I) → I.Call → Prop}
    {goal' : Except Fault α → List (Event I) → Prop} (h : p.Upholds rule goal past)
    (h' : p.Upholds rule' goal' past) :
    p.Upholds (fun now call => rule now call ∧ rule' now call)
      (fun outcome now => goal outcome now ∧ goal' outcome now) past := by
  induction p generalizing past with
  | done outcome => exact ⟨h, h'⟩
  | ask call next ih => exact ⟨⟨h.1, h'.1⟩, fun reply => ih reply (h.2 reply) (h'.2 reply)⟩

/-- Questions of some kind keep an invariant of the events, which allows them under a rule. -/
structure Steady (kind : I.Call → Prop) (rule : List (Event I) → I.Call → Prop)
    (Inv : List (Event I) → Prop) :
    Prop where
  allowed : ∀ {now call}, kind call → Inv now → rule now call
  kept : ∀ {now} {event : Event I}, kind event.call → Inv now → Inv (event :: now)

/-- A program that asks only steady questions upholds the rule and leaves the invariant true. -/
theorem Asks.upholds {kind : I.Call → Prop} (hp : p.Asks kind) {Inv : List (Event I) → Prop}
    (hsteady : Steady kind rule Inv) (h : Inv past) :
    p.Upholds rule (fun _ now => Inv now) past := by
  induction p generalizing past with
  | done outcome => exact h
  | ask call next ih =>
    exact ⟨hsteady.allowed hp.1 h, fun reply => ih reply (hp.2 reply) (hsteady.kept hp.1 h)⟩

/-- A run of a program that upholds a rule keeps it at every event, and meets the goal. -/
theorem Upholds.run (h : p.Upholds rule goal past) (answer : Answerer I σ) (s : σ) :
    goal (p.run answer s).1 ((p.events answer s).reverse ++ past) ∧
      ∀ before event after, p.events answer s = before ++ event :: after →
        rule (before.reverse ++ past) event.call := by
  induction p generalizing s past with
  | done outcome =>
    refine ⟨h, fun before event after heq => ?_⟩
    cases before <;> simp [events] at heq
  | ask call next ih =>
    -- The rest of the run is one of the rest of the program, after one more event.
    obtain ⟨hgoal, hrule⟩ := ih _ (h.2 (answer call s).1) (answer call s).2
    refine ⟨?_, fun before event after heq => ?_⟩
    · simpa [events, run] using hgoal
    · cases before with
      | nil =>
        obtain ⟨rfl, -⟩ := List.cons.inj heq
        exact h.1
      | cons first before =>
        obtain ⟨rfl, hrest⟩ := List.cons.inj heq
        simpa using hrule before event after hrest

/-- Every question of a run keeps a rule about the events before it, of which the latest one comes
first. -/
def Follows (rule : List (Event I) → I.Call → Prop) (events : List (Event I)) : Prop :=
  ∀ before event after, events = before ++ event :: after → rule before.reverse event.call

/-- A run from the beginning follows the rule that its program upholds. -/
theorem Upholds.follows (h : p.Upholds rule goal []) (answer : Answerer I σ) (s : σ) :
    Follows rule (p.events answer s) := by
  intro before event after heq
  simpa using (h.run answer s).2 before event after heq

theorem Upholds.outcome (h : p.Upholds rule goal []) (answer : Answerer I σ) (s : σ) :
    goal (p.run answer s).1 (p.events answer s).reverse := by
  simpa using (h.run answer s).1

/-! ### The states of a run -/

/-- Under an answerer, every question of the program is asked in a state that allows it, and the
outcome and the last state meet a goal. -/
def Proceeds (answer : Answerer I σ) (allowed : σ → I.Call → Prop)
    (goal : Except Fault α → σ → Prop) :
    Program I α → σ → Prop
  | done outcome, s => goal outcome s
  | ask call next, s => allowed s call ∧
    (next (answer call s).1).Proceeds answer allowed goal (answer call s).2

/-- Every state that a run goes through is of some kind, the first one and the last one included. -/
def Throughout (answer : Answerer I σ) (kind : σ → Prop) (p : Program I α) (s : σ) : Prop :=
  p.Proceeds answer (fun s _ => kind s) (fun _ s => kind s) s

section Proceeds

variable {answer : Answerer I σ} {allowed : σ → I.Call → Prop} {goal : Except Fault α → σ → Prop}
    {s : σ}

/-- A sequence proceeds if its first part does, and leads to where the second part does. -/
theorem Proceeds.bind {middle : Except Fault α → σ → Prop} {goal : Except Fault β → σ → Prop}
    {f : α → Program I β} (hp : p.Proceeds answer allowed middle s)
    (hok : ∀ value t, middle (.ok value) t → (f value).Proceeds answer allowed goal t)
    (herror : ∀ fault t, middle (.error fault) t → goal (.error fault) t) :
    (p >>= f).Proceeds answer allowed goal s := by
  show (p.bind f).Proceeds answer allowed goal s
  induction p generalizing s with
  | done outcome =>
    cases outcome with
    | ok value => exact hok value s hp
    | error fault => exact herror fault s hp
  | ask call next ih => exact ⟨hp.1, ih _ hp.2⟩

/-- A computed step makes no call, so that the state stays and its two outcomes are looked at. -/
theorem proceeds_ofExcept_bind {goal : Except Fault β → σ → Prop} {outcome : Except Fault α}
    {f : α → Program I β}
    (hok : ∀ value, outcome = .ok value → (f value).Proceeds answer allowed goal s)
    (herror : ∀ fault, outcome = .error fault → goal (.error fault) s) :
    (ofExcept outcome >>= f).Proceeds answer allowed goal s := by
  cases outcome with
  | ok value => exact hok value rfl
  | error fault => exact herror fault rfl

theorem Proceeds.attempt {goal : Except Fault (Except Fault α) → σ → Prop}
    (hp : p.Proceeds answer allowed (fun outcome t => goal (.ok outcome) t) s) :
    p.attempt.Proceeds answer allowed goal s := by
  induction p generalizing s with
  | done outcome => exact hp
  | ask call next ih => exact ⟨hp.1, ih _ hp.2⟩

/-- What a program may do and what it reaches may both be widened. -/
theorem Proceeds.mono {wider : σ → I.Call → Prop} {goal' : Except Fault α → σ → Prop}
    (hp : p.Proceeds answer allowed goal s) (hallowed : ∀ t call, allowed t call → wider t call)
    (hgoal : ∀ outcome t, goal outcome t → goal' outcome t) : p.Proceeds answer wider goal' s := by
  induction p generalizing s with
  | done outcome => exact hgoal outcome s hp
  | ask call next ih => exact ⟨hallowed s call hp.1, ih _ hp.2⟩

theorem Proceeds.imp {goal' : Except Fault α → σ → Prop} (hp : p.Proceeds answer allowed goal s)
    (hgoal : ∀ outcome t, goal outcome t → goal' outcome t) : p.Proceeds answer allowed goal' s :=
  hp.mono (fun _ _ h => h) hgoal

theorem Throughout.mono {kind wider : σ → Prop} (hp : p.Throughout answer kind s)
    (himp : ∀ t, kind t → wider t) :
    p.Throughout answer wider s := Proceeds.mono hp (fun t _ h => himp t h) fun _ t h => himp t h

theorem Proceeds.reached (hp : p.Proceeds answer allowed goal s) :
    goal (p.run answer s).1 (p.run answer s).2 := by
  induction p generalizing s with
  | done outcome => exact hp
  | ask call next ih => exact ih _ hp.2

/-- What is allowed of questions by their answers holds of all events. -/
theorem Proceeds.events {expected : Event I → Prop}
    (hp : p.Proceeds answer (fun t call => expected ⟨call, (answer call t).1⟩) goal s) :
    ∀ event ∈ p.events answer s, expected event := by
  induction p generalizing s with
  | done outcome =>
    intro event hevent
    cases hevent
  | ask call next ih => exact List.forall_mem_cons.2 ⟨hp.1, ih _ hp.2⟩

/-- What is known of the outcome and the last state of a run can be added to the goal. -/
theorem Proceeds.of_run (goal' : Except Fault α → σ → Prop) (hp : p.Proceeds answer allowed goal s)
    (hrun : goal' (p.run answer s).1 (p.run answer s).2) :
    p.Proceeds answer allowed (fun outcome t => goal outcome t ∧ goal' outcome t) s := by
  induction p generalizing s with
  | done outcome => exact ⟨hp, hrun⟩
  | ask call next ih => exact ⟨hp.1, ih _ hp.2 hrun⟩

/-- A program proceeds as long as its questions are of a kind that keeps the states where they are
allowed. -/
theorem Asks.proceeds {kind : I.Call → Prop} {keeps : σ → Prop} (hp : p.Asks kind)
    (hallowed : ∀ t call, keeps t → kind call → allowed t call)
    (hkept : ∀ t call, keeps t → kind call → keeps (answer call t).2) (h : keeps s) :
    p.Proceeds answer allowed (fun _ t => keeps t) s := by
  induction p generalizing s with
  | done outcome => exact h
  | ask call next ih => exact ⟨hallowed s call h hp.1, ih _ (hp.2 _) (hkept s call h hp.1)⟩

end Proceeds

/-! ### Two runs -/

/-- Runs from related states have the same outcome, and end in related states. -/
def Parallel (answer : Answerer I σ) (R : σ → σ → Prop) (p : Program I α) : Prop :=
  ∀ s t, R s t → (p.run answer s).1 = (p.run answer t).1 ∧ R (p.run answer s).2 (p.run answer t).2

section Parallel

variable {answer : Answerer I σ} {R : σ → σ → Prop}

theorem parallel_pure (value : α) : (pure value : Program I α).Parallel answer R :=
  fun _ _ h => ⟨rfl, h⟩

theorem parallel_fail (fault : Fault) : (fail fault : Program I α).Parallel answer R :=
  fun _ _ h => ⟨rfl, h⟩

/-- A sequence goes on with the same value in both runs. -/
theorem Parallel.bind {f : α → Program I β} (hp : p.Parallel answer R)
    (hf : ∀ value, (f value).Parallel answer R) : (p >>= f).Parallel answer R := by
  intro s t h
  obtain ⟨houtcome, hstates⟩ := hp s t h
  rw [run_bind, run_bind]
  cases hs : p.run answer s with
  | mk outcome s' =>
  cases ht : p.run answer t with
  | mk outcome' t' =>
  rw [hs, ht] at houtcome hstates
  obtain rfl : outcome = outcome' := houtcome
  cases outcome with
  | ok value => exact hf value s' t' hstates
  | error fault => exact ⟨rfl, hstates⟩

theorem Parallel.attempt (hp : p.Parallel answer R) : p.attempt.Parallel answer R := by
  intro s t h
  obtain ⟨houtcome, hstates⟩ := hp s t h
  rw [run_attempt, run_attempt]
  exact ⟨congrArg Except.ok houtcome, hstates⟩

end Parallel

end Program

end ClusterLease
