import ClusterLease.Proofs.Program.Conduct

/-!
Programs that refuse before they act.

`Ends` says in what outcomes a program may end as long as the answers it gets are expected ones.
`Commits` says that a program either ends before any answer tells that something was altered, or ends
late, in an outcome of some kind: so an outcome of any other kind means that nothing was altered
(`Commits.run`).
-/

namespace ClusterLease.Program

variable {I : Interface} {α β σ : Type} {expected alters : Event I → Prop}

/-- If the outcome is a fault, it is of some kind. -/
def Fails (kind : Fault → Prop) (outcome : Except Fault α) : Prop :=
  ∀ fault, outcome = .error fault → kind fault

@[simp] theorem fails_ok (kind : Fault → Prop) (value : α) : Fails kind (.ok value) :=
  fun _ h => by cases h

@[simp] theorem fails_error {kind : Fault → Prop} {fault : Fault} :
    Fails kind (.error fault : Except Fault α) ↔ kind fault :=
  ⟨fun h => h fault rfl, fun h _ heq => Except.error.inj heq ▸ h⟩

theorem Fails.imp {kind kind' : Fault → Prop} {outcome : Except Fault α} (h : Fails kind outcome)
    (hkind : ∀ fault, kind fault → kind' fault) : Fails kind' outcome :=
  fun fault hfault => hkind fault (h fault hfault)

/-- Two computations that can only fail in some way can only fail so together. -/
theorem Fails.bind {kind : Fault → Prop} {outcome : Except Fault α} {f : α → Except Fault β}
    (h : Fails kind outcome) (hf : ∀ value, Fails kind (f value)) : Fails kind (outcome >>= f) := by
  cases outcome with
  | ok value => exact hf value
  | error fault => exact fails_error.2 (fails_error.1 h)

theorem Fails.map {kind : Fault → Prop} {outcome : Except Fault α} (h : Fails kind outcome)
    (f : α → β) : Fails kind (outcome.map f) := by
  cases outcome with
  | ok value => exact fails_ok _ _
  | error fault => exact fails_error.2 (fails_error.1 h)

/-- As long as the answers are expected, the program ends in an outcome that meets a goal. -/
inductive Ends (expected : Event I → Prop) (goal : Except Fault α → Prop) : Program I α → Prop where
  | done {outcome : Except Fault α} (h : goal outcome) : Ends expected goal (.done outcome)
  | ask {call : I.Call} {next : I.Reply call → Program I α}
      (h : ∀ reply, expected ⟨call, reply⟩ → Ends expected goal (next reply)) :
      Ends expected goal (.ask call next)

/-- As long as the answers are expected, the program ends before any of them alters something, or it
ends in a late outcome. -/
inductive Commits (expected alters : Event I → Prop) (late : Except Fault α → Prop) :
    Program I α → Prop where
  | done {outcome : Except Fault α} : Commits expected alters late (.done outcome)
  | ask {call : I.Call} {next : I.Reply call → Program I α}
      (hlate : ∀ reply, expected ⟨call, reply⟩ → alters ⟨call, reply⟩ → (next reply).Ends expected late)
      (h : ∀ reply, expected ⟨call, reply⟩ → ¬alters ⟨call, reply⟩ →
        Commits expected alters late (next reply)) :
      Commits expected alters late (.ask call next)

variable {p : Program I α} {goal late : Except Fault α → Prop}

/-! ### Outcomes -/

theorem Ends.imp {goal' : Except Fault α → Prop} (h : p.Ends expected goal)
    (hgoal : ∀ outcome, goal outcome → goal' outcome) : p.Ends expected goal' := by
  induction h with
  | done h => exact .done (hgoal _ h)
  | ask _ ih => exact .ask ih

/-- What all outcomes have needs no look at the program. -/
theorem ends_of_forall (hgoal : ∀ outcome, goal outcome) (p : Program I α) : p.Ends expected goal := by
  induction p with
  | done outcome => exact .done (hgoal outcome)
  | ask call next ih => exact .ask fun reply _ => ih reply

theorem ends_ofExcept {outcome : Except Fault α} (h : goal outcome) :
    (ofExcept outcome : Program I α).Ends expected goal := .done h

/-- A program ends well if its first half does, and its second after each value of the first. -/
theorem Ends.bind {goal : Except Fault β → Prop} {middle : Except Fault α → Prop}
    {f : α → Program I β} (hp : p.Ends expected middle)
    (hok : ∀ value, middle (.ok value) → (f value).Ends expected goal)
    (herror : ∀ fault, middle (.error fault) → goal (.error fault)) : (p >>= f).Ends expected goal := by
  show (p.bind f).Ends expected goal
  induction hp with
  | @done outcome h =>
    cases outcome with
    | ok value => exact hok value h
    | error fault => exact .done (herror fault h)
  | ask _ ih => exact .ask ih

/-- A sequence fails as its parts do. -/
theorem Ends.fails_bind {kind : Fault → Prop} {f : α → Program I β} (hp : p.Ends expected (Fails kind))
    (hf : ∀ value, (f value).Ends expected (Fails kind)) : (p >>= f).Ends expected (Fails kind) :=
  hp.bind (fun value _ => hf value) fun _ h => fails_error.2 (fails_error.1 h)

/-- What is decided without asking is right, or the sequence ends with it. -/
theorem ends_ofExcept_bind {goal : Except Fault β → Prop} {outcome : Except Fault α}
    {f : α → Program I β} (hok : ∀ value, outcome = .ok value → (f value).Ends expected goal)
    (herror : ∀ fault, outcome = .error fault → goal (.error fault)) :
    (ofExcept outcome >>= f).Ends expected goal := by
  cases outcome with
  | ok value => exact hok value rfl
  | error fault => exact .done (herror fault rfl)

theorem Ends.attempt (hp : p.Ends expected goal) :
    p.attempt.Ends expected fun o => ∃ outcome, o = .ok outcome ∧ goal outcome := by
  induction hp with
  | @done outcome h => exact .done ⟨outcome, rfl, h⟩
  | ask _ ih => exact .ask ih

/-- What follows an attempt goes on with the outcome. -/
theorem Ends.attempt_bind {goal' : Except Fault β → Prop} {f : Except Fault α → Program I β}
    (hp : p.Ends expected goal) (hf : ∀ outcome, goal outcome → (f outcome).Ends expected goal') :
    (p.attempt >>= f).Ends expected goal' := by
  refine hp.attempt.bind ?_ ?_
  · rintro _ ⟨_, ⟨⟩, h⟩
    exact hf _ h
  · rintro _ ⟨_, hfalse, _⟩
    cases hfalse

/-- A goal that depends on the events only by their being expected is one about outcomes. -/
theorem ends_of_upholds {rule : List (Event I) → I.Call → Prop} {past : List (Event I)}
    (h : p.Upholds rule (fun o now => (∀ event ∈ now, expected event) → goal o) past)
    (hpast : ∀ event ∈ past, expected event) : p.Ends expected goal := by
  induction p generalizing past with
  | done outcome => exact .done (h hpast)
  | ask call next ih =>
    exact .ask fun reply hreply => ih reply (h.2 reply) (List.forall_mem_cons.2 ⟨hreply, hpast⟩)

/-- A program that ends well under expected answers upholds this as a goal on its past. -/
theorem Ends.upholds (h : p.Ends expected goal) (past : List (Event I)) :
    p.Upholds (fun _ _ => True) (fun o now => (∀ event ∈ now, expected event) → goal o) past := by
  -- An unexpected answer stays among the events, so that nothing is left to show after it.
  have hspoilt {now : List (Event I)} {event : Event I} (hmem : event ∈ now) (hnot : ¬expected event)
      (q : Program I α) :
      q.Upholds (fun _ _ => True) (fun o now => (∀ event ∈ now, expected event) → goal o) now := by
    induction q generalizing now with
    | done outcome => exact fun hall => absurd (hall event hmem) hnot
    | ask call next ih => exact ⟨trivial, fun reply => ih reply (List.mem_cons_of_mem _ hmem)⟩
  induction h generalizing past with
  | done h => exact fun _ => h
  | @ask call next _ ih =>
    refine ⟨trivial, fun reply => ?_⟩
    by_cases hreply : expected ⟨call, reply⟩
    · exact ih reply hreply _
    · exact hspoilt List.mem_cons_self hreply _

theorem Ends.run (h : p.Ends expected goal) {answer : Answerer I σ} {s : σ}
    (hexpected : ∀ event ∈ p.events answer s, expected event) : goal (p.run answer s).1 := by
  induction h generalizing s with
  | done h => exact h
  | ask _ ih =>
    obtain ⟨hfirst, hrest⟩ := List.forall_mem_cons.1 hexpected
    exact ih _ hfirst hrest

/-! ### Refusals -/

/-- A program that ends well without a decisive call has nothing to commit. -/
theorem Ends.commits (h : p.Ends expected late) : p.Commits expected alters late := by
  induction h with
  | done _ => exact .done
  | ask h ih => exact .ask (fun reply hreply _ => h reply hreply) fun reply hreply _ => ih reply hreply

/-- A program that asks no question whose answer could alter anything. -/
theorem Asks.commits {kind : I.Call → Prop} (hp : p.Asks kind)
    (hkind : ∀ event : Event I, kind event.call → ¬alters event) : p.Commits expected alters late := by
  induction p with
  | done outcome => exact .done
  | ask call next ih =>
    exact .ask (fun reply _ h => absurd h (hkind _ hp.1)) fun reply _ _ => ih reply (hp.2 reply)

/-- A sequence refuses if its parts do, and ends late if its first part has altered something. -/
theorem Commits.bind {late : Except Fault β → Prop} {middle : Except Fault α → Prop}
    {f : α → Program I β} (hp : p.Commits expected alters middle)
    (hf : ∀ value, (f value).Commits expected alters late)
    (hok : ∀ value, middle (.ok value) → (f value).Ends expected late)
    (herror : ∀ fault, middle (.error fault) → late (.error fault)) :
    (p >>= f).Commits expected alters late := by
  show (p.bind f).Commits expected alters late
  induction hp with
  | @done outcome =>
    cases outcome with
    | ok value => exact hf value
    | error fault => exact .done
  | ask hlate _ ih =>
    exact .ask (fun reply hreply halters => (hlate reply hreply halters).bind hok herror) ih

/-- What follows a committed program only has to end well. -/
theorem Commits.bind_ends {late : Except Fault β → Prop} {middle : Except Fault α → Prop}
    {f : α → Program I β} (hp : p.Commits expected alters middle)
    (hf : ∀ value, (f value).Ends expected late)
    (herror : ∀ fault, middle (.error fault) → late (.error fault)) :
    (p >>= f).Commits expected alters late :=
  hp.bind (fun value => (hf value).commits) (fun value _ => hf value) herror

/-- A first part that alters nothing leaves everything to the second. -/
theorem Asks.commits_bind {late : Except Fault β → Prop} {kind : I.Call → Prop} {f : α → Program I β}
    (hp : p.Asks kind) (hkind : ∀ event : Event I, kind event.call → ¬alters event)
    (hf : ∀ value, (f value).Commits expected alters late) :
    (p >>= f).Commits expected alters late := by
  have hnever : p.Commits expected alters fun _ => False := hp.commits hkind
  exact hnever.bind hf (fun _ => False.elim) fun _ => False.elim

/-- What is decided without asking alters nothing. -/
theorem commits_ofExcept_bind {late : Except Fault β → Prop} {outcome : Except Fault α}
    {f : α → Program I β} (hf : ∀ value, outcome = .ok value → (f value).Commits expected alters late) :
    (ofExcept outcome >>= f).Commits expected alters late := by
  cases outcome with
  | ok value => exact hf value rfl
  | error fault => exact .done

/-- What follows an attempt goes on with an outcome that is late if something was altered. -/
theorem Commits.attempt_bind {late' : Except Fault β → Prop} {f : Except Fault α → Program I β}
    (hp : p.Commits expected alters late)
    (hf : ∀ outcome, (f outcome).Commits expected alters late')
    (hlate : ∀ outcome, late outcome → (f outcome).Ends expected late') :
    (p.attempt >>= f).Commits expected alters late' := by
  show (p.attempt.bind f).Commits expected alters late'
  induction hp with
  | @done outcome => exact hf outcome
  | ask h _ ih => exact .ask (fun reply hreply halters => (h reply hreply halters).attempt_bind hlate) ih

/-- A run altered nothing, or it ended late. -/
theorem Commits.run (h : p.Commits expected alters late) {answer : Answerer I σ} {s : σ}
    (hexpected : ∀ event ∈ p.events answer s, expected event) :
    (∀ event ∈ p.events answer s, ¬alters event) ∨ late (p.run answer s).1 := by
  induction h generalizing s with
  | done => exact .inl fun event hevent => by cases hevent
  | @ask call next hlate _ ih =>
    obtain ⟨hfirst, hrest⟩ := List.forall_mem_cons.1 hexpected
    by_cases halters : alters ⟨call, (answer call s).1⟩
    · exact .inr ((hlate _ hfirst halters).run hrest)
    · exact (ih _ hfirst halters hrest).imp_left fun hnone => List.forall_mem_cons.2 ⟨halters, hnone⟩

/-- What only alterations change, a run without any leaves as it was. -/
theorem run_unaltered {ρ : Type} {answer : Answerer I σ} {record : σ → ρ}
    (hrecord : ∀ call s, ¬alters ⟨call, (answer call s).1⟩ → record (answer call s).2 = record s)
    {p : Program I α} {s : σ} (hnone : ∀ event ∈ p.events answer s, ¬alters event) :
    record (p.run answer s).2 = record s := by
  induction p generalizing s with
  | done outcome => rfl
  | ask call next ih =>
    obtain ⟨hfirst, hrest⟩ := List.forall_mem_cons.1 hnone
    exact (ih _ hrest).trans (hrecord call s hfirst)

end ClusterLease.Program
