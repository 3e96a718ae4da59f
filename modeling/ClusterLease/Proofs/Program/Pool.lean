import ClusterLease.Proofs.Program.Conduct

/-!
Programs that run side by side.

A `Pool` holds programs that have come some way, and the state that all of them share. A schedule
says who asks next, one question at a time, and under which circumstances the answer is given, such
as the time of day. Every program keeps the rule that it upholds (`Pool.Upholds.step`), whatever the
others do in between. So an invariant of the state and of all events holds after every schedule if
the answers that the rules allow keep it (`Pool.after_keeps`).
-/

namespace ClusterLease

/-- The events of all programs so far, each with the number of its program and the latest one first;
what is left of the programs; and the state. -/
structure Pool (I : Interface) (α σ : Type) where
  trace : List (Nat × Event I)
  rests : List (Program I α)
  state : σ

namespace Pool

variable {I : Interface} {α σ τ : Type}

/-- A pool before any step, with all programs whole and nothing in its trace. -/
def start (programs : List (Program I α)) (s : σ) : Pool I α σ := ⟨[], programs, s⟩

/-- The events of one program. -/
def pastOf (trace : List (Nat × Event I)) (i : Nat) : List (Event I) :=
  trace.filterMap fun (j, event) => if j = i then some event else none

/-- One program asks its next question. Nothing happens if it is done. -/
def step (answer : Answerer I σ) (pool : Pool I α σ) (i : Nat) : Pool I α σ :=
  match pool.rests[i]? with
  | some (.ask call next) =>
    ⟨(i, ⟨call, (answer call pool.state).1⟩) :: pool.trace,
      pool.rests.set i (next (answer call pool.state).1), (answer call pool.state).2⟩
  | _ => pool

/-- Programs ask one after another, as a schedule has it, each under its own circumstances. -/
def after (answer : τ → Answerer I σ) (pool : Pool I α σ) (schedule : List (Nat × τ)) : Pool I α σ :=
  schedule.foldl (fun pool (i, circumstances) => pool.step (answer circumstances) i) pool

/-- The outcome of a program that is done. -/
def outcome? (pool : Pool I α σ) (i : Nat) : Option (Except Fault α) :=
  match pool.rests[i]? with
  | some (.done outcome) => some outcome
  | _ => none

/-- The value of a program that has succeeded. -/
def value? (pool : Pool I α σ) (i : Nat) : Option α := (pool.outcome? i).bind Except.toOption

/-- A program that has a value is done, with the value as its outcome. -/
theorem outcome?_of_value? {pool : Pool I α σ} {i : Nat} {value : α} (h : pool.value? i = some value) :
    pool.outcome? i = some (.ok value) := by
  rw [value?, Option.bind_eq_some_iff] at h
  obtain ⟨outcome, houtcome, hvalue⟩ := h
  cases outcome with
  | ok _ => rw [houtcome, Option.some.inj hvalue]
  | error fault => cases hvalue

/-- A program that is done without a value has failed. -/
theorem outcome?_of_value?_eq_none {pool : Pool I α σ} {i : Nat} (hdone : (pool.outcome? i).isSome)
    (hnone : pool.value? i = none) : ∃ fault, pool.outcome? i = some (.error fault) := by
  obtain ⟨outcome, houtcome⟩ := Option.isSome_iff_exists.1 hdone
  cases outcome with
  | ok value =>
    rw [value?, houtcome] at hnone
    cases hnone
  | error fault => exact ⟨fault, houtcome⟩

/-! ### Events -/

variable {trace : List (Nat × Event I)} {i j : Nat} {event : Event I}

@[simp] theorem pastOf_cons_self : pastOf ((i, event) :: trace) i = event :: pastOf trace i := by
  simp [pastOf]

theorem pastOf_cons_of_ne (h : j ≠ i) : pastOf ((j, event) :: trace) i = pastOf trace i := by
  simp [pastOf, h]

/-- A program's past is what the trace has under its number. -/
theorem mem_pastOf : event ∈ pastOf trace i ↔ (i, event) ∈ trace := by
  rw [pastOf, List.mem_filterMap]
  constructor
  · rintro ⟨⟨j, other⟩, hmem, heq⟩
    dsimp only at heq
    split at heq
    · next hj => rwa [hj, Option.some.inj heq] at hmem
    · cases heq
  · exact fun hmem => ⟨(i, event), hmem, if_pos rfl⟩

/-! ### Steps -/

variable {answer : Answerer I σ} {pool : Pool I α σ}

/-- A step does nothing, or one program gets one answer. -/
theorem step_cases (answer : Answerer I σ) (pool : Pool I α σ) (i : Nat) :
    pool.step answer i = pool ∨ ∃ call next, pool.rests[i]? = some (.ask call next) ∧
      pool.step answer i = ⟨(i, ⟨call, (answer call pool.state).1⟩) :: pool.trace,
        pool.rests.set i (next (answer call pool.state).1), (answer call pool.state).2⟩ := by
  rw [step]
  split
  · next call next h => exact .inr ⟨call, next, h, rfl⟩
  · exact .inl rfl

/-- Every program upholds its rule from where it is, and leads to its goal. -/
def Upholds (rule : Nat → List (Event I) → I.Call → Prop)
    (goal : Nat → Except Fault α → List (Event I) → Prop) (pool : Pool I α σ) : Prop :=
  ∀ i (p : Program I α), pool.rests[i]? = some p →
    p.Upholds (rule i) (goal i) (pastOf pool.trace i)

variable {rule : Nat → List (Event I) → I.Call → Prop}
  {goal : Nat → Except Fault α → List (Event I) → Prop}

/-- A pool upholds at its start what its programs uphold one by one. -/
theorem upholds_start {programs : List (Program I α)} (s : σ)
    (h : ∀ i (p : Program I α), programs[i]? = some p → p.Upholds (rule i) (goal i) []) :
    (start programs s).Upholds rule goal := h

/-- A program that is done has reached its goal. -/
theorem Upholds.goal_of_outcome {outcome : Except Fault α} (h : pool.Upholds rule goal)
    (houtcome : pool.outcome? i = some outcome) : goal i outcome (pastOf pool.trace i) := by
  rw [outcome?] at houtcome
  split at houtcome
  · next other hrest =>
    obtain rfl := Option.some.inj houtcome
    exact h i _ hrest
  · cases houtcome

/-- A step moves one program along what it upholds, and leaves the others where they are. -/
theorem Upholds.step (h : pool.Upholds rule goal) (answer : Answerer I σ) (i : Nat) :
    (pool.step answer i).Upholds rule goal := by
  rcases step_cases answer pool i with heq | ⟨call, next, hrest, heq⟩
  · rwa [heq]
  · rw [heq]
    intro j p hp
    by_cases hj : i = j
    · subst hj
      have hlt := (List.getElem?_eq_some_iff.1 hrest).1
      rw [List.getElem?_set_self hlt] at hp
      obtain rfl := Option.some.inj hp
      rw [pastOf_cons_self]
      exact (h i _ hrest).2 _
    · -- The other programs are where they were, and so are their events.
      rw [List.getElem?_set_ne hj] at hp
      rw [pastOf_cons_of_ne hj]
      exact h j p hp

/-! ### Schedules -/

theorem after_append (answerAt : τ → Answerer I σ) (pool : Pool I α σ)
    (schedule rest : List (Nat × τ)) :
    pool.after answerAt (schedule ++ rest) = (pool.after answerAt schedule).after answerAt rest :=
  List.foldl_append

theorem trace_suffix (answerAt : τ → Answerer I σ) (pool : Pool I α σ) (schedule : List (Nat × τ)) :
    pool.trace <:+ (pool.after answerAt schedule).trace := by
  induction schedule generalizing pool with
  | nil => exact List.suffix_refl _
  | cons slot rest ih =>
    obtain ⟨i, circumstances⟩ := slot
    refine List.IsSuffix.trans ?_ (ih (pool.step (answerAt circumstances) i))
    rcases step_cases (answerAt circumstances) pool i with heq | ⟨call, next, -, heq⟩
    · exact ⟨[], (congrArg Pool.trace heq).symm⟩
    · rw [heq]
      exact List.suffix_cons _ _

/-- Answers that the rules allow keep an invariant of all events and the state, where `fair` are the
circumstances under which they are given. -/
def Keeps (answer : τ → Answerer I σ) (fair : τ → Prop)
    (rule : Nat → List (Event I) → I.Call → Prop) (Inv : List (Nat × Event I) → σ → Prop) : Prop :=
  ∀ trace s i circumstances call, fair circumstances → Inv trace s → rule i (pastOf trace i) call →
    Inv ((i, ⟨call, (answer circumstances call s).1⟩) :: trace) (answer circumstances call s).2

variable {answerAt : τ → Answerer I σ} {fair : τ → Prop} {Inv : List (Nat × Event I) → σ → Prop}

/-- One step keeps the invariant, since the program that moves makes a call that its rule allows. -/
theorem Keeps.step (hkeeps : Keeps answerAt fair rule Inv) (h : pool.Upholds rule goal)
    (hinv : Inv pool.trace pool.state) {circumstances : τ} (hfair : fair circumstances) (i : Nat) :
    Inv (pool.step (answerAt circumstances) i).trace (pool.step (answerAt circumstances) i).state := by
  rcases step_cases (answerAt circumstances) pool i with heq | ⟨call, next, hrest, heq⟩
  · rwa [heq]
  · rw [heq]
    exact hkeeps _ _ i circumstances call hfair hinv (h i _ hrest).1

/-- What rules keep up, every schedule keeps up. -/
theorem after_keeps (hkeeps : Keeps answerAt fair rule Inv) (h : pool.Upholds rule goal)
    (hinv : Inv pool.trace pool.state) {schedule : List (Nat × τ)}
    (hfair : ∀ slot ∈ schedule, fair slot.2) :
    (pool.after answerAt schedule).Upholds rule goal ∧
      Inv (pool.after answerAt schedule).trace (pool.after answerAt schedule).state := by
  induction schedule generalizing pool with
  | nil => exact ⟨h, hinv⟩
  | cons slot rest ih =>
    obtain ⟨i, circumstances⟩ := slot
    -- One step first, and then the rest of the schedule by induction.
    have hstep := hkeeps.step h hinv (hfair _ List.mem_cons_self) i
    exact ih (h.step _ i) hstep fun other hother => hfair other (List.mem_cons_of_mem _ hother)

end Pool

end ClusterLease
