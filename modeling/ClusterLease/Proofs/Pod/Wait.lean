import Mathlib.Data.Rat.Floor
import ClusterLease.Pod.Runtime

/-!
Waiting for a pod always ends, and in the right verdict.

A wait looks at its pod again and again, and nothing limits how often but the deadline: `Awaits` is such
a wait, with the number of its looks. A program needs some limit to the number of its readings, but one
that is too great to be met changes nothing (`Awaits.run`).

On exact times the wait for `T` with pauses of `p` makes at most `⌈T / p⌉ + 1` readings, of which the last
one is made at the deadline or after it. The first reading that is decisive settles the outcome; without
one the wait is over at the deadline (`start_ends`).
-/

namespace ClusterLease.Pod

variable {τ σ : Type}

/-! ### Waits without a limit -/

/-- A wait that goes on until a look is the last one, after so many looks. -/
inductive Awaits [Timeline τ] (settings : Settings τ) (name : String) (deadline : τ)
    (answer : Answerer (interface τ) σ) : (looks : Nat) → σ → Except Fault Unit → σ → Prop where
  | runs {s t : σ} (h : (look settings name deadline).run answer s = (.ok true, t)) :
      Awaits settings name deadline answer 1 s (.ok ()) t
  | fails {s t : σ} {fault : Fault} (h : (look settings name deadline).run answer s = (.error fault, t)) :
      Awaits settings name deadline answer 1 s (.error fault) t
  | again {s t last : σ} {outcome : Except Fault Unit} {looks : Nat}
      (h : (look settings name deadline).run answer s = (.ok false, t))
      (hrest : Awaits settings name deadline answer looks t outcome last) :
      Awaits settings name deadline answer (looks + 1) s outcome last

/-- Waiting with readings left is one look, and after an undecided one the same with a reading less. -/
theorem run_awaitRunning_succ [Timeline τ] (settings : Settings τ) (name : String) (deadline : τ)
    (answer : Answerer (interface τ) σ) (readings : Nat) (s : σ) :
    (awaitRunning settings name deadline (readings + 1)).run answer s =
      match (look settings name deadline).run answer s with
      | (.ok true, t) => (.ok (), t)
      | (.ok false, t) => (awaitRunning settings name deadline readings).run answer t
      | (.error fault, t) => (.error fault, t) := by
  rw [awaitRunning, Program.run_bind]
  cases (look settings name deadline).run answer s with
  | mk outcome t =>
    cases outcome with
    | error fault => rfl
    | ok runs => cases runs <;> rfl

/-- A wait that ends is not changed by a limit that it does not reach. -/
theorem Awaits.run [Timeline τ] {settings : Settings τ} {name : String} {deadline : τ}
    {answer : Answerer (interface τ) σ} {looks readings : Nat} {s last : σ} {outcome : Except Fault Unit}
    (h : Awaits settings name deadline answer looks s outcome last) (hlimit : looks ≤ readings) :
    (awaitRunning settings name deadline readings).run answer s = (outcome, last) := by
  induction h generalizing readings with
  | runs h | fails h =>
    obtain ⟨rest, rfl⟩ := Nat.exists_eq_add_of_le' hlimit
    rw [run_awaitRunning_succ, h]
  | again h _ ih =>
    obtain ⟨rest, rfl⟩ := Nat.exists_eq_add_of_le' (Nat.le_of_add_left_le hlimit)
    rw [run_awaitRunning_succ, h]
    exact ih (Nat.le_of_succ_le_succ hlimit)

/-- The last look of a wait, with the outcome that it comes to. -/
theorem Awaits.of_last [Timeline τ] {settings : Settings τ} {name : String} {deadline : τ}
    {answer : Answerer (interface τ) σ} {s last : σ} {outcome : Except Fault Unit}
    (h : (look settings name deadline).run answer s = (outcome.map fun _ => true, last)) :
    Awaits settings name deadline answer 1 s outcome last := by
  cases outcome with
  | ok value => exact .runs h
  | error fault => exact .fails h

/-- A wait goes on as long as looks say so. -/
theorem Awaits.after [Timeline τ] {settings : Settings τ} {name : String} {deadline : τ}
    {answer : Answerer (interface τ) σ} {state : Nat → σ} {looks pauses : Nat} {last : σ}
    {outcome : Except Fault Unit}
    (hagain : ∀ i < pauses, (look settings name deadline).run answer (state i) = (.ok false, state (i + 1)))
    (h : Awaits settings name deadline answer looks (state pauses) outcome last) :
    Awaits settings name deadline answer (looks + pauses) (state 0) outcome last := by
  induction pauses generalizing looks with
  | zero => exact h
  | succ pauses ih =>
    have hlast := hagain pauses (Nat.lt_succ_self _)
    have hrest := ih (fun i hi => hagain i (Nat.lt_succ_of_lt hi)) (.again hlast h)
    rwa [Nat.add_right_comm] at hrest

/-! ### Exact times -/

/-- Rational times. How they are shown, and what limits the number of readings, is left open. -/
@[reducible] def Timeline.ofRationals (shown : ℚ → String) (limit : (wait pause : ℚ) → Nat) : Timeline ℚ where
  decideLE := inferInstance
  mostReadings := limit
  wholeText := shown

/-- What reading a pod comes to: the pod, a refusal of the cluster, or a failure of something else. -/
inductive Reading where
  | pod (observed : Observed)
  | refused (status : Option Int) (reason : Option String)
  | foreign (what : Mishap)

namespace Reading

/-- What the cluster answers. -/
def reply : Reading → Except CallError (Option Observed)
  | pod observed => .ok (some observed)
  | refused status reason => .error (.refused status reason)
  | foreign what => .error (.other (.mishap what))

/-- The reading ends the wait, whatever the time is. -/
def Decides : Reading → Prop
  | pod observed =>
    observed.phase = some "Running" ∨ observed.phase = some "Failed" ∨ observed.phase = some "Succeeded"
  | refused .. | foreign _ => True

/-- The outcome of a wait is what a reading calls for. -/
structure Settles (reading : Reading) (name : String) (outcome : Except Fault Unit) : Prop where
  runs : outcome = .ok () ↔ ∃ observed, reading = .pod observed ∧ observed.phase = some "Running"
  missing : outcome = .error (.containerNotFound name) ↔ ∃ reason, reading = .refused (some 404) reason
  fails : (∃ cause, outcome = .error (.runtime cause)) ↔
    (∃ observed, reading = .pod observed ∧
      (observed.phase = some "Failed" ∨ observed.phase = some "Succeeded")) ∨
    ∃ status reason, reading = .refused status reason ∧ status ≠ some 404
  passes : ∀ what, outcome = .error (.mishap what) ↔ reading = .foreign what

end Reading

/-- A clock that only pauses move, and how often the pod was read and a pause was made. -/
structure Watch where
  clock : ℚ
  readings : Nat
  pauses : Nat

/-- Readings come one after another from an endless list, and take no time. -/
def answerReadings (readings : Nat → Reading) : Answerer (interface ℚ) Watch
  | .log _, w => ((), w)
  | .create .., w => (.ok none, w)
  | .read .., w => ((readings w.readings).reply, { w with readings := w.readings + 1 })
  | .delete .., w => (.ok (), w)
  | .list .., w => (.ok none, w)
  | .now, w => (w.clock, w)
  | .pause length, w => ((), { w with clock := w.clock + length, pauses := w.pauses + 1 })

namespace Reading

/-- A reading that does not decide shows a pod that is neither running nor ended. -/
theorem not_decides {reading : Reading} (h : ¬ reading.Decides) :
    ∃ observed, reading = .pod observed ∧ Progress.ofPhase observed.phase = .waiting := by
  cases reading with
  | pod observed =>
    obtain ⟨hrunning, hended⟩ := not_or.1 h
    exact ⟨observed, rfl, by rw [Progress.ofPhase, if_neg hrunning, if_neg hended]⟩
  | refused status reason => exact absurd trivial h
  | foreign what => exact absurd trivial h

end Reading

section Looks

variable (shown : ℚ → String) (limit : (wait pause : ℚ) → Nat) (settings : Settings ℚ) (name : String)
  (deadline : ℚ) {readings : Nat → Reading} (w : Watch)

theorem run_read_pod {observed : Observed} (h : readings w.readings = .pod observed) :
    (read settings name).run (answerReadings readings) w =
      (.ok observed, { w with readings := w.readings + 1 }) := by
  show (Program.bind _ _).run _ _ = _
  simp only [ask, Program.question, Program.bind, Program.run, answerReadings, h]
  rfl

theorem run_read_error {error : CallError} (fault : Fault) (h : (readings w.readings).reply = .error error)
    (hfault : (outcomeFor name "read" (.error error) : Except Fault (Option Observed)) = .error fault) :
    (read settings name).run (answerReadings readings) w =
      (.error fault, { w with readings := w.readings + 1 }) := by
  show (Program.bind _ _).run _ _ = _
  simp only [ask, Program.question, Program.bind, Program.run, answerReadings, h, hfault]
  rfl

/-- A decisive reading ends the wait with the outcome that it calls for. -/
theorem run_look_of_decides (h : (readings w.readings).Decides) : ∃ outcome : Except Fault Unit,
    (@look ℚ (.ofRationals shown limit) settings name deadline).run (answerReadings readings) w =
      (outcome.map fun _ => true, { w with readings := w.readings + 1 }) ∧
    (readings w.readings).Settles name outcome := by
  unfold look
  rw [Program.run_bind]
  cases hreading : readings w.readings with
  | pod observed =>
    rw [hreading] at h
    rw [run_read_pod settings name w hreading]
    -- A pod decides by its phase, running or one of the two that end it.
    obtain h | h := h
    · refine ⟨.ok (), ?_, ?_⟩
      · simp [Progress.ofPhase, h, Except.map]
      · constructor <;> simp [h]
    · refine ⟨.error (.runtime (.exited name (orNone observed.phase))), ?_, ?_⟩
      · obtain h | h := h <;> simp [Progress.ofPhase, h, Except.map]
      · constructor <;> grind
  | refused status reason =>
    by_cases hmissing : status = some 404
    · subst hmissing
      refine ⟨.error (.containerNotFound name), ?_, ?_⟩
      · rw [run_read_error settings name w (.containerNotFound name) (by rw [hreading]; rfl) rfl]
        rfl
      · constructor <;> simp
    · have hfault : (outcomeFor name "read" (.error (.refused status reason)) :
          Except Fault (Option Observed)) = .error (refusal s!"read pod {name}" status reason) := by
        unfold outcomeFor
        split
        · simp_all
        · rfl
      refine ⟨.error (refusal s!"read pod {name}" status reason), ?_, ?_⟩
      · rw [run_read_error settings name w _ (by rw [hreading]; rfl) hfault]
        rfl
      · constructor <;> simp [refusal, hmissing]
  | foreign what =>
    refine ⟨.error (.mishap what), ?_, ?_⟩
    · rw [run_read_error settings name w (.mishap what) (by rw [hreading]; rfl) rfl]
      rfl
    · constructor <;> simp [eq_comm]

/-- Without a decisive reading the wait is over at the deadline. -/
theorem run_look_of_late (h : ¬ (readings w.readings).Decides) (hlate : deadline ≤ w.clock) :
    ∃ phase, (@look ℚ (.ofRationals shown limit) settings name deadline).run (answerReadings readings) w =
      (.error (@notRunning ℚ (.ofRationals shown limit) settings name phase),
        { w with readings := w.readings + 1 }) := by
  obtain ⟨observed, hreading, hwaiting⟩ := Reading.not_decides h
  refine ⟨observed.phase, ?_⟩
  unfold look
  rw [Program.run_bind, run_read_pod settings name w hreading]
  simp only [hwaiting]
  show Program.run _ (if deadline ≤ w.clock then _ else _) _ = _
  rw [if_pos hlate]
  rfl

/-- Before the deadline a pause follows. -/
theorem run_look_of_early (h : ¬ (readings w.readings).Decides) (hearly : ¬ deadline ≤ w.clock) :
    (@look ℚ (.ofRationals shown limit) settings name deadline).run (answerReadings readings) w =
      (.ok false, ⟨w.clock + settings.pollInterval, w.readings + 1, w.pauses + 1⟩) := by
  obtain ⟨observed, hreading, hwaiting⟩ := Reading.not_decides h
  unfold look
  rw [Program.run_bind, run_read_pod settings name w hreading]
  simp only [hwaiting]
  show Program.run _ (if deadline ≤ w.clock then _ else _) _ = _
  rw [if_neg hearly]
  rfl

/-! ### The whole wait -/

/-- What the watch shows after so many pauses, one after each reading. -/
def Watch.after (begin pause : ℚ) (pauses : Nat) : Watch := ⟨begin + pauses * pause, pauses, pauses⟩

theorem Watch.after_zero (begin pause : ℚ) : Watch.after begin pause 0 = ⟨begin, 0, 0⟩ := by
  simp [Watch.after]

/-- Each pause moves the clock on by the pause and counts one reading more. -/
theorem Watch.after_succ (begin pause : ℚ) (pauses : Nat) : Watch.after begin pause (pauses + 1) =
    ⟨(Watch.after begin pause pauses).clock + pause, pauses + 1, pauses + 1⟩ := by
  simp only [Watch.after, Watch.mk.injEq, and_true]
  push_cast
  ring

/-- The deadline is reached with the pause that the wait makes last. -/
theorem deadline_le_after (begin wait : ℚ) {pause : ℚ} (hpause : 0 < pause) (pauses : Nat) :
    begin + wait ≤ (Watch.after begin pause pauses).clock ↔ ⌈wait / pause⌉₊ ≤ pauses := by
  rw [Watch.after, Nat.ceil_le, div_le_iff₀ hpause, add_le_add_iff_left]

/-- A wait whose last look comes after so many pauses. -/
theorem start_of_last (hpause : 0 < settings.pollInterval) {begin : ℚ} {pauses : Nat}
    (hpauses : pauses ≤ ⌈settings.startTimeout / settings.pollInterval⌉₊)
    (hundecided : ∀ i < pauses, ¬ (readings i).Decides) (outcome : Except Fault Unit) {last : Watch}
    (hlast : (@look ℚ (.ofRationals shown limit) settings name (begin + settings.startTimeout)).run
      (answerReadings readings) (.after begin settings.pollInterval pauses) =
        (outcome.map fun _ => true, last)) :
    letI := Timeline.ofRationals shown limit
    (∃ looks, Awaits settings name (begin + settings.startTimeout) (answerReadings readings) looks
      ⟨begin, 0, 0⟩ outcome last) ∧
    (⌈settings.startTimeout / settings.pollInterval⌉₊ <
        limit settings.startTimeout settings.pollInterval →
      (start settings name).run (answerReadings readings) ⟨begin, 0, 0⟩ = (outcome, last)) := by
  let _ := Timeline.ofRationals shown limit
  -- Up to the last look each one is early and undecided, which moves the watch on by one pause.
  have hagain : ∀ i < pauses, (look settings name (begin + settings.startTimeout)).run
      (answerReadings readings) (.after begin settings.pollInterval i) =
        (.ok false, .after begin settings.pollInterval (i + 1)) := by
    intro i hi
    have hearly := mt (deadline_le_after begin settings.startTimeout hpause i).1 (by omega)
    rw [run_look_of_early shown limit settings name _ _ (hundecided i hi) hearly, Watch.after_succ]
    rfl
  have hawaits := Awaits.after hagain (.of_last hlast)
  rw [Watch.after_zero] at hawaits
  refine ⟨⟨_, hawaits⟩, fun hlimit => ?_⟩
  rw [start, Program.run_bind]
  exact hawaits.run (by show _ ≤ limit _ _; omega)

end Looks

/-- A wait for a pod ends, after at most `⌈T / p⌉ + 1` readings and `⌈T / p⌉` pauses. The first decisive
reading among these settles its outcome; without one the pod did not run in time. -/
theorem start_ends (shown : ℚ → String) (limit : (wait pause : ℚ) → Nat) {settings : Settings ℚ}
    (hpause : 0 < settings.pollInterval) (name : String) (readings : Nat → Reading) (begin : ℚ) :
    letI := Timeline.ofRationals shown limit
    ∃ most outcome last, most = ⌈settings.startTimeout / settings.pollInterval⌉₊ ∧
      (∃ looks, Awaits settings name (begin + settings.startTimeout) (answerReadings readings) looks
        ⟨begin, 0, 0⟩ outcome last) ∧
      (most < limit settings.startTimeout settings.pollInterval →
        (start settings name).run (answerReadings readings) ⟨begin, 0, 0⟩ = (outcome, last)) ∧
      last.readings ≤ most + 1 ∧ last.pauses ≤ most ∧
      last.clock = begin + last.pauses * settings.pollInterval ∧
      (∀ k ≤ most, (readings k).Decides → (∀ i < k, ¬ (readings i).Decides) →
        last.readings = k + 1 ∧ last.pauses = k ∧ (readings k).Settles name outcome) ∧
      ((∀ k ≤ most, ¬ (readings k).Decides) →
        last.readings = most + 1 ∧ last.pauses = most ∧ ∃ cause, outcome = .error (.runtime cause)) := by
  set most := ⌈settings.startTimeout / settings.pollInterval⌉₊
  -- Either the first deciding reading comes in time, or the look at the deadline gives up.
  by_cases hdecided : ∃ k, k ≤ most ∧ (readings k).Decides
  · classical
    obtain ⟨hk, hdecides⟩ := Nat.find_spec hdecided
    have hbefore : ∀ i < Nat.find hdecided, ¬ (readings i).Decides := fun i hi hdecides =>
      Nat.find_min hdecided hi ⟨by omega, hdecides⟩
    obtain ⟨outcome, hlook, hsettles⟩ := run_look_of_decides shown limit settings name
      (begin + settings.startTimeout) (.after begin settings.pollInterval (Nat.find hdecided)) hdecides
    obtain ⟨hawaits, hstart⟩ := start_of_last shown limit settings name hpause hk hbefore outcome hlook
    refine ⟨most, outcome, _, rfl, hawaits, hstart, Nat.succ_le_succ hk, hk, rfl, ?_, ?_⟩
    · intro k hkm hkdecides hkbefore
      obtain rfl : k = Nat.find hdecided := by
        obtain h | h | h := Nat.lt_trichotomy k (Nat.find hdecided)
        · exact absurd hkdecides (hbefore k h)
        · exact h
        · exact absurd hdecides (hkbefore _ h)
      exact ⟨rfl, rfl, hsettles⟩
    · intro hnone
      exact absurd hdecides (hnone _ hk)
  · have hnone : ∀ k ≤ most, ¬ (readings k).Decides := fun k hk hdecides => hdecided ⟨k, hk, hdecides⟩
    obtain ⟨phase, hlook⟩ := run_look_of_late shown limit settings name (begin + settings.startTimeout)
      (.after begin settings.pollInterval most) (hnone most le_rfl)
      ((deadline_le_after _ _ hpause most).2 le_rfl)
    obtain ⟨hawaits, hstart⟩ := start_of_last shown limit settings name hpause le_rfl
      (fun i hi => hnone i hi.le) (.error _) hlook
    refine ⟨most, .error _, _, rfl, hawaits, hstart, le_rfl, le_rfl, rfl, ?_, ?_⟩
    · intro k hk hdecides
      exact absurd hdecides (hnone k hk)
    · intro _
      exact ⟨rfl, rfl, _, rfl⟩

/-! ### A pod that is late -/

namespace Sample

/-- A start may take two and a half times the length of a pause. -/
def hasty : Settings ℚ := ⟨"dyncluster", 5 / 2, 1⟩

/-- A pod that is pending three times, and runs from then on. -/
def late (i : Nat) : Reading := .pod ⟨"kv", some (if i < 3 then "Pending" else "Running"), none, none⟩

theorem decides_late {i : Nat} : (late i).Decides ↔ 3 ≤ i := by
  simp only [late, Reading.Decides]
  split <;> simp <;> omega

/-- At most three pauses begin within the time to start. -/
theorem most_hasty : ⌈hasty.startTimeout / hasty.pollInterval⌉₊ = 3 := by
  rw [Nat.ceil_eq_iff (by decide)]
  norm_num [hasty]

end Sample

open Sample in
/-- The reading that is made when the time is over already still counts. -/
theorem start_ends_of_late : 0 < hasty.pollInterval ∧
    ∃ last, (@start ℚ (.ofRationals (fun _ => "2") fun _ _ => 4) hasty "kv").run (answerReadings late)
        ⟨0, 0, 0⟩ = (.ok (), last) ∧
      last.readings = 4 ∧ last.pauses = 3 ∧ hasty.startTimeout < last.clock := by
  have hpause : 0 < hasty.pollInterval := by norm_num [hasty]
  obtain ⟨most, outcome, last, hmost, -, hstart, -, -, hclock, hdecided, -⟩ :=
    start_ends (fun _ => "2") (fun _ _ => 4) hpause "kv" late 0
  rw [most_hasty] at hmost
  subst hmost
  obtain ⟨hreadings, hpauses, hsettles⟩ := hdecided 3 le_rfl (decides_late.2 le_rfl)
    fun i hi => mt decides_late.1 (by omega)
  obtain rfl := hsettles.runs.2 ⟨_, rfl, rfl⟩
  refine ⟨hpause, last, hstart (by decide), hreadings, hpauses, ?_⟩
  rw [hclock, hpauses]
  norm_num [hasty]

end ClusterLease.Pod
