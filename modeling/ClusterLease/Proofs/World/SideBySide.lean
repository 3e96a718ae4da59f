import ClusterLease.Proofs.World.Killing
import ClusterLease.Proofs.World.Telling

/-!
Refreshes of one cluster that run side by side.

The questions of the refreshes may be answered in any order. As long as they put down one new lease
at most, as they do where the cluster had a lease at the start, no refresh that succeeds is lost, and
no answer makes a lease shorter (`refreshes_side_by_side`). Two refreshes that both found no lease
both put down a new one, and the later one may end earlier (`refreshes_lose_each_other`).
-/

namespace ClusterLease.World

open Manager (Call Expects Missed Misses Obtains Renews)
open Pool (pastOf)

/-- Someone who asks for a refresh. -/
structure Wish where
  caller : Caller
  extension : Duration

/-- Refreshes of a cluster that have asked nothing yet. -/
def refreshing (m : Manager) (w : World) (id : String) (wishes : List Wish) :
    Pool Manager.interface Lease World :=
  .start (wishes.map fun wish => m.refresh wish.caller id wish.extension) w

/-- The events of all that runs side by side. -/
abbrev Trace := List (Nat × Event Manager.interface)

/-- The call writes a lease as a new one. -/
def putsDown : Call → Bool
  | .keepLease .. => true
  | _ => false

theorem putsDown_iff {call : Call} : putsDown call = true ↔ call.KeepsLease := by
  cases call <;> simp [putsDown, Call.KeepsLease]

/-- The number of new leases that were put down. -/
def newLeases (trace : Trace) : Nat := trace.countP fun entry => putsDown entry.2.call

variable {w : World} {m : Manager} {leases leases' : Leases} {id user : String}
  {extension : Duration} {trace : Trace} {i : Nat} {event : Event Manager.interface} {existed : Prop}

theorem newLeases_cons_of_not (h : ¬event.call.KeepsLease) :
    newLeases ((i, event) :: trace) = newLeases trace :=
  List.countP_cons_of_neg fun hputs => h (putsDown_iff.1 hputs)

theorem newLeases_cons (h : event.call.KeepsLease) :
    newLeases ((i, event) :: trace) = newLeases trace + 1 :=
  List.countP_cons_of_pos (putsDown_iff.2 h)

/-! ### One answer -/

/-- What is known of the lease of a cluster while it is refreshed, where `existed` says that it had one
at the start. -/
structure Renewing (id : String) (existed : Prop) (trace : Trace) (leases : Leases) : Prop where
  existing : existed →
    (leases.get? id).isSome ∧ newLeases trace = 0 ∧ ∀ i, ¬Missed id (pastOf trace i)
  missing : ¬existed → newLeases trace = 0 → leases.get? id = none
  /-- With one new lease at most, all that was obtained is covered. -/
  covered : newLeases trace ≤ 1 → ∀ i event user expiry, (i, event) ∈ trace →
    Obtains user id expiry event → ∃ lease, leases.get? id = some lease ∧ lease.Covers expiry

/-- Who has not missed the lease before has not by an event that does not miss it. -/
theorem missed_cons (h : ¬Misses id event) {j : Nat}
    (hnone : ¬Missed id (pastOf trace j)) : ¬Missed id (pastOf ((i, event) :: trace) j) := by
  by_cases hj : i = j
  · subst hj
    rw [Pool.pastOf_cons_self]
    rintro ⟨other, hmem, hmisses⟩
    rcases List.mem_cons.1 hmem with rfl | hmem
    · exact h hmisses
    · exact hnone ⟨other, hmem, hmisses⟩
  · rwa [Pool.pastOf_cons_of_ne hj]

/-- If somebody missed the lease and nobody has written one since, there is none. -/
theorem Renewing.missing_of_missed (h : Renewing id existed trace leases)
    (hmissed : Missed id (pastOf trace i)) (hfirst : newLeases trace = 0) :
    ¬existed ∧ leases.get? id = none := by
  have hnot : ¬existed := fun hexisted => (h.existing hexisted).2.2 i hmissed
  exact ⟨hnot, h.missing hnot hfirst⟩

/-- Each event of a refresh keeps what holds while leases are renewed. -/
theorem Renewing.step (h : Renewing id existed trace leases)
    (hchange : Change user id extension (pastOf trace i) event leases leases') :
    Renewing id existed ((i, event) :: trace) leases' := by
  cases hchange with
  | nothing hkeeps hobtains hmissed =>
    have hcount : newLeases ((i, event) :: trace) = newLeases trace := newLeases_cons_of_not hkeeps
    refine ⟨fun hexisted => ?_, fun hnot hzero => h.missing hnot (hcount ▸ hzero), ?_⟩
    · obtain ⟨hsome, hzero, hnone⟩ := h.existing hexisted
      have hmisses : ¬Misses id event := fun hmisses => by
        rw [hmissed hmisses] at hsome
        cases hsome
      exact ⟨hsome, hcount.trans hzero, fun j => missed_cons hmisses (hnone j)⟩
    · intro hone j other user expiry hmem hother
      rcases List.mem_cons.1 hmem with heq | hmem
      · cases heq
        exact absurd hother (hobtains user id expiry)
      · exact h.covered (hcount ▸ hone) j other user expiry hmem hother
  | @extended _ expiry old new hexpects hold hnew =>
    have hcount : newLeases ((i, ⟨.changeLease id fun lease => lease.extended user expiry, .ok new⟩) ::
        trace) = newLeases trace := newLeases_cons_of_not fun h => h
    -- The lease is longer than the old one, and so covers all that the old one covered.
    have hget : (leases.put id new).get? id = some new := by rw [Table.get?_put, if_pos rfl]
    refine ⟨fun hexisted => ?_, fun hnot hzero => ?_, ?_⟩
    · obtain ⟨-, hzero, hnone⟩ := h.existing hexisted
      have hmisses : ¬Misses id ⟨.changeLease id fun lease => lease.extended user expiry, .ok new⟩ :=
        fun h => h
      exact ⟨hget ▸ rfl, hcount.trans hzero, fun j => missed_cons hmisses (hnone j)⟩
    · rw [h.missing hnot (hcount ▸ hzero)] at hold
      cases hold
    · intro hone j other user' expiry' hmem hother
      refine ⟨new, hget, ?_⟩
      rcases List.mem_cons.1 hmem with heq | hmem
      · -- The lease was extended as this event has it.
        cases heq
        have hsame := congrFun hother.2 old
        exact (Lease.extended_covers (hsame.symm.trans hnew)).1
      · obtain ⟨lease, hlease, hcovers⟩ := h.covered (hcount ▸ hone) j other user' expiry' hmem hother
        obtain rfl := Option.some.inj (hlease.symm.trans hold)
        exact (Lease.extended_covers hnew).2.covers hcovers
  | @kept _ expiry hexpects hmissed =>
    have hcount : newLeases ((i, ⟨.keepLease id (Lease.ofUser user expiry), .ok ()⟩) :: trace) =
        newLeases trace + 1 := newLeases_cons trivial
    -- A new lease may be shorter than what is there, so this needs that it is the first one.
    refine ⟨fun hexisted => absurd hmissed ((h.existing hexisted).2.2 i), fun _ hzero => ?_, ?_⟩
    · omega
    · intro hone j other user' expiry' hmem hother
      have hfirst : newLeases trace = 0 := by omega
      rcases List.mem_cons.1 hmem with heq | hmem
      · cases heq
        obtain ⟨-, heq⟩ := hother
        exact ⟨Lease.ofUser user expiry, by rw [Table.get?_put, if_pos rfl], expiry', by rw [heq]; rfl,
          Moment.later?_self _⟩
      · -- Nothing was obtained before the first new lease, for there was none to obtain.
        obtain ⟨lease, hlease, -⟩ :=
          h.covered (by omega) j other user' expiry' hmem hother
        rw [(h.missing_of_missed hmissed hfirst).2] at hlease
        cases hlease

/-- Every lease is still there, and ends when it did or later. -/
def NoneShorter (leases leases' : Leases) : Prop :=
  ∀ other old, leases.get? other = some old →
    ∃ new, leases'.get? other = some new ∧ Lease.NotShorter old new

/-- Writing a lease that is not shorter shortens none. -/
theorem noneShorter_put {new : Lease} (h : ∀ old, leases.get? id = some old → Lease.NotShorter old new) :
    NoneShorter leases (leases.put id new) := by
  intro other old hold
  rw [Table.get?_put]
  by_cases hother : other = id
  · subst hother
    exact ⟨new, if_pos rfl, h old hold⟩
  · exact ⟨old, (if_neg hother).trans hold, .inl rfl⟩

/-- No answer makes a lease shorter, unless it is a second new lease. -/
theorem Renewing.noneShorter (h : Renewing id existed trace leases)
    (hchange : Change user id extension (pastOf trace i) event leases leases')
    (hone : newLeases ((i, event) :: trace) ≤ 1) : NoneShorter leases leases' := by
  cases hchange with
  | nothing => exact fun other old hold => ⟨old, hold, .inl rfl⟩
  | @extended _ expiry old new hexpects hold hnew =>
    refine noneShorter_put fun other hother => ?_
    obtain rfl := Option.some.inj (hold.symm.trans hother)
    exact (Lease.extended_covers hnew).2
  | @kept _ expiry hexpects hmissed =>
    have hcount : newLeases ((i, ⟨.keepLease id (Lease.ofUser user expiry), .ok ()⟩) :: trace) =
        newLeases trace + 1 := newLeases_cons trivial
    have hnone := (h.missing_of_missed hmissed (by omega)).2
    refine noneShorter_put fun other hother => ?_
    rw [hnone] at hother
    cases hother

/-! ### All answers -/

/-- The invariant of refreshes that run side by side. -/
structure SideBySide (id : String) (existed : Prop) (trace : Trace) (w : World) : Prop where
  read : ∀ i, ReadUniversally (pastOf trace i)
  told : ∃ leases, w.Tells leases ∧ Renewing id existed trace leases

/-- With every clock in universal time, whatever is read from one is so too. -/
theorem readUniversally_cons {now : Moment} (hnow : now.Universal) (w : World) (call : Call)
    (h : ∀ j, ReadUniversally (pastOf trace j)) (j : Nat) :
    ReadUniversally (pastOf ((i, ⟨call, (answerAt now call w).1⟩) :: trace) j) := by
  by_cases hj : i = j
  · subst hj
    rw [Pool.pastOf_cons_self]
    intro reading hmem
    rcases List.mem_cons.1 hmem with heq | hmem
    · cases call with
      | now =>
        cases heq
        exact clock_offset hnow
      | _ => cases heq
    · exact h i reading hmem
  · rw [Pool.pastOf_cons_of_ne hj]
    exact h j

/-- What the rule of a refresh asks of each caller, by the caller's own wish. -/
def wishRule (id : String) (wishes : List Wish) (i : Nat) (past : List (Event Manager.interface))
    (call : Call) : Prop :=
  ∃ wish, wishes[i]? = some wish ∧ Renews wish.caller.user id wish.extension past call

/-- What each refresh has obtained if it succeeds. -/
def wishGoal (id : String) (wishes : List Wish) (i : Nat) (outcome : Except Fault Lease)
    (past : List (Event Manager.interface)) : Prop :=
  ∃ wish, wishes[i]? = some wish ∧
    ∀ lease, outcome = .ok lease → Manager.Renewed wish.caller.user id wish.extension past

/-- The refreshes all uphold their rules, each in its own place. -/
theorem upholds_refreshing (m : Manager) (w : World) (id : String) (wishes : List Wish) :
    (refreshing m w id wishes).Upholds (wishRule id wishes) (wishGoal id wishes) := by
  refine Pool.upholds_start w fun i p hp => ?_
  rw [List.getElem?_map, Option.map_eq_some_iff] at hp
  obtain ⟨wish, hwish, rfl⟩ := hp
  exact (Manager.upholds_refresh m wish.caller id wish.extension []).mono
    (fun _ _ hrule => ⟨wish, hwish, hrule⟩) fun _ _ _ hgoal => ⟨wish, hwish, hgoal⟩

/-- Whoever moves next, the step keeps what holds side by side. -/
theorem sideBySide_kept (id : String) (existed : Prop) (wishes : List Wish) :
    Pool.Keeps answerAt Moment.Universal (wishRule id wishes) (SideBySide id existed) := by
  rintro trace w i now call hnow ⟨hread, leases, htells, hrenewing⟩ ⟨wish, -, hrule⟩
  obtain ⟨-, leases', htells', hchange⟩ := change_of_renews htells (hread i) now hrule
  exact ⟨readUniversally_cons hnow w call hread, leases', htells', hrenewing.step hchange⟩

theorem sideBySide_start (htells : w.Tells leases) (id : String) :
    SideBySide id (w.lease? id).isSome [] w := by
  have hrenewing : Renewing id (leases.get? id).isSome [] leases :=
    { existing := fun hsome => ⟨hsome, rfl, fun _ ⟨_, hmem, _⟩ => by cases hmem⟩
      missing := fun hnot _ => by simpa using hnot
      covered := fun _ _ _ _ _ hmem => by cases hmem }
  refine ⟨fun _ _ hmem => (by cases hmem), leases, htells, ?_⟩
  rwa [htells.lease?]

/-- A step makes no lease shorter, unless it puts down a second new one. -/
theorem SideBySide.step_noneShorter {pool : Pool Manager.interface Lease World} {wishes : List Wish}
    {goal : Nat → Except Fault Lease → List (Event Manager.interface) → Prop}
    (h : SideBySide id existed pool.trace pool.state) (hpool : pool.Upholds (wishRule id wishes) goal)
    (now : Moment) (i : Nat) (hone : newLeases (pool.step (answerAt now) i).trace ≤ 1)
    {other : String} {old : Lease} (hold : pool.state.lease? other = some old) :
    ∃ new, (pool.step (answerAt now) i).state.lease? other = some new ∧ Lease.NotShorter old new := by
  rcases Pool.step_cases (answerAt now) pool i with heq | ⟨call, next, hrest, heq⟩
  · rw [heq]
    exact ⟨old, hold, .inl rfl⟩
  · rw [heq] at hone ⊢
    -- What the step does to leases is what its question may do, and the rule says which that is.
    obtain ⟨leases, htells, hrenewing⟩ := h.told
    obtain ⟨wish, -, hrule⟩ := (hpool i _ hrest).1
    obtain ⟨-, leases', htells', hchange⟩ := change_of_renews htells (h.read i) now hrule
    rw [htells.lease?] at hold
    rw [htells'.lease?]
    exact hrenewing.noneShorter hchange hone other old hold

/--
Refreshes of one cluster run side by side, each question at a time of its own. If the cluster had a
lease at the start, none of them puts down a new one. If at most one new lease is put down, every
refresh that has succeeded is covered by the lease that is there: it ends no earlier than the clock of
the refresh and its extension. In that case no answer on the way makes a lease shorter.
-/
theorem refreshes_side_by_side (m : Manager) (htells : w.Tells leases) (id : String)
    (wishes : List Wish) {schedule : List (Nat × Moment)}
    (hutc : ∀ slot ∈ schedule, slot.2.Universal) :
    let pool := refreshing m w id wishes
    let last := pool.after answerAt schedule
    ((w.lease? id).isSome → newLeases last.trace = 0) ∧
    (newLeases last.trace ≤ 1 →
      (∀ i wish lease, wishes[i]? = some wish → last.outcome? i = some (.ok lease) →
        ∃ reading expiry, (i, ⟨.now, reading⟩) ∈ last.trace ∧
          Moment.add? reading wish.extension = some expiry ∧
          ∃ lease, last.state.lease? id = some lease ∧ lease.Covers expiry) ∧
      ∀ before slot rest, schedule = before ++ slot :: rest → ∀ other old,
        (pool.after answerAt before).state.lease? other = some old →
        ∃ new, (pool.after answerAt (before ++ [slot])).state.lease? other = some new ∧
          Lease.NotShorter old new) := by
  intro pool last
  have hupholds : pool.Upholds _ _ := upholds_refreshing m w id wishes
  have hkeeps := sideBySide_kept id (w.lease? id).isSome wishes
  have hstart : SideBySide id (w.lease? id).isSome pool.trace pool.state := sideBySide_start htells id
  -- The invariant is carried over the whole schedule first, and then read off for what is promised.
  obtain ⟨hgoals, hread, leases', htells', hrenewing⟩ := Pool.after_keeps hkeeps hupholds hstart hutc
  refine ⟨fun hsome => (hrenewing.existing hsome).2.1, fun hone => ⟨?_, ?_⟩⟩
  · intro i wish lease hwish houtcome
    obtain ⟨wish', hwish', hgoal⟩ := hgoals.goal_of_outcome houtcome
    obtain rfl := Option.some.inj (hwish'.symm.trans hwish)
    obtain ⟨expiry, ⟨reading, hreading, hexpiry⟩, event, hmem, hobtains⟩ := hgoal lease rfl
    obtain ⟨lease, hlease, hcovers⟩ :=
      hrenewing.covered hone i event _ expiry (Pool.mem_pastOf.1 hmem) hobtains
    exact ⟨reading, expiry, Pool.mem_pastOf.1 hreading, hexpiry, lease,
      (htells'.lease? id).trans hlease, hcovers⟩
  · rintro before slot rest rfl other old hold
    have hutc' : ∀ other ∈ before, other.2.Universal := fun other hother =>
      hutc other (List.mem_append_left _ hother)
    obtain ⟨hbefore, hinv⟩ := Pool.after_keeps hkeeps hupholds hstart hutc'
    have hstep : pool.after answerAt (before ++ [slot]) =
        (pool.after answerAt before).step (answerAt slot.2) slot.1 := Pool.after_append _ _ _ _
    have hlast : last = ((pool.after answerAt before).step (answerAt slot.2) slot.1).after answerAt rest :=
      Pool.after_append _ _ _ _
    -- A new lease once written stays in the trace, so that the bound at the end holds at this step too.
    have hsuffix := hlast ▸ Pool.trace_suffix answerAt
      ((pool.after answerAt before).step (answerAt slot.2) slot.1) rest
    rw [hstep]
    exact hinv.step_noneShorter hbefore slot.2 slot.1 (hsuffix.sublist.countP_le.trans hone) hold

namespace Sample

def hour : Duration := ⟨3600000000, by decide⟩

def minuteLater : Moment := { newYear with time := ⟨60000000, by decide⟩ }

/-- A world with one cluster, and no lease. -/
def unleased : World := { initial Plan.smooth .yaml newYear with containers := [lone] }

/-- The same world with a lease that has ended. -/
def leased : World := { unleased with store := .memory [("c2", Lease.ofUser "ann" newYear)] }

/-- One refresh asks for an hour, and another one for a minute. -/
def uneasy : List Wish := [⟨ann, hour⟩, ⟨root, minute⟩]

/-- Both refreshes ask for the lease before either of them can put down a new one. -/
def crossing : List (Nat × Moment) :=
  List.replicate 6 (0, newYear) ++ List.replicate 6 (1, newYear) ++ [(0, newYear), (1, newYear)]

end Sample

open Sample in
/-- With a lease at the start, the hour is covered though the other refresh is answered last. -/
theorem refreshes_side_by_side_of_crossing :
    leased.Tells [("c2", Lease.ofUser "ann" newYear)] ∧ (∀ slot ∈ crossing, slot.2.Universal) ∧
    let last := (refreshing manager leased "c2" uneasy).after answerAt crossing
    last.outcome? 0 = some (.ok (Lease.ofUser "ann" hourLater)) ∧
    last.outcome? 1 = some (.ok (Lease.ofUser "root" hourLater)) ∧
    ∃ reading expiry, (0, ⟨.now, reading⟩) ∈ last.trace ∧ Moment.add? reading hour = some expiry ∧
      ∃ lease, last.state.lease? "c2" = some lease ∧ lease.Covers expiry := by
  have htells : leased.Tells [("c2", Lease.ofUser "ann" newYear)] := .inl rfl
  have hutc : ∀ slot ∈ crossing, slot.2.Universal := by decide +kernel
  obtain ⟨hexisting, hall⟩ := refreshes_side_by_side manager htells "c2" uneasy hutc
  have hone := (hexisting (by decide +kernel)).le.trans (Nat.zero_le 1)
  have hann : ((refreshing manager leased "c2" uneasy).after answerAt crossing).outcome? 0 =
      some (.ok (Lease.ofUser "ann" hourLater)) := Pool.outcome?_of_value? (by decide +kernel)
  have hroot : ((refreshing manager leased "c2" uneasy).after answerAt crossing).outcome? 1 =
      some (.ok (Lease.ofUser "root" hourLater)) := Pool.outcome?_of_value? (by decide +kernel)
  exact ⟨htells, hutc, hann, hroot, (hall hone).1 0 ⟨ann, hour⟩ _ rfl hann⟩

open Sample in
/-- Both refreshes succeed, but the last lease ends before the one that the first of them was given. -/
theorem refreshes_lose_each_other :
    let last := (refreshing manager unleased "c2" uneasy).after answerAt crossing
    last.outcome? 0 = some (.ok (Lease.ofUser "ann" hourLater)) ∧
    last.outcome? 1 = some (.ok (Lease.ofUser "root" minuteLater)) ∧
    last.state.lease? "c2" = some (Lease.ofUser "root" minuteLater) ∧
    newLeases last.trace = 2 ∧ hourLater.later? minuteLater = some true := by
  refine ⟨Pool.outcome?_of_value? ?_, Pool.outcome?_of_value? ?_, ?_, ?_, ?_⟩
  all_goals decide +kernel

end ClusterLease.World
