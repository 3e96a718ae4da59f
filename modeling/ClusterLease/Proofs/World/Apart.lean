import ClusterLease.Proofs.World.History
import ClusterLease.Proofs.World.Killing

/-!
Users who mind ownership stay apart.

A caller who minds ownership finds the clusters that were made for them, and no others. Two worlds
are `Alike` for such a caller if they agree on these clusters and their leases. Whatever else is in
them, operations have the same outcomes and ask for the same stops in both, and change nothing of
what else is there (`users_stay_apart`): nothing of it can be learned or harmed. The proof runs every
operation in both worlds at once (`Twins`), with one lemma for each thing that operations do.
-/

namespace ClusterLease.World

open Container (Info)
open Manager (Call Operation)

variable {w w' v v' last : World} {m : Manager} {caller : Caller} {id other : String}

/-! ### What a caller may change -/

/-- Some container carries the cluster, and its group has the user as its creator. -/
def MadeFor (w : World) (user id : String) : Prop :=
  id ∈ Cluster.ids w.listing ∧ (Cluster.groupOf w.listing id).creator = user

/-- Who respects ownership finds the clusters that were made for him, and no others. -/
theorem finds_iff_madeFor (hregards : caller.ignoresOwnership = false) :
    Finds caller w.listing id ↔ w.MadeFor caller.user id := by
  rw [Finds, MadeFor, Manager.sees, hregards, Bool.false_or, beq_iff_eq]

/-- The container belongs to no cluster that the caller finds. -/
def Foreign (w : World) (caller : Caller) (held : Held) : Bool :=
  !(Cluster.idOf? held.info).any fun id => decide (Finds caller w.listing id)

/-- Nothing was changed but clusters that the caller found before, and their leases. Leases are still
kept in memory, and no container id comes twice. -/
structure Within (caller : Caller) (w v : World) : Prop where
  containers : v.containers.filter (w.Foreign caller) = w.containers.filter (w.Foreign caller)
  leases : ∀ id, ¬Finds caller w.listing id → v.lease? id = w.lease? id
  found : ∀ id, Finds caller v.listing id → Finds caller w.listing id
  distinct : v.Distinct
  memory : ∃ leases, v.store = .memory leases

/-- Plans, clocks, calls and logs do not matter for this. -/
theorem Within.frame (h : Within caller w v)
    (hcontainers : last.containers = v.containers) (hstore : last.store = v.store)
    (hformat : last.format = v.format) : Within caller w last := by
  have hlisting : last.listing = v.listing := by rw [listing, listing, hcontainers]
  refine ⟨hcontainers ▸ h.containers, fun id hid => ?_, fun id => hlisting ▸ h.found id, ?_,
    hstore ▸ h.memory⟩
  · rw [lease?, hstore, hformat]
    exact h.leases id hid
  · rw [Distinct, hcontainers]
    exact h.distinct

theorem lease?_memory {leases : Leases} (h : w.store = .memory leases) (id : String) :
    w.lease? id = leases.get? id := by
  rw [lease?, h, Store.fetch_memory, Leases.require]
  cases leases.get? id <;> rfl

theorem Within.readable (h : Within caller w v) : v.store.Readable v.format := by
  obtain ⟨leases, hstore⟩ := h.memory
  exact hstore ▸ Store.readable_memory v.format leases

/-- What is found after stops within a found cluster was found before them. -/
theorem Stopped.finds {ids : List String} (h : Stopped w v ids) (hdistinct : w.Distinct)
    (hfinds : Finds caller w.listing id) (hids : ids ⊆ w.members id)
    (hother : Finds caller v.listing other) : Finds caller w.listing other := by
  by_cases hid : other = id
  · exact hid ▸ hfinds
  · exact (finds_congr (h.groupOf_of_ne hdistinct hids hid)).1 hother

/-- Stops of a cluster that the caller finds stay within what the caller may change. -/
theorem Within.stop {ids : List String} (h : Within caller w v)
    (hstopped : Stopped v last ids) (hfinds : Finds caller v.listing id)
    (hids : ids ⊆ v.members id) : Within caller w last := by
  have hfound (other : String) (hother : Finds caller last.listing other) :
      Finds caller v.listing other := hstopped.finds h.distinct hfinds hids hother
  have hspared : ∀ held ∈ v.containers, w.Foreign caller held = true → held.info.id ∉ ids := by
    -- A container that is stopped carries the cluster, and so is not foreign.
    intro held hheld hforeign hmem
    have hid := h.distinct.idOf?_of_mem hheld (hids hmem)
    simp [Foreign, hid, h.found id hfinds] at hforeign
  have hdistinct := hstopped.distinct h.distinct
  obtain ⟨asked, logs, -, rfl⟩ := hstopped
  refine ⟨?_, h.leases, fun other hother => h.found other (hfound other hother), hdistinct, h.memory⟩
  rw [← h.containers]
  dsimp only
  rw [List.filter_filter]
  refine List.filter_congr fun held hheld => ?_
  cases hforeign : w.Foreign caller held with
  | false => rfl
  | true => simp [Stays, hspared held hheld hforeign]

/-- A new lease of a cluster that the caller finds stays within what the caller may change. -/
theorem Within.put {leases : Leases} (h : Within caller w v) (hstore : v.store = .memory leases)
    (hfinds : Finds caller v.listing id) (lease : Lease) (calls : List Call) :
    Within caller w { v with store := .memory (leases.put id lease), calls := calls } := by
  refine ⟨h.containers, fun other hother => ?_, h.found, h.distinct, _, rfl⟩
  have hne : other ≠ id := fun heq => hother (heq ▸ h.found id hfinds)
  rw [lease?_memory rfl, Table.get?_put, if_neg hne, ← lease?_memory hstore]
  exact h.leases other hother

/-! ### Two worlds -/

/-- The same containers of a cluster, and the same lease. -/
def SameCluster (w w' : World) (id : String) : Prop :=
  Cluster.groupOf w.listing id = Cluster.groupOf w'.listing id ∧ w.lease? id = w'.lease? id

/-- Two worlds agree on what the caller finds in either of them. -/
def Agree (caller : Caller) (w w' : World) : Prop :=
  ∀ id, Finds caller w.listing id ∨ Finds caller w'.listing id → SameCluster w w' id

/-- Worlds that agree for a caller have the same clusters for him to find. -/
theorem Agree.finds_iff (h : Agree caller w w') :
    Finds caller w.listing id ↔ Finds caller w'.listing id :=
  ⟨fun hid => (finds_congr (h id (.inl hid)).1).1 hid, fun hid =>
    (finds_congr (h id (.inr hid)).1).2 hid⟩

/-- Where two worlds agree, the caller finds the same clusters in the same order. -/
theorem Agree.visible_eq (h : Agree caller w w') : w.visible caller = w'.visible caller := by
  have hnodup (v : World) : (v.visible caller).Nodup :=
    (Cluster.nodup_ids _).sublist List.filter_sublist
  have hsorted (v : World) : (v.visible caller).Pairwise (· ≤ ·) :=
    (Cluster.pairwise_ids _).sublist List.filter_sublist
  -- The same clusters are found, and both lists are sorted and have no cluster twice.
  have hperm : (w.visible caller).Perm (w'.visible caller) := by
    rw [List.perm_ext_iff_of_nodup (hnodup w) (hnodup w')]
    exact fun id => mem_visible.trans (h.finds_iff.trans mem_visible.symm)
  exact hperm.eq_of_pairwise (fun _ _ _ _ => String.le_antisymm) (hsorted w) (hsorted w')

/-- After some stops a cluster has the containers left that were not removed. -/
theorem groupOf_afterStops (w : World) (ids : List String) (id : String) :
    (Cluster.groupOf (w.afterStops ids).listing id).containers =
      (Cluster.groupOf w.listing id).containers.filter fun info =>
        !(ids.contains info.id && (w.plan.stop info.id).removes) := by
  rw [Cluster.groupOf, Cluster.groupOf, listing, listing, List.filter_filter, List.filter_map,
    List.filter_map]
  show (List.filter _ (w.containers.filter (Stays w.plan ids))).map _ = _
  rw [List.filter_filter]
  congr 1
  exact List.filter_congr fun held _ => Bool.and_comm _ _

/-- Two worlds that have come from two others, and agree on what the caller finds. The same was asked
of their runtimes on the way, and nothing else was changed in either. -/
structure Alike (caller : Caller) (w w' v v' : World) : Prop where
  agree : Agree caller v v'
  within : Within caller w v
  within' : Within caller w' v'
  asked : ∃ asked, v.calls = w.calls ++ asked ∧ v'.calls = w'.calls ++ asked

/-- Two such worlds under the same plan and clock. -/
structure Twins (caller : Caller) (w w' v v' : World) : Prop extends Alike caller w w' v v' where
  plan : v.plan = v'.plan
  now : v.now = v'.now

namespace Twins

variable (h : Twins caller w w' v v')

include h

theorem list_map_shown : v.list.map (v.shown m caller) = v'.list.map (v'.shown m caller) := by
  rw [list, list, h.plan]
  cases v'.plan.list with
  | some fault => rfl
  | none =>
    show Except.ok ((v.visible caller).map (v.clusterOf m v.listing)) =
      Except.ok ((v'.visible caller).map (v'.clusterOf m v'.listing))
    rw [h.agree.visible_eq]
    refine congrArg Except.ok (List.map_congr_left fun id hid => ?_)
    obtain ⟨hgroup, hlease⟩ := h.agree id (.inr (mem_visible.1 hid))
    rw [clusterOf, clusterOf, hgroup, hlease]

theorem noting (call : Call) : Twins caller w w' (v.noting call) (v'.noting call) := by
  obtain ⟨asked, hasked, hasked'⟩ := h.asked
  refine ⟨⟨h.agree, h.within.frame rfl rfl rfl, h.within'.frame rfl rfl rfl, asked ++ [call],
    ?_, ?_⟩, h.plan, h.now⟩
  · rw [← List.append_assoc, ← hasked]
    rfl
  · rw [← List.append_assoc, ← hasked']
    rfl

theorem stop {ids : List String} (hfinds : Finds caller v.listing id) (hids : ids ⊆ v.members id) :
    Twins caller w w' ((v.noting .list).afterStops ids) ((v'.noting .list).afterStops ids) := by
  have hfinds' := h.agree.finds_iff.1 hfinds
  have hids' : ids ⊆ v'.members id := by
    rw [members, ← (h.agree id (.inl hfinds)).1]
    exact hids
  have hstopped := stopped_afterStops v ids
  have hstopped' := stopped_afterStops v' ids
  refine ⟨⟨?_, h.within.stop hstopped hfinds hids, h.within'.stop hstopped' hfinds' hids', ?_⟩,
    h.plan, h.now⟩
  · intro other hother
    -- What is found in either world was found there before, and the same stops leave the same of it.
    have hbefore := hother.imp (hstopped.finds h.within.distinct hfinds hids)
      (hstopped'.finds h.within'.distinct hfinds' hids')
    obtain ⟨hgroup, hlease⟩ := h.agree other hbefore
    refine ⟨congrArg (Cluster.Group.mk other) ?_, hlease⟩
    have hleft := groupOf_afterStops (v.noting .list) ids other
    have hleft' := groupOf_afterStops (v'.noting .list) ids other
    have hplan : (v.noting .list).plan = (v'.noting .list).plan := h.plan
    have hlisted : Cluster.groupOf (v.noting .list).listing other =
        Cluster.groupOf (v'.noting .list).listing other := hgroup
    rw [hlisted, hplan, ← hleft'] at hleft
    exact hleft
  · obtain ⟨asked, hasked, hasked'⟩ := h.asked
    refine ⟨asked ++ .list :: ids.map .stop, ?_, ?_⟩
    · simp [afterStops, World.noting, hasked]
    · simp [afterStops, World.noting, hasked']

/-- A refresh comes to the same lease in twin worlds, since only the caller's own record is read. -/
theorem refreshed_eq {leases leases' : Leases} (hstore : v.store = .memory leases)
    (hstore' : v'.store = .memory leases') (extension : Duration) :
    v.refreshed leases caller id extension = v'.refreshed leases' caller id extension := by
  have hclock : v.clock = v'.clock := by rw [clock, clock, h.now]
  rw [refreshed, refreshed, list, list, h.plan, hclock]
  cases v'.plan.list with
  | some fault => rfl
  | none =>
    show (if Finds caller v.listing id then _ else _) = (if Finds caller v'.listing id then _ else _)
    by_cases hfinds : Finds caller v.listing id
    · have hlease := (h.agree id (.inl hfinds)).2
      rw [lease?_memory hstore, lease?_memory hstore'] at hlease
      rw [if_pos hfinds, if_pos (h.agree.finds_iff.1 hfinds), hlease]
    · rw [if_neg hfinds, if_neg fun hfinds' => hfinds (h.agree.finds_iff.2 hfinds')]

theorem put {leases leases' : Leases} (hstore : v.store = .memory leases)
    (hstore' : v'.store = .memory leases') (hfinds : Finds caller v.listing id) (lease : Lease) :
    Twins caller w w' { v.noting .list with store := .memory (leases.put id lease) }
      { v'.noting .list with store := .memory (leases'.put id lease) } := by
  have hfinds' := h.agree.finds_iff.1 hfinds
  obtain ⟨asked, hasked, hasked'⟩ := (h.noting .list).asked
  refine ⟨⟨fun other hother => ⟨(h.agree other hother).1, ?_⟩, h.within.put hstore hfinds lease _,
    h.within'.put hstore' hfinds' lease _, asked, hasked, hasked'⟩, h.plan, h.now⟩
  have hbefore := (h.agree other hother).2
  rw [lease?_memory hstore, lease?_memory hstore'] at hbefore
  rw [lease?_memory rfl, lease?_memory rfl, Table.get?_put, Table.get?_put, hbefore]

end Twins

/-! ### Operations in two worlds -/

section Parallel

variable (m : Manager) (caller : Caller) (w w' : World)

theorem parallel_clusters : (m.clusters caller).Parallel answerQuietly (Twins caller w w') := by
  intro v v' h
  rw [run_clusters h.within.readable, run_clusters h.within'.readable]
  exact ⟨h.list_map_shown, h.noting .list⟩

theorem parallel_cluster (id : String) :
    (m.cluster caller id).Parallel answerQuietly (Twins caller w w') := by
  refine (parallel_clusters m caller w w').bind fun clusters => ?_
  split
  · exact Program.parallel_pure _
  · exact Program.parallel_fail _

/-- What is asked about the order of tasks, and the log, are the same for both. -/
theorem parallel_ask_routine {call : Call} (hroutine : call.IsRoutine) :
    (Manager.ask call).Parallel answerQuietly (Twins caller w w') := by
  intro v v' h
  cases call with
  | log entry => exact ⟨rfl, h⟩
  | arrange label count =>
    have hsame : v.plan.arrange label count = v'.plan.arrange label count := by rw [h.plan]
    exact ⟨congrArg Except.ok hsame, h⟩
  | collect label count =>
    have hsame : v.plan.collect label count = v'.plan.collect label count := by rw [h.plan]
    exact ⟨congrArg Except.ok hsame, h⟩
  | _ => cases hroutine

/-- A kill runs alike in twin worlds. -/
theorem parallel_kill (id : String) :
    (m.kill caller id).Parallel answerQuietly (Twins caller w w') := by
  intro v v' h
  cases hlist : v.plan.list with
  | some fault =>
    have hlist' : v'.plan.list = some fault := h.plan ▸ hlist
    have hfails : v.list = .error fault := by rw [list, hlist]
    have hfails' : v'.list = .error fault := by rw [list, hlist']
    rw [run_kill_of_list_error h.within.readable hfails, run_kill_of_list_error h.within'.readable hfails']
    exact ⟨rfl, h.noting .list⟩
  | none =>
    have hlist' : v'.plan.list = none := h.plan ▸ hlist
    rw [run_kill m caller h.within.readable hlist h.within.distinct,
      run_kill m caller h.within'.readable hlist' h.within'.distinct]
    by_cases hfinds : Finds caller v.listing id
    · obtain ⟨hgroup, hlease⟩ := h.agree id (.inl hfinds)
      -- Members and lease of a found cluster are the same in both worlds, and so is the order of the plan.
      have horder : v.stopOrder id = v'.stopOrder id := by
        rw [stopOrder, stopOrder, arranged, arranged, members, members, hgroup, h.plan]
      have htold : v.stoppedOrder id = v'.stoppedOrder id := by
        rw [stoppedOrder, stoppedOrder, completed, completed, horder, h.plan]
      rw [if_pos hfinds, if_pos (h.agree.finds_iff.1 hfinds), mayKill, mayKill, hlease, ← horder, ← htold, h.plan]
      split
      · exact ⟨rfl, h.stop hfinds fun _ hmem => (v.stopOrder_perm id).subset hmem⟩
      · exact ⟨rfl, h.noting .list⟩
    · rw [if_neg hfinds, if_neg fun hfinds' => hfinds (h.agree.finds_iff.2 hfinds')]
      exact ⟨rfl, h.noting .list⟩

theorem parallel_killAll : (m.killAll caller).Parallel answerQuietly (Twins caller w w') := by
  refine (parallel_ask_routine caller w w' (Call.isRoutine_log _)).bind fun _ => ?_
  refine (parallel_clusters m caller w w').bind fun clusters => ?_
  refine (Manager.parallel_fanOut (fun _ => parallel_ask_routine caller w w')
    (parallel_kill m caller w w') _).bind fun fault? => ?_
  exact Manager.parallel_failWith fault?

theorem parallel_refresh (id : String) (extension : Duration) :
    (m.refresh caller id extension).Parallel answerQuietly (Twins caller w w') := by
  intro v v' h
  obtain ⟨leases, hstore⟩ := h.within.memory
  obtain ⟨leases', hstore'⟩ := h.within'.memory
  rw [run_refresh m caller hstore, run_refresh m caller hstore']
  rw [← h.refreshed_eq hstore hstore']
  cases houtcome : v.refreshed leases caller id extension with
  | error fault =>
    -- A refresh that fails puts the leases back that were there.
    have hkept (u : World) (kept : Leases) (hkept : u.store = .memory kept) :
        { u.noting .list with store := .memory kept } = u.noting .list := by
      rw [noting, ← hkept]
    exact ⟨rfl, (hkept v leases hstore).symm ▸ (hkept v' leases' hstore').symm ▸ h.noting .list⟩
  | ok lease =>
    obtain ⟨listing, expiry, hlist, hfinds, -, -⟩ := refreshed_eq_ok houtcome
    have hlisting : listing = v.listing := listing_of_list hlist
    exact ⟨rfl, h.put hstore hstore' (hlisting ▸ hfinds) lease⟩

/-- All operations but allocations. -/
theorem parallel_operation {operation : Operation}
    (hoperation : ∀ wanted, operation ≠ .allocate wanted) :
    (operation.program m caller).Parallel answerQuietly (Twins caller w w') := by
  cases operation with
  | clusters => exact parallel_clusters m caller w w'
  | cluster id => exact parallel_cluster m caller w w' id
  | allocate wanted => exact absurd rfl (hoperation wanted)
  | refresh id extension => exact parallel_refresh m caller w w' id extension
  | kill id => exact parallel_kill m caller w w' id
  | killAll => exact parallel_killAll m caller w w'

end Parallel

/-! ### Runs -/

/-- The caller asks for something else than an allocation, and no container goes away by itself. -/
structure OfCaller (caller : Caller) (turn : Turn) : Prop where
  caller : turn.caller = caller
  lost : turn.lost = []
  operation : ∀ wanted, turn.operation ≠ .allocate wanted

variable {turn : Turn}

/-- The beginning of a turn of the caller makes twins of worlds that were alike. -/
theorem Alike.begin (h : Alike caller w w' v v') (hturn : OfCaller caller turn) :
    Twins caller w w' (v.begin turn) (v'.begin turn) := by
  have hall (u : World) :
      (u.containers.filter fun held => !turn.lost.contains held.info.id) = u.containers := by
    rw [hturn.lost]
    exact List.filter_eq_self.2 fun _ _ => rfl
  have hbegin (u : World) : u.begin turn = { u with plan := turn.plan, now := turn.now } := by
    rw [World.begin, hall]
  rw [hbegin, hbegin]
  exact ⟨⟨h.agree, h.within.frame rfl rfl rfl, h.within'.frame rfl rfl rfl, h.asked⟩, rfl, rfl⟩

/-- A turn has the same outcome in both worlds, and leaves them alike. -/
theorem Alike.take (h : Alike caller w w' v v') (hturn : OfCaller caller turn) :
    ((turn.operation.program m turn.caller).run answer (v.begin turn)).1 =
      ((turn.operation.program m turn.caller).run answer (v'.begin turn)).1 ∧
    Alike caller w w' (v.take m turn) (v'.take m turn) := by
  obtain rfl := hturn.caller
  obtain ⟨houtcome, htwins⟩ :=
    parallel_operation m turn.caller w w' hturn.operation _ _ (h.begin hturn)
  rw [run_quietly, run_quietly] at houtcome htwins
  exact ⟨houtcome, htwins.agree, htwins.within.frame rfl rfl rfl, htwins.within'.frame rfl rfl rfl,
    htwins.asked⟩

theorem Alike.after {turns : List Turn} (h : Alike caller w w' v v')
    (hturns : ∀ turn ∈ turns, OfCaller caller turn) :
    Alike caller w w' (v.after m turns) (v'.after m turns) := by
  induction turns generalizing v v' with
  | nil => exact h
  | cons turn rest ih =>
    -- After the first turn both worlds have moved on, but are still alike.
    exact ih (h.take (hturns turn List.mem_cons_self)).2 fun other hother =>
      hturns other (List.mem_cons_of_mem _ hother)

/-- A caller who minds ownership is told the same by two worlds that agree on the clusters that were
made for them. The same is asked of both runtimes, and all other clusters and leases stay as they
are in both. -/
theorem users_stay_apart (m : Manager) (hregards : caller.ignoresOwnership = false)
    {leases leases' : Leases} (hstore : w.store = .memory leases)
    (hstore' : w'.store = .memory leases') (hdistinct : w.Distinct) (hdistinct' : w'.Distinct)
    (hagree : ∀ id, w.MadeFor caller.user id ∨ w'.MadeFor caller.user id → SameCluster w w' id)
    {turns : List Turn} (hturns : ∀ turn ∈ turns, OfCaller caller turn) :
    (∀ before turn rest, turns = before ++ turn :: rest →
      ((turn.operation.program m turn.caller).run answer ((w.after m before).begin turn)).1 =
        ((turn.operation.program m turn.caller).run answer ((w'.after m before).begin turn)).1) ∧
    (∃ asked, (w.after m turns).calls = w.calls ++ asked ∧
      (w'.after m turns).calls = w'.calls ++ asked) ∧
    Within caller w (w.after m turns) ∧ Within caller w' (w'.after m turns) := by
  -- The two worlds start alike by assumption, and every turn keeps them so.
  have hstart : Alike caller w w' w w' := by
    refine ⟨fun id hid => hagree id ?_, ⟨rfl, fun _ _ => rfl, fun _ h => h, hdistinct, _, hstore⟩,
      ⟨rfl, fun _ _ => rfl, fun _ h => h, hdistinct', _, hstore'⟩, [], by simp, by simp⟩
    exact hid.imp (finds_iff_madeFor hregards).1 (finds_iff_madeFor hregards).1
  have hlast := hstart.after (m := m) hturns
  refine ⟨?_, hlast.asked, hlast.within, hlast.within'⟩
  rintro before turn rest rfl
  have hbefore : Alike caller w w' (w.after m before) (w'.after m before) :=
    hstart.after fun other hother => hturns other (List.mem_append_left _ hother)
  exact (hbefore.take (hturns turn (by simp))).1

namespace Sample

/-- A world with one cluster of a caller, who owns it. -/
def alone : World :=
  { initial Plan.smooth .yaml newYear with
    containers := [lone], store := .memory [("c2", Lease.ofUser "ann" newYear)] }

/-- A container of somebody else, beside which the caller's own are looked at. -/
def stranger : Held :=
  ⟨⟨"d", "running", Manager.nodeLabels ⟨"bob", false⟩ "c1" (node "node_1"), []⟩, []⟩

/-- The same world with a cluster of someone else. -/
def crowded : World :=
  { alone with containers := [stranger, lone], store := .memory [("c1", Lease.ofUser "bob" newYear),
    ("c2", Lease.ofUser "ann" newYear)] }

/-- A caller asks for a minute more, and then kills everything. -/
def farewell : List Turn :=
  [⟨ann, .refresh "c2" minute, Plan.smooth, newYear, []⟩, ⟨ann, .killAll, Plan.smooth, hourLater, []⟩]

/-- In both sample worlds this caller has the second cluster only. -/
theorem madeFor_ann {id : String}
    (h : alone.MadeFor ann.user id ∨ crowded.MadeFor ann.user id) : id = "c2" := by
  rcases h with ⟨hid, -⟩ | ⟨hid, hcreator⟩
  · obtain ⟨info, hinfo, hcarries⟩ := Cluster.mem_ids.1 hid
    obtain rfl : info = lone.info := List.mem_singleton.1 hinfo
    exact (Option.some.inj hcarries).symm
  · obtain ⟨info, hinfo, hcarries⟩ := Cluster.mem_ids.1 hid
    rcases List.mem_cons.1 hinfo with rfl | hinfo
    · -- The other cluster was made for someone else.
      obtain rfl : "c1" = id := Option.some.inj hcarries
      have hother : (Cluster.groupOf crowded.listing "c1").creator = "bob" := by decide +kernel
      exact absurd (hcreator.symm.trans hother) (by decide)
    · obtain rfl : info = lone.info := List.mem_singleton.1 hinfo
      exact (Option.some.inj hcarries).symm

end Sample

open Sample in
/-- Whoever else is there, a caller is told the same, and the container of someone else stays. -/
theorem users_stay_apart_of_farewell :
    ann.ignoresOwnership = false ∧ alone.Distinct ∧ crowded.Distinct ∧
    (∀ id, alone.MadeFor ann.user id ∨ crowded.MadeFor ann.user id → SameCluster alone crowded id) ∧
    (∀ turn ∈ farewell, OfCaller ann turn) ∧
    (∃ asked, (alone.after manager farewell).calls = asked ∧
      (crowded.after manager farewell).calls = asked) ∧
    stranger ∈ (crowded.after manager farewell).containers := by
  have hdistinct : alone.Distinct := by decide
  have hdistinct' : crowded.Distinct := by decide
  have hagree : ∀ id, alone.MadeFor ann.user id ∨ crowded.MadeFor ann.user id →
      SameCluster alone crowded id := by
    intro id hid
    obtain rfl := madeFor_ann hid
    exact ⟨rfl, rfl⟩
  have hturns : ∀ turn ∈ farewell, OfCaller ann turn := by
    simp only [farewell, List.forall_mem_cons]
    exact ⟨⟨rfl, rfl, fun _ h => by cases h⟩, ⟨rfl, rfl, fun _ h => by cases h⟩, fun _ h => by cases h⟩
  obtain ⟨-, ⟨asked, hasked, hasked'⟩, -, hwithin⟩ :=
    users_stay_apart manager rfl rfl rfl hdistinct hdistinct' hagree hturns
  refine ⟨rfl, hdistinct, hdistinct', hagree, hturns, ⟨asked, hasked, hasked'⟩, ?_⟩
  -- The other cluster is not found by the caller, so that its container is among those left alone.
  have hforeign : crowded.Foreign ann stranger = true := by
    have hnot : ¬Finds ann crowded.listing "c1" := fun hfinds =>
      absurd (madeFor_ann (.inr ((finds_iff_madeFor rfl).1 hfinds))) (by decide)
    have hid : Cluster.idOf? stranger.info = some "c1" := rfl
    simp [Foreign, hid, hnot]
  have hmem : stranger ∈ crowded.containers.filter (crowded.Foreign ann) :=
    List.mem_filter.2 ⟨List.mem_cons_self, hforeign⟩
  rw [← hwithin.containers] at hmem
  exact (List.mem_filter.1 hmem).1

end ClusterLease.World
