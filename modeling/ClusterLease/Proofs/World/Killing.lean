import ClusterLease.Proofs.World.Courses
import ClusterLease.Proofs.World.Damaged

/-!
What exactly is killed, in whatever order.

In a table in which no id comes twice, `run_kill` says what a kill does: it stops the `members` of a
cluster that the caller finds and may kill, and no other container, and fails if it is refused or if
a stop does harm. No kill reaches into another cluster (`Stopped.groupOf_eq`), so that the kills of
several clusters do the same in any order (`run_kills`). `kills_exactly` says this of every table,
every keeper of leases and every caller.
-/

namespace ClusterLease.World

open Container (Info)
open Manager (Call Finished)

/-- The fault of a stop that counts as one. It does no harm that a container is gone already. -/
def StopPlan.harm? (plan : StopPlan) : Option Fault :=
  match plan.fault? with
  | some (.containerNotFound _) => none
  | fault? => fault?

/-- No container id comes twice in the table. -/
def Distinct (w : World) : Prop := (w.containers.map (·.info.id)).Nodup

instance (w : World) : Decidable w.Distinct := inferInstanceAs (Decidable (List.Nodup _))

def listing (w : World) : List Info := w.containers.map (·.info)

/-- The ids of the containers of a cluster, in the order of the table. -/
def members (w : World) (id : String) : List String :=
  (Cluster.groupOf w.listing id).containers.map (·.id)

/-- The caller has no regard for ownership, or owns the cluster. -/
def mayKill (w : World) (caller : Caller) (id : String) : Bool :=
  caller.ignoresOwnership || ((w.lease? id).bind fun lease => lease.owner.text?) == some caller.user

def Kills (w : World) (caller : Caller) (id : String) : Prop :=
  Finds caller w.listing id ∧ w.mayKill caller id = true

instance (w : World) (caller : Caller) (id : String) : Decidable (w.Kills caller id) :=
  inferInstanceAs (Decidable (_ ∧ _))

/-- What a kill of a cluster stops. -/
def targets (w : World) (caller : Caller) (id : String) : List String :=
  if w.Kills caller id then w.members id else []

/-- The clusters that a caller finds. -/
def visible (w : World) (caller : Caller) : List String :=
  (Cluster.ids w.listing).filter fun id => Manager.sees caller (Cluster.groupOf w.listing id)

/-- The first fault of some stops that counts as one. -/
def firstHarm (plan : Plan) (ids : List String) : Option Fault :=
  ids.findSome? fun id => (plan.stop id).harm?

theorem firstHarm_eq_none {plan : Plan} {ids : List String} :
    firstHarm plan ids = none ↔ ∀ id ∈ ids, (plan.stop id).harm? = none := by
  rw [firstHarm, List.findSome?_eq_none_iff]

def outcomeOf : Option Fault → Except Fault Unit
  | none => .ok ()
  | some fault => .error fault

theorem outcomeOf_eq_ok {fault? : Option Fault} : outcomeOf fault? = .ok () ↔ fault? = none := by
  cases fault? <;> simp [outcomeOf]

variable {w after : World} {m : Manager} {caller : Caller} {id other : String}

/-! ### One container after another -/

theorem held?_isSome {container : String} :
    (w.held? container).isSome ↔ ∃ held ∈ w.containers, held.info.id = container := by
  simp [held?, List.find?_isSome]

theorem stop_of_held {container : String} (h : (w.held? container).isSome) :
    (w.stop container).1 = outcomeOf (w.plan.stop container).fault? := by
  rw [stop]
  cases w.plan.stop container with
  | fails fault => rfl
  | works => exact congrArg Prod.fst (if_pos h)
  | failsAfter fault => exact congrArg Prod.fst (if_pos h)

/-- Killing a node that is there comes to the harm of its stop, if there is one. -/
theorem killNode_outcome (caller : Caller) {container : String} (h : (w.held? container).isSome) :
    ((Manager.killNode caller container).run answerQuietly w).1 =
      outcomeOf (w.plan.stop container).harm? := by
  have hstop : (answerQuietly (.stop container) w).1 = outcomeOf (w.plan.stop container).fault? :=
    stop_of_held (w := w.noting (.stop container)) h
  rw [Manager.killNode, run_info_bind, run_ask_bind, hstop, StopPlan.harm?]
  cases (w.plan.stop container).fault? with
  | none => rfl
  | some fault => cases fault <;> rfl

theorem held?_afterStops {container : String} {ids : List String} (h : container ∉ ids) :
    ((w.afterStops ids).held? container).isSome = (w.held? container).isSome := by
  rw [Bool.eq_iff_iff, held?_isSome, held?_isSome]
  constructor
  · rintro ⟨held, hheld, rfl⟩
    exact ⟨held, (List.mem_filter.1 hheld).1, rfl⟩
  · rintro ⟨held, hheld, rfl⟩
    have hstays : Stays w.plan ids held = true := by simp [Stays, h]
    exact ⟨held, List.mem_filter.2 ⟨hheld, hstays⟩, rfl⟩

/-- Different nodes that are there are all stopped, and each has the fault that the plan has for it. -/
theorem run_stopNodes_of_held (caller : Caller) {nodes : List Node} (w : World)
    (hdistinct : (nodes.map (·.containerId)).Nodup)
    (hheld : ∀ node ∈ nodes, (w.held? node.containerId).isSome) : ∃ finished,
    (Manager.runAll (fun node : Node => Manager.killNode caller node.containerId) nodes).run
      answerQuietly w = (.ok finished, w.afterStops (nodes.map (·.containerId))) ∧
      finished.map Finished.fault? =
        nodes.map fun node => (w.plan.stop node.containerId).harm? := by
  induction nodes generalizing w with
  | nil => exact ⟨[], by rw [List.map_nil, afterStops_nil]; rfl, rfl⟩
  | cons node rest ih =>
    rw [List.map_cons, List.nodup_cons] at hdistinct
    have houtcome := killNode_outcome caller (hheld node List.mem_cons_self)
    obtain ⟨outcome, hrun, -⟩ := run_killNode caller w node.containerId
    rw [hrun] at houtcome
    dsimp only at houtcome
    -- The other containers are still there, for none of them has the id of this one.
    have hothers : ∀ other ∈ rest,
        ((w.afterStops [node.containerId]).held? other.containerId).isSome := by
      intro other hother
      have hne : other.containerId ∉ [node.containerId] := by
        rw [List.mem_singleton]
        exact fun heq => hdistinct.1 (heq ▸ List.mem_map_of_mem hother)
      rw [held?_afterStops hne]
      exact hheld other (List.mem_cons_of_mem _ hother)
    obtain ⟨finished, hrest, hfaults⟩ := ih (w.afterStops [node.containerId]) hdistinct.2 hothers
    refine ⟨⟨node, outcome⟩ :: finished, ?_, ?_⟩
    · rw [Manager.runAll, Program.run_bind, Program.run_attempt, hrun]
      dsimp only
      rw [Program.run_bind, hrest, afterStops_cons]
      rfl
    · rw [List.map_cons, List.map_cons, hfaults]
      congr 1
      rw [Finished.fault?, houtcome]
      cases (w.plan.stop node.containerId).harm? <;> rfl

/-! ### One cluster -/

theorem arranged_map {α β : Type} (w : World) (label : String) (items : List α) (f : α → β) :
    (w.arranged label items).map f = w.arranged label (items.map f) := by
  rw [arranged, arranged, List.length_map, Manager.Arrangement.apply_map]

/-- The containers of a cluster in the order in which a kill stops them. -/
def stopOrder (w : World) (id : String) : List String := w.arranged s!"kill-{id}" (w.members id)

/-- The nodes of a cluster are stopped in some order, each of them once. -/
theorem stopOrder_perm (w : World) (id : String) : (w.stopOrder id).Perm (w.members id) :=
  w.arranged_perm _ _

/-- The containers of a cluster in the order in which they are told to be stopped. -/
def stoppedOrder (w : World) (id : String) : List String := w.completed s!"kill-{id}" (w.stopOrder id)

/-- The stops of a cluster's nodes end in some order, each of them once. -/
theorem stoppedOrder_perm (w : World) (id : String) : (w.stoppedOrder id).Perm (w.members id) :=
  (w.completed_perm _ _).trans (w.stopOrder_perm id)

theorem mem_members {container : String} :
    container ∈ w.members id ↔
      ∃ held ∈ w.containers, held.info.id = container ∧ Cluster.idOf? held.info = some id := by
  rw [members, List.mem_map]
  constructor
  · rintro ⟨info, hinfo, rfl⟩
    obtain ⟨hlisted, hid⟩ := Cluster.mem_containers_groupOf.1 hinfo
    obtain ⟨held, hheld, rfl⟩ := List.mem_map.1 hlisted
    exact ⟨held, hheld, rfl, hid⟩
  · rintro ⟨held, hheld, rfl, hid⟩
    exact ⟨held.info, Cluster.mem_containers_groupOf.2 ⟨List.mem_map_of_mem hheld, hid⟩, rfl⟩

/-- Where containers have different ids, a cluster's members are listed once. -/
theorem Distinct.members (h : w.Distinct) (id : String) : (w.members id).Nodup := by
  have hsublist : (w.members id).Sublist (w.listing.map (·.id)) := List.filter_sublist.map _
  rw [listing, List.map_map] at hsublist
  exact hsublist.nodup h

/-- Who finds a cluster may kill it exactly if its lease is theirs, unless they have no regard for
ownership. -/
theorem mayKill_clusterOf (hfinds : Finds caller w.listing id) :
    Manager.mayKill caller (w.clusterOf m w.listing id) = w.mayKill caller id := by
  rw [Manager.mayKill, mayKill, clusterOf]
  cases hlease : w.lease? id with
  | some lease => rfl
  | none =>
    cases hregards : caller.ignoresOwnership with
    | true => rfl
    | false =>
      -- Without a lease the owner is empty, but creators never are, and so callers that see it.
      have hcreator : (Cluster.groupOf w.listing id).creator = caller.user := by
        simpa [Manager.sees, hregards] using hfinds.2
      have huser : caller.user ≠ "" := hcreator ▸ Cluster.Group.creator_ne_empty _
      simp [Cluster.ofGroup, Value.text?, huser.symm]

/-- What comes of a kill: the fault that it ends in, and the containers that it stops. -/
theorem run_kill (m : Manager) (caller : Caller) (h : w.store.Readable w.format)
    (hlist : w.plan.list = none) (hdistinct : w.Distinct) (id : String) :
    (m.kill caller id).run answerQuietly w =
      if Finds caller w.listing id then
        if w.mayKill caller id then
          (outcomeOf (firstHarm w.plan (w.stoppedOrder id)),
            (w.noting .list).afterStops (w.stopOrder id))
        else (.error .forbidden, w.noting .list)
      else (.error (.clusterNotFound id), w.noting .list) := by
  have hworks : w.list = .ok w.listing := by rw [list, hlist]; rfl
  by_cases hfinds : Finds caller w.listing id
  · rw [if_pos hfinds]
    have hmay := mayKill_clusterOf (m := m) hfinds
    cases hkill : w.mayKill caller id with
    | false => exact run_kill_of_not_mayKill h hworks hfinds (hmay.trans hkill)
    | true =>
      rw [if_pos rfl]
      let nodes := (w.clusterOf m w.listing id).nodes
      have hids : nodes.map (·.containerId) = w.members id := List.map_map
      have harranged : ((w.noting .list).arranged s!"kill-{id}" nodes).map (·.containerId) =
          w.stopOrder id := by
        rw [arranged_map, hids]
        rfl
      have hnodup : (w.stopOrder id).Nodup :=
        (w.stopOrder_perm id).nodup_iff.2 (hdistinct.members id)
      have hheld : ∀ node ∈ (w.noting .list).arranged s!"kill-{id}" nodes,
          ((w.noting .list).held? node.containerId).isSome := by
        intro node hnode
        have hmem : node.containerId ∈ w.members id :=
          (w.stopOrder_perm id).subset (harranged ▸ List.mem_map_of_mem hnode)
        obtain ⟨held, hheld, heq, -⟩ := mem_members.1 hmem
        exact held?_isSome.2 ⟨held, hheld, heq⟩
      obtain ⟨finished, hrun, hfaults⟩ :=
        run_stopNodes_of_held caller (w.noting .list) (harranged ▸ hnodup) hheld
      rw [harranged] at hrun
      let last := (w.noting .list).afterStops (w.stopOrder id)
      -- The first harm of the stops is the first fault of the tasks, both in completion order.
      have hfirst : (last.completed s!"kill-{id}" finished).findSome? Finished.fault? =
          firstHarm w.plan (w.stoppedOrder id) := by
        rw [findSome?_completed last _ hfaults, firstHarm, stoppedOrder, ← harranged, ← completed_map,
          List.findSome?_map]
        rfl
      rw [Manager.kill, run_info_bind, Program.run_bind, run_cluster h, hworks]
      simp only [Except.bind, if_pos hfinds, hmay, hkill, if_true]
      rw [Program.run_bind, run_fanOut _ _ hrun, hfirst]
      cases firstHarm w.plan (w.stoppedOrder id) <;> rfl
  · rw [if_neg hfinds]
    exact run_kill_of_not_finds h hworks hfinds

/-! ### One cluster after another -/

/-- A world in which nothing has changed but that some containers were asked to stop. -/
def Stopped (w after : World) (ids : List String) : Prop :=
  ∃ asked logs, stoppedIds asked = ids ∧ after =
    { w with
      calls := w.calls ++ asked
      containers := w.containers.filter (Stays w.plan ids)
      logs := logs }

theorem stoppedIds_map_stop (ids : List String) : stoppedIds (ids.map .stop) = ids := by
  rw [stoppedIds, List.filterMap_map]
  exact List.filterMap_some

/-- After stopping some containers, these are all that is gone. -/
theorem stopped_afterStops (w : World) (ids : List String) :
    Stopped w ((w.noting .list).afterStops ids) ids := by
  refine ⟨.list :: ids.map .stop, w.logs, stoppedIds_map_stop ids, ?_⟩
  simp only [afterStops, noting, List.append_assoc, List.singleton_append]

theorem stopped_refl (w : World) : Stopped w w [] := by
  have hall : w.containers.filter (Stays w.plan []) = w.containers :=
    congrArg World.containers (afterStops_nil w)
  exact ⟨[], w.logs, rfl, by rw [hall, List.append_nil]⟩

theorem stopped_noting_list (w : World) : Stopped w (w.noting .list) [] := by
  have h := stopped_afterStops w []
  rwa [afterStops_nil] at h

theorem stays_append (plan : Plan) (ids others : List String) (held : Held) :
    (Stays plan others held && Stays plan ids held) = Stays plan (ids ++ others) held := by
  rw [Stays, Stays, Stays, List.contains_append]
  cases ids.contains held.info.id <;> cases others.contains held.info.id <;>
    cases (plan.stop held.info.id).removes <;> rfl

theorem Stopped.trans {last : World} {ids others : List String} (h : Stopped w after ids)
    (hlast : Stopped after last others) : Stopped w last (ids ++ others) := by
  obtain ⟨asked, logs, rfl, rfl⟩ := h
  obtain ⟨asked', logs', rfl, rfl⟩ := hlast
  refine ⟨asked ++ asked', logs', List.filterMap_append, ?_⟩
  have hstays : (fun held => Stays w.plan (stoppedIds asked') held &&
      Stays w.plan (stoppedIds asked) held) = Stays w.plan (stoppedIds asked ++ stoppedIds asked') :=
    funext fun held => stays_append w.plan _ _ held
  simp only [List.append_assoc, List.filter_filter, hstays]

theorem Stopped.withLogs {ids : List String} (h : Stopped w after ids) (logs : List Log.Entry) :
    Stopped w (after.withLogs logs) ids := by
  obtain ⟨asked, _, hids, rfl⟩ := h
  exact ⟨asked, logs, hids, rfl⟩

theorem Stopped.of_withLogs {ids : List String} {logs : List Log.Entry}
    (h : Stopped w (after.withLogs logs) ids) : Stopped w after ids := by
  obtain ⟨asked, logs', hids, heq⟩ := h
  have hafter : (after.withLogs logs).withLogs after.logs = after := rfl
  rw [heq] at hafter
  exact ⟨asked, after.logs, hids, hafter.symm⟩

theorem Stopped.distinct {ids : List String} (h : Stopped w after ids) (hdistinct : w.Distinct) :
    after.Distinct := by
  obtain ⟨asked, logs, -, rfl⟩ := h
  exact (List.filter_sublist.map _).nodup hdistinct

/-- Stops leave a cluster alone of which they name no container. -/
theorem Stopped.groupOf_eq {ids : List String} (h : Stopped w after ids)
    (hspared : ∀ held ∈ w.containers, Cluster.idOf? held.info = some id → held.info.id ∉ ids) :
    Cluster.groupOf after.listing id = Cluster.groupOf w.listing id := by
  obtain ⟨asked, logs, -, rfl⟩ := h
  rw [Cluster.groupOf, Cluster.groupOf, listing, listing, List.filter_map, List.filter_map,
    List.filter_filter]
  congr 2
  refine List.filter_congr fun held hheld => ?_
  rw [Function.comp_apply]
  cases hid : Cluster.idOf? held.info == some id with
  | false => rfl
  | true =>
    have hnot := hspared held hheld (by simpa using hid)
    simp [Stays, hnot]

/-- Where no id comes twice, a container that has the id of a member is that member. -/
theorem Distinct.idOf?_of_mem (h : w.Distinct) {held : Held} (hheld : held ∈ w.containers)
    (hmem : held.info.id ∈ w.members id) : Cluster.idOf? held.info = some id := by
  obtain ⟨held', hheld', heq, hid⟩ := mem_members.1 hmem
  obtain rfl : held' = held := List.inj_on_of_nodup_map h hheld' hheld heq
  exact hid

theorem Distinct.not_mem_members (h : w.Distinct) (hne : other ≠ id) {held : Held}
    (hheld : held ∈ w.containers) (hother : Cluster.idOf? held.info = some other) :
    held.info.id ∉ w.members id := fun hmem =>
  hne (Option.some.inj (hother.symm.trans (h.idOf?_of_mem hheld hmem)))

/-- Stops of members of one cluster leave the others alone. -/
theorem Stopped.groupOf_of_ne {ids : List String} (h : Stopped w after ids) (hdistinct : w.Distinct)
    (hids : ids ⊆ w.members id) (hne : other ≠ id) :
    Cluster.groupOf after.listing other = Cluster.groupOf w.listing other :=
  h.groupOf_eq fun _ hheld hother hmem => hdistinct.not_mem_members hne hheld hother (hids hmem)

/-- Whether a cluster is found depends on its own containers only. -/
theorem finds_congr {listing listing' : List Info}
    (h : Cluster.groupOf listing id = Cluster.groupOf listing' id) :
    Finds caller listing id ↔ Finds caller listing' id := by
  rw [Finds, Finds, Cluster.mem_ids_iff, Cluster.mem_ids_iff, h]

/-- What a kill or several kills do: they stop some containers, each once, and whether they succeed
depends on whether they are refused, and on the harm that the stops do. -/
structure Ends (w : World) (targets : List String) (refused : Prop)
    (result : Except Fault Unit × World) : Prop where
  stopped : ∃ ids, Stopped w result.2 ids ∧ ids.Perm targets ∧ ids.Nodup
  outcome : result.1 = .ok () ↔ ¬refused ∧ ∀ id ∈ targets, (w.plan.stop id).harm? = none

/-- Only members are ever stopped. -/
theorem targets_subset (w : World) (caller : Caller) (id : String) :
    w.targets caller id ⊆ w.members id := by
  rw [targets]
  split
  · exact fun _ hmem => hmem
  · exact List.nil_subset _

/-- A kill stops the members of its cluster if it is allowed, and nothing otherwise. -/
theorem kill_ends (m : Manager) (caller : Caller) (h : w.store.Readable w.format)
    (hlist : w.plan.list = none) (hdistinct : w.Distinct) (id : String) :
    Ends w (w.targets caller id) (¬w.Kills caller id)
      ((m.kill caller id).run answerQuietly w) := by
  rw [run_kill m caller h hlist hdistinct, targets]
  by_cases hkills : w.Kills caller id
  · rw [if_pos hkills.1, if_pos hkills.2, if_pos hkills]
    -- The members are stopped in some order, which changes neither what is stopped nor its harm.
    have hperm := w.stopOrder_perm id
    refine ⟨⟨_, stopped_afterStops w _, hperm, hperm.nodup_iff.2 (hdistinct.members id)⟩, ?_⟩
    rw [outcomeOf_eq_ok, firstHarm_eq_none]
    simp only [hkills, not_true, not_false_iff, true_and, (w.stoppedOrder_perm id).mem_iff]
  · rw [if_neg hkills]
    have hrefused (fault : Fault) : Ends w [] (¬w.Kills caller id) (.error fault, w.noting .list) :=
      ⟨⟨[], stopped_noting_list w, .refl _, List.nodup_nil⟩, by simp [hkills]⟩
    split
    · next hfinds =>
      rw [if_neg fun hmay => hkills ⟨hfinds, hmay⟩]
      exact hrefused _
    · exact hrefused _

/-- Killing one cluster leaves what would be stopped in every other. -/
theorem Stopped.same_of_ne {ids : List String} (h : Stopped w after ids) (hdistinct : w.Distinct)
    (hids : ids.Perm (w.targets caller id)) (hne : other ≠ id) :
    (after.Kills caller other ↔ w.Kills caller other) ∧
      after.targets caller other = w.targets caller other := by
  have hmembers : ids ⊆ w.members id := fun _ hmem => w.targets_subset caller id (hids.subset hmem)
  have hgroup := h.groupOf_of_ne hdistinct hmembers hne
  -- Stops do not touch the store, so that a cluster with the same group has the same owner as well.
  have hlease : after.lease? other = w.lease? other := by
    obtain ⟨asked, logs, -, rfl⟩ := h
    rfl
  have hkills : after.Kills caller other ↔ w.Kills caller other := by
    rw [Kills, Kills, mayKill, mayKill, hlease]
    exact and_congr_left fun _ => finds_congr hgroup
  refine ⟨hkills, ?_⟩
  rw [targets, targets, members, members, hgroup]
  exact if_congr hkills rfl rfl

/-- Different clusters are killed one after another, and each kill does what it would do alone. -/
theorem run_kills (m : Manager) (caller : Caller) {ids : List String} (hids : ids.Nodup)
    (h : w.store.Readable w.format) (hlist : w.plan.list = none) (hdistinct : w.Distinct) :
    ∃ finished last stopped, (Manager.runAll (m.kill caller) ids).run answerQuietly w =
        (.ok finished, last) ∧
      Stopped w last stopped ∧ stopped.Perm (ids.flatMap (w.targets caller)) ∧
      (finished.findSome? Finished.fault? = none ↔ (∀ id ∈ ids, w.Kills caller id) ∧
        ∀ container ∈ ids.flatMap (w.targets caller), (w.plan.stop container).harm? = none) := by
  induction ids generalizing w with
  | nil =>
    exact ⟨[], w, [], rfl, stopped_refl w, .refl _, by simp⟩
  | cons id rest ih =>
    obtain ⟨hnew, hrest⟩ := List.nodup_cons.1 hids
    obtain ⟨⟨first, hfirst, hperm, -⟩, houtcome⟩ := kill_ends m caller h hlist hdistinct id
    cases hrun : (m.kill caller id).run answerQuietly w with
    | mk outcome next =>
    rw [hrun] at hfirst houtcome
    -- The other kills start from a world in which their clusters are as they were.
    have hsame : ∀ other ∈ rest, (next.Kills caller other ↔ w.Kills caller other) ∧
        next.targets caller other = w.targets caller other := fun other hother =>
      hfirst.same_of_ne hdistinct hperm fun heq => hnew (heq ▸ hother)
    have htargets : rest.flatMap (next.targets caller) = rest.flatMap (w.targets caller) := by
      rw [List.flatMap_def, List.flatMap_def, List.map_congr_left fun other hother =>
        (hsame other hother).2]
    have hnext : next.store = w.store ∧ next.format = w.format ∧ next.plan = w.plan := by
      obtain ⟨asked, logs, -, rfl⟩ := hfirst
      exact ⟨rfl, rfl, rfl⟩
    obtain ⟨hstore, hformat, hplan⟩ := hnext
    obtain ⟨finished, last, stopped, hruns, hlast, hperms, hfaults⟩ :=
      ih hrest (hstore ▸ hformat ▸ h) (hplan ▸ hlist) (hfirst.distinct hdistinct)
    rw [htargets] at hperms hfaults
    refine ⟨⟨id, outcome⟩ :: finished, last, first ++ stopped, ?_, hfirst.trans hlast,
      hperm.append hperms, ?_⟩
    · rw [Manager.runAll, Program.run_bind, Program.run_attempt, hrun]
      dsimp only
      rw [Program.run_bind, hruns]
      rfl
    · have hfault : (⟨id, outcome⟩ : Finished String).fault? = none ↔ outcome = .ok () := by
        cases outcome <;> simp [Finished.fault?]
      have hfirst : ((⟨id, outcome⟩ : Finished String) :: finished).findSome? Finished.fault? = none ↔
          outcome = .ok () ∧ finished.findSome? Finished.fault? = none := by
        rw [List.findSome?_eq_none_iff, List.forall_mem_cons, hfault, List.findSome?_eq_none_iff]
      have hkills : (∀ other ∈ rest, next.Kills caller other) ↔ ∀ other ∈ rest, w.Kills caller other :=
        forall₂_congr fun other hother => (hsame other hother).1
      rw [hfirst, houtcome, hfaults, hkills, hplan]
      simp only [not_not, List.forall_mem_cons, List.flatMap_cons, List.forall_mem_append]
      constructor
      · rintro ⟨⟨hkill, hharm⟩, hothers, hharms⟩
        exact ⟨⟨hkill, hothers⟩, hharm, hharms⟩
      · rintro ⟨⟨hkill, hothers⟩, hharm, hharms⟩
        exact ⟨⟨hkill, hharm⟩, hothers, hharms⟩

/-- Over different clusters no container is stopped twice. -/
theorem Distinct.flatMap_targets (h : w.Distinct) (caller : Caller) {ids : List String}
    (hids : ids.Nodup) : (ids.flatMap (w.targets caller)).Nodup := by
  refine List.nodup_flatMap.2 ⟨fun id _ => ?_, hids.imp fun {id other} hne container hid hother => ?_⟩
  · rw [targets]
    split
    · exact h.members id
    · exact List.nodup_nil
  · -- A container that is a target twice would carry two clusters.
    obtain ⟨held, hheld, rfl, hcarries⟩ := mem_members.1 (w.targets_subset caller id hid)
    exact h.not_mem_members hne hheld hcarries (w.targets_subset caller other hother)

theorem mem_visible : id ∈ w.visible caller ↔ Finds caller w.listing id := List.mem_filter

/-- Killing all clusters is refused for those that the caller sees but may not kill. -/
theorem killAll_ends (m : Manager) (caller : Caller) (h : w.store.Readable w.format)
    (hlist : w.plan.list = none) (hdistinct : w.Distinct) :
    Ends w ((w.visible caller).flatMap (w.targets caller))
      (∃ id ∈ w.visible caller, w.mayKill caller id = false)
      ((m.killAll caller).run answerQuietly w) := by
  have hworks : w.list = .ok w.listing := by rw [list, hlist]; rfl
  have hshown : (w.shown m caller w.listing).map (·.id) = w.visible caller := by
    rw [shown, List.map_map]
    exact List.map_id _
  have hperm := (w.noting .list).arranged_perm "kill-all" (w.visible caller)
  have hnodup : ((w.noting .list).arranged "kill-all" (w.visible caller)).Nodup :=
    hperm.nodup_iff.2 ((Cluster.nodup_ids _).sublist List.filter_sublist)
  obtain ⟨finished, last, stopped, hruns, hstopped, hstops, hfaults⟩ :=
    run_kills m caller hnodup (w := w.noting .list) h hlist hdistinct
  have htargets := hstops.trans (hperm.flatMap_right (w.targets caller))
  have hrun : (m.killAll caller).run answerQuietly w =
      (outcomeOf ((last.completed "kill-all" finished).findSome? Finished.fault?), last) := by
    rw [Manager.killAll, run_info_bind, Program.run_bind, run_clusters h, hworks]
    dsimp only [Except.map]
    rw [hshown, Program.run_bind, run_fanOut _ _ hruns]
    cases (last.completed "kill-all" finished).findSome? Finished.fault? <;> rfl
  rw [hrun]
  refine ⟨⟨stopped, (stopped_noting_list w).trans hstopped, htargets, htargets.nodup_iff.2 ?_⟩, ?_⟩
  · exact hdistinct.flatMap_targets caller ((Cluster.nodup_ids _).sublist List.filter_sublist)
  · -- All of these clusters are found, so a kill is refused only where the caller may not kill.
    have hallowed : (∀ id ∈ (w.noting .list).arranged "kill-all" (w.visible caller),
        w.Kills caller id) ↔ ¬∃ id ∈ w.visible caller, w.mayKill caller id = false := by
      rw [not_exists]
      refine forall_congr' fun id => ?_
      rw [hperm.mem_iff, not_and, Bool.not_eq_false]
      exact forall_congr' fun hid => and_iff_right (mem_visible.1 hid)
    rw [outcomeOf_eq_ok, findSome?_completed_eq_none, hfaults]
    refine and_congr hallowed (forall_congr' fun container => imp_congr_left ?_)
    exact (hperm.flatMap_right (w.targets caller)).mem_iff

/-! ### Any order, and any keeper of leases -/

/-- The orders of tasks: those in which they run, and their completion orders. -/
structure Schedule where
  arrange : (label : String) → (count : Nat) → Manager.Arrangement count
  collect : (label : String) → (count : Nat) → Manager.Completion count

/-- The world with its tasks in some orders. -/
def ordered (w : World) (order : Schedule) : World :=
  { w with plan := { w.plan with arrange := order.arrange, collect := order.collect } }

/-- The same containers are left, the same stops were asked for, and both have succeeded or none. -/
structure SameEnd (result result' : Except Fault Unit × World) : Prop where
  containers : result.2.containers = result'.2.containers
  stops : (stoppedIds result.2.calls).Perm (stoppedIds result'.2.calls)
  outcome : result.1 = .ok () ↔ result'.1 = .ok ()

section Order

variable {order order' : Schedule}
  {result result' : Except Fault Unit × World} {stops : List String} {refused : Prop}

theorem stays_perm (plan : Plan) {ids others : List String} (h : ids.Perm others) :
    Stays plan ids = Stays plan others := by
  funext held
  have hcontains : ids.contains held.info.id = others.contains held.info.id := by
    rw [Bool.eq_iff_iff, List.contains_iff_mem, List.contains_iff_mem]
    exact h.mem_iff
  rw [Stays, Stays, hcontains]

/-- What is stopped in one order is stopped in any other, with the same effect. -/
theorem Ends.same (h : Ends (w.ordered order) stops refused result)
    (h' : Ends (w.ordered order') stops refused result') : SameEnd result result' := by
  obtain ⟨ids, ⟨asked, logs, hids, hlast⟩, hperm, -⟩ := h.stopped
  obtain ⟨ids', ⟨asked', logs', hids', hlast'⟩, hperm', -⟩ := h'.stopped
  have hsame := hperm.trans hperm'.symm
  refine ⟨?_, ?_, h.outcome.trans h'.outcome.symm⟩
  · rw [hlast, hlast']
    exact congrArg (fun stays => w.containers.filter stays) (stays_perm w.plan hsame)
  · rw [hlast, hlast', stoppedIds, stoppedIds, List.filterMap_append, List.filterMap_append]
    exact List.Perm.append_left _ ((hids ▸ hids' ▸ hsame :))

theorem Ends.of_quietly {p : ManagerM Unit} (h : Ends w stops refused (p.run answerQuietly w)) :
    Ends w stops refused (p.run answer w) := by
  rw [run_quietly] at h
  obtain ⟨⟨ids, hids, hperm, hnodup⟩, houtcome⟩ := h
  exact ⟨⟨ids, hids.of_withLogs, hperm, hnodup⟩, houtcome⟩

end Order

/-! A keeper of leases may have a fault that is not foreseen. -/

section Fault

variable {fault : Fault} (hforeseen : fault.isForeseen = false)
  (hfetch : ∀ id, (w.store.fetch w.format id).answer = .error fault)

include hforeseen hfetch

/-- With a store that cannot be read, telling clusters fails once there is one to tell. -/
theorem run_clusters_of_fault (m : Manager) (hlist : w.plan.list = none)
    (hvisible : ∃ id, Finds caller w.listing id) :
    (m.clusters caller).run answerQuietly w = (.error fault, w.noting .list) := by
  have hworks : w.list = .ok w.listing := by rw [list, hlist]; rfl
  have hnoting : ∀ id, ((w.noting .list).store.fetch (w.noting .list).format id).answer = .error fault :=
    hfetch
  rw [Manager.clusters, Program.run_bind, run_list, hworks]
  dsimp only
  -- With a cluster in sight the first lease that is asked for ends the telling.
  cases hgroups : (Cluster.groups w.listing).filter (Manager.sees caller) with
  | nil =>
    obtain ⟨id, hid, hsees⟩ := hvisible
    have hmem : Cluster.groupOf w.listing id ∈ Cluster.groups w.listing := by
      rw [Cluster.groups_eq_map]
      exact List.mem_map_of_mem hid
    exact absurd hsees (List.filter_eq_nil_iff.1 hgroups _ hmem)
  | cons group rest =>
    rw [run_describe_of_fault hforeseen hnoting]

/-- Nothing is killed then, whoever may kill it. -/
theorem kill_of_fault (m : Manager) (hlist : w.plan.list = none)
    (hvisible : ∃ id, Finds caller w.listing id) (id : String) :
    (m.kill caller id).run answerQuietly w = (.error fault, w.noting .list) := by
  rw [Manager.kill, run_info_bind, Program.run_bind, Manager.cluster, Program.run_bind,
    run_clusters_of_fault hforeseen hfetch m hlist hvisible]

/-- With a store that cannot be read, killing all clusters fails before any stop. -/
theorem killAll_of_fault (m : Manager) (hlist : w.plan.list = none)
    (hvisible : ∃ id, Finds caller w.listing id) :
    (m.killAll caller).run answerQuietly w = (.error fault, w.noting .list) := by
  rw [Manager.killAll, run_info_bind, Program.run_bind,
    run_clusters_of_fault hforeseen hfetch m hlist hvisible]

end Fault

/-- Over a keeper of leases without a mishap, a kill stops the members of its cluster, and a killing of all
clusters those of all clusters that may be killed, each once and no others; it succeeds unless it is refused or a
stop does harm, and none of this depends on the orders of the tasks. A mishap, which nothing foresees, is what
every kill ends in, and nothing is stopped. -/
theorem kills_exactly (m : Manager) (caller : Caller) (hlist : w.plan.list = none)
    (hdistinct : w.Distinct) :
    (w.store.mishap? w.format = none →
      (∀ order,
        (∀ id, Ends (w.ordered order) (w.targets caller id) (¬w.Kills caller id)
          ((m.kill caller id).run answer (w.ordered order))) ∧
        Ends (w.ordered order) ((w.visible caller).flatMap (w.targets caller))
          (∃ id ∈ w.visible caller, w.mayKill caller id = false)
          ((m.killAll caller).run answer (w.ordered order))) ∧
      ∀ order order',
        (∀ id, SameEnd ((m.kill caller id).run answer (w.ordered order))
          ((m.kill caller id).run answer (w.ordered order'))) ∧
        SameEnd ((m.killAll caller).run answer (w.ordered order))
          ((m.killAll caller).run answer (w.ordered order'))) ∧
    ∀ what, w.store.mishap? w.format = some what → w.visible caller ≠ [] → ∀ order,
      (∀ id, ((m.kill caller id).run answer (w.ordered order)).1 = .error (.mishap what) ∧
        Stopped (w.ordered order) ((m.kill caller id).run answer (w.ordered order)).2 []) ∧
      ((m.killAll caller).run answer (w.ordered order)).1 = .error (.mishap what) ∧
        Stopped (w.ordered order) ((m.killAll caller).run answer (w.ordered order)).2 [] := by
  constructor
  · intro hnone
    have hreadable := Store.readable_of_mishap? hnone
    have hkill (order) (id : String) : Ends (w.ordered order) (w.targets caller id)
        (¬w.Kills caller id) ((m.kill caller id).run answer (w.ordered order)) :=
      (kill_ends m caller (w := w.ordered order) hreadable hlist hdistinct id).of_quietly
    have hkillAll (order) : Ends (w.ordered order) ((w.visible caller).flatMap (w.targets caller))
        (∃ id ∈ w.visible caller, w.mayKill caller id = false)
        ((m.killAll caller).run answer (w.ordered order)) :=
      (killAll_ends m caller (w := w.ordered order) hreadable hlist hdistinct).of_quietly
    exact ⟨fun order => ⟨hkill order, hkillAll order⟩, fun order order' =>
      ⟨fun id => (hkill order id).same (hkill order' id), (hkillAll order).same (hkillAll order')⟩⟩
  · intro what hsome hne order
    have hfetch := Store.fetch_of_mishap? hsome
    obtain ⟨id, hid⟩ := List.exists_mem_of_ne_nil _ hne
    have hvisible : ∃ id, Finds caller (w.ordered order).listing id := ⟨id, mem_visible.1 hid⟩
    -- A run that ends after its listing has stopped nothing, whatever it has logged.
    have hnothing {p : ManagerM Unit}
        (h : p.run answerQuietly (w.ordered order) = (.error (.mishap what), (w.ordered order).noting .list)) :
        (p.run answer (w.ordered order)).1 = .error (.mishap what) ∧
          Stopped (w.ordered order) (p.run answer (w.ordered order)).2 [] := by
      obtain ⟨logs, hrun⟩ := run_of_quietly h
      rw [hrun]
      exact ⟨rfl, (stopped_noting_list _).withLogs logs⟩
    exact ⟨fun id => hnothing (kill_of_fault (w := w.ordered order) rfl hfetch m hlist hvisible id),
      hnothing (killAll_of_fault (w := w.ordered order) rfl hfetch m hlist hvisible)⟩

namespace Sample

/-- Someone without regard for ownership. -/
def root : Caller := ⟨"root", true⟩

/-- A world with two clusters, of which one has a container that cannot be stopped. -/
def uneven : World :=
  { initial { Plan.smooth with
      stop := fun id => if id = "c" then .fails (.runtime (.broken "busy")) else .works } .yaml newYear with
    containers := [lone, ⟨⟨"d", "running", Manager.nodeLabels ann "c3" (node "node_1"), []⟩, []⟩] }

end Sample

open Sample in
/-- All is stopped in any order, and what cannot be stopped is left. -/
theorem kills_exactly_of_uneven : uneven.plan.list = none ∧ uneven.Distinct ∧ ∀ order,
    ((manager.killAll root).run answer (uneven.ordered order)).1 ≠ .ok () ∧
    (stoppedIds ((manager.killAll root).run answer (uneven.ordered order)).2.calls).Perm ["c", "d"] ∧
    ((manager.killAll root).run answer (uneven.ordered order)).2.containers = [lone] := by
  have hlist : uneven.plan.list = none := rfl
  have hdistinct : uneven.Distinct := by decide
  refine ⟨hlist, hdistinct, fun order => ?_⟩
  obtain ⟨hends, -⟩ :=
    (kills_exactly manager root hlist hdistinct).1 rfl
  obtain ⟨⟨ids, ⟨asked, logs, hids, hlast⟩, hperm, -⟩, houtcome⟩ := (hends order).2
  have hclusters : Cluster.ids uneven.listing = ["c2", "c3"] := by
    -- Sorting cannot be evaluated, but a list in order is what it sorts to.
    have hsorted : ["c2", "c3"].mergeSort = ["c2", "c3"] := List.mergeSort_of_pairwise (by decide)
    exact hsorted
  have hvisible : uneven.visible root = ["c2", "c3"] := by
    rw [visible, hclusters]
    rfl
  have htarget : ∀ id ∈ ["c2", "c3"], uneven.targets root id = uneven.members id :=
    fun id hid => if_pos ⟨mem_visible.1 (hvisible ▸ hid), rfl⟩
  have htargets : (uneven.visible root).flatMap (uneven.targets root) = ["c", "d"] := by
    rw [hvisible, List.flatMap_def, List.map_congr_left htarget]
    decide +kernel
  rw [htargets] at hperm houtcome
  have hharm : ((uneven.ordered order).plan.stop "c").harm? ≠ none := by
    have hplan : (uneven.ordered order).plan.stop "c" = .fails (.runtime (.broken "busy")) := rfl
    rw [hplan]
    exact Option.some_ne_none _
  refine ⟨fun hok => hharm ((houtcome.1 hok).2 "c" List.mem_cons_self), ?_, ?_⟩
  · rw [hlast]
    exact hids ▸ hperm
  · rw [hlast]
    show uneven.containers.filter (Stays (uneven.ordered order).plan ids) = [lone]
    rw [stays_perm _ hperm]
    rfl

open Sample in
/-- Over a day of which there is none a cluster is not killed, though nothing keeps its container from
being stopped. -/
theorem kills_nothing_over_impossible_day :
    (overFile impossible).plan.list = none ∧ (overFile impossible).Distinct ∧
    ((overFile impossible).visible root).flatMap ((overFile impossible).members) = ["c"] ∧
    (overFile impossible).plan.stop "c" = .works ∧
    ((manager.killAll root).run answer (overFile impossible)).1 = .error (.mishap .badValue) ∧
    stoppedIds ((manager.killAll root).run answer (overFile impossible)).2.calls = [] := by
  have himpossible : (overFile impossible).store.mishap? .yaml = some .badValue := by decide +kernel
  have hvisible : (overFile impossible).visible root = ["c2"] := by decide +kernel
  have hfinds : Finds root (overFile impossible).listing "c2" := by decide +kernel
  have hmembers : (overFile impossible).members "c2" = ["c"] := by decide +kernel
  obtain ⟨logs, hrun⟩ := run_of_quietly <|
    killAll_of_fault rfl (Store.fetch_of_mishap? himpossible) manager rfl ⟨"c2", hfinds⟩
  rw [hrun, hvisible]
  refine ⟨rfl, by decide, ?_, rfl, rfl, rfl⟩
  rw [List.flatMap_singleton, hmembers]

end ClusterLease.World
