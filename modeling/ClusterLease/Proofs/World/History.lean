import ClusterLease.Proofs.World.Growing
import ClusterLease.Proofs.World.Initial

/-!
Runs of operations.

A run is a list of turns: callers ask for operations one after another, each under its own plan and
clock, and containers go away by themselves between them. `Effect` says all that a turn can do to
the leases, and which labels it can bring into the table; `take_effect` is what everything about
runs is derived from. `history` lists the leases that were granted in a run.
-/

namespace ClusterLease.World

open Manager (Call Operation)

variable {w : World} {m : Manager} {caller : Caller}

/-! ### Turns -/

/-- An operation of a run: who asks for it, under which plan and clock, and which containers went
away before. -/
structure Turn where
  caller : Caller
  operation : Operation
  plan : Plan
  now : Moment
  lost : List String

/-- A turn begins at its own time and under its own plan, and after the losses of containers between the turns.
-/
def begin (w : World) (turn : Turn) : World :=
  { w with
    plan := turn.plan
    now := turn.now
    containers := w.containers.filter fun held => !turn.lost.contains held.info.id }

def take (m : Manager) (w : World) (turn : Turn) : World :=
  ((turn.operation.program m turn.caller).run answer (w.begin turn)).2

def after (m : Manager) (w : World) (turns : List Turn) : World := turns.foldl (take m) w

/-- What a turn did to the lease of a cluster. -/
inductive Deed where
  | allocated
  | refreshed
  deriving DecidableEq

/-- A lease that was granted: for which cluster, to whom, and until when. -/
structure Grant where
  deed : Deed
  id : String
  user : String
  expiry : Moment

/-- The lease that a turn grants: of an allocation that passes its checks, or of a refresh that
succeeds. -/
def granted (m : Manager) (w : World) (turn : Turn) : Option Grant :=
  match turn.operation with
  | .allocate wanted =>
    match wanted.checked m.limits with
    | .ok _ => ((w.begin turn).leaseEnd? m).map fun expiry =>
        ⟨.allocated, (w.begin turn).nextId, turn.caller.user, expiry⟩
    | .error _ => none
  | .refresh id extension =>
    match ((m.refresh turn.caller id extension).run answer (w.begin turn)).1 with
    | .ok _ => ((w.begin turn).clock.add? extension).map fun expiry =>
        ⟨.refreshed, id, turn.caller.user, expiry⟩
    | .error _ => none
  | _ => none

/-- The leases that are granted in a run, the first one first. -/
def history (m : Manager) (w : World) : List Turn → List Grant
  | [] => []
  | turn :: rest => (granted m w turn).toList ++ history m (w.take m turn) rest

/-- The id that a turn draws, if it is an allocation that passes its checks. -/
def drawnBy (m : Manager) (w : World) (turn : Turn) : Option String :=
  match turn.operation with
  | .allocate wanted => (wanted.checked m.limits).toOption.map fun _ => (w.begin turn).nextId
  | _ => none

/-- The ids that are drawn in a run, the first one first. -/
def drawn (m : Manager) (w : World) : List Turn → List String
  | [] => []
  | turn :: rest => (drawnBy m w turn).toList ++ drawn m (w.take m turn) rest

namespace Sample

/-- Two nodes for an hour, and then a refresh that asks for a minute. -/
def shortened : List Turn :=
  [⟨ann, .allocate pair, Plan.smooth, newYear, []⟩,
    ⟨ann, .refresh "i" minute, Plan.smooth, newYear, []⟩]

theorem nodup_drawn_shortened :
    (drawn manager (initial Plan.smooth .yaml newYear) shortened).Nodup :=
  List.nodup_singleton "i"

end Sample

theorem drawn_append (m : Manager) (w : World) (turns others : List Turn) :
    drawn m w (turns ++ others) = drawn m w turns ++ drawn m (after m w turns) others := by
  -- By induction on the first turns, for any world that they start from.
  induction turns generalizing w with
  | nil => rfl
  | cons turn rest ih =>
    rw [List.cons_append, drawn, drawn, ih, List.append_assoc]
    rfl

/-! ### Labels and clusters -/

/-- The cluster that labels name. -/
def clusterOf? (labels : Labels) : Option String := Cluster.idOf? ⟨"", "", labels, []⟩

theorem idOf?_eq_clusterOf? (info : Container.Info) :
    Cluster.idOf? info = clusterOf? info.labels := rfl

/-- The labels of a node name no cluster but its own. -/
theorem eq_of_clusterOf?_nodeLabels {id other : String} {node : NodeDemand}
    (h : clusterOf? (Manager.nodeLabels caller id node) = some other) : other = id := by
  have hget : (Manager.nodeLabels caller id node).get? Container.clusterLabel = some id := rfl
  rw [clusterOf?, Cluster.idOf?, hget] at h
  split at h
  · cases h
  · cases h
  · next heq => exact (Option.some.inj h).symm.trans (Option.some.inj heq).symm

/-- A cluster that is found is named by the labels of some container. -/
theorem exists_label_of_finds {id : String} (h : Finds caller (w.containers.map (·.info)) id) :
    ∃ labels ∈ w.labels, clusterOf? labels = some id := by
  obtain ⟨info, hinfo, hid⟩ := Cluster.mem_ids.1 h.1
  obtain ⟨held, hheld, rfl⟩ := List.mem_map.1 hinfo
  exact ⟨held.info.labels, List.mem_map_of_mem hheld, hid⟩

/-! ### What a turn does -/

/-- What a turn can do: the lease that it grants, the leases afterwards, and the labels of new
containers. -/
inductive Effect (m : Manager) (w : World) (leases : Leases) (turn : Turn) :
    Option Grant → Leases → List Labels → Prop where
  | nothing : Effect m w leases turn none leases []
  | allocated {wanted : ClusterDemand} {nodes : List NodeDemand} {expiry : Moment}
      (hoperation : turn.operation = .allocate wanted)
      (hchecked : wanted.checked m.limits = .ok nodes)
      (hexpiry : (w.begin turn).leaseEnd? m = some expiry) :
      Effect m w leases turn (some ⟨.allocated, (w.begin turn).nextId, turn.caller.user, expiry⟩)
        (leases.put (w.begin turn).nextId (Lease.ofUser turn.caller.user expiry))
        (nodes.map (Manager.nodeLabels turn.caller (w.begin turn).nextId))
  | refreshed {id : String} {extension : Duration} {listing : List Container.Info}
      {expiry : Moment} {lease : Lease} (hoperation : turn.operation = .refresh id extension)
      (hlist : (w.begin turn).list = .ok listing) (hfinds : Finds turn.caller listing id)
      (hexpiry : (w.begin turn).clock.add? extension = some expiry)
      (hlease : Lease.renewed (leases.get? id) turn.caller.user expiry = .ok lease) :
      Effect m w leases turn (some ⟨.refreshed, id, turn.caller.user, expiry⟩)
        (leases.put id lease) []

variable {leases : Leases} {turn : Turn}

/-- Between turns containers are lost, and none comes. -/
theorem begin_labels (w : World) (turn : Turn) : (w.begin turn).labels.Sublist w.labels :=
  List.filter_sublist.map _

theorem take_of_allocate {wanted : ClusterDemand} (h : turn.operation = .allocate wanted) :
    w.take m turn = ((m.allocate turn.caller wanted).run answer (w.begin turn)).2 := by
  obtain ⟨caller, operation, plan, now, lost⟩ := turn
  obtain rfl : operation = .allocate wanted := h
  rfl

theorem take_of_refresh {id : String} {extension : Duration}
    (h : turn.operation = .refresh id extension) :
    w.take m turn = ((m.refresh turn.caller id extension).run answer (w.begin turn)).2 := by
  obtain ⟨caller, operation, plan, now, lost⟩ := turn
  obtain rfl : operation = .refresh id extension := h
  rfl

/-- A turn that only kills has no effect, but containers may be gone. -/
theorem effect_of_kills (hasks : (turn.operation.program m turn.caller).Asks Call.Kills)
    (hgranted : granted m w turn = none) (hstore : w.store = .memory leases) : ∃ leases' gained,
    Effect m w leases turn (granted m w turn) leases' gained ∧
      (w.take m turn).store = .memory leases' ∧
      (w.take m turn).labels.Subperm (w.labels ++ gained) := by
  have hrun := dwindles_run hasks (w.begin turn)
  refine ⟨leases, [], hgranted ▸ .nothing, hrun.store.trans hstore, ?_⟩
  rw [List.append_nil]
  exact (hrun.labels.trans (w.begin_labels turn)).subperm

/-- An allocation writes one lease at most, and its containers carry the id drawn. -/
theorem effect_of_allocate {wanted : ClusterDemand} (hstore : w.store = .memory leases)
    (hoperation : turn.operation = .allocate wanted) : ∃ leases' gained,
    Effect m w leases turn (granted m w turn) leases' gained ∧
      (w.take m turn).store = .memory leases' ∧
      (w.take m turn).labels.Subperm (w.labels ++ gained) := by
  have hbegin : (w.begin turn).labels.Subperm (w.labels ++ []) := by
    rw [List.append_nil]
    exact (w.begin_labels turn).subperm
  rw [take_of_allocate hoperation, granted, hoperation]
  dsimp only
  cases hchecked : wanted.checked m.limits with
  -- The demand is refused before anything is asked.
  | error fault =>
    obtain ⟨hkept, hlabels⟩ :=
      (throughout_allocate_of_refused (w.begin turn) turn.caller hchecked).reached
    exact ⟨leases, [], .nothing, hkept.trans hstore, hlabels ▸ hbegin⟩
  | ok nodes =>
    dsimp only
    have hbegun : (w.begin turn).store = .memory leases := hstore
    rcases (proceeds_allocate turn.caller hbegun hchecked).reached with ⟨hend, hkept, hlabels⟩ |
      ⟨expiry, hend, hgranted⟩
    · rw [hend]
      exact ⟨leases, [], .nothing, hkept.trans hstore, hlabels ▸ hbegin⟩
    · rw [hend]
      have hlabels := hgranted.labels
      rw [List.append_nil] at hlabels
      have hgained := (List.subperm_append_right
        (nodes.map (Manager.nodeLabels turn.caller (w.begin turn).nextId))).2
        (w.begin_labels turn).subperm
      exact ⟨_, _, .allocated hoperation hchecked hend, hgranted.store, hlabels.trans hgained⟩

/-- A refresh writes one lease at most and makes no container. -/
theorem effect_of_refresh {id : String} {extension : Duration} (hstore : w.store = .memory leases)
    (hoperation : turn.operation = .refresh id extension) : ∃ leases' gained,
    Effect m w leases turn (granted m w turn) leases' gained ∧
      (w.take m turn).store = .memory leases' ∧
      (w.take m turn).labels.Subperm (w.labels ++ gained) := by
  have hbegun : (w.begin turn).store = .memory leases := hstore
  obtain ⟨logs, hrun⟩ := run_of_quietly (run_refresh m turn.caller hbegun id extension)
  have hbegin : (w.begin turn).labels.Subperm (w.labels ++ []) := by
    rw [List.append_nil]
    exact (w.begin_labels turn).subperm
  rw [take_of_refresh hoperation, granted, hoperation]
  dsimp only
  rw [hrun]
  -- A refresh that fails has written nothing; one that succeeds has written just the lease it gives.
  cases houtcome : (w.begin turn).refreshed leases turn.caller id extension with
  | error fault => exact ⟨leases, [], .nothing, rfl, hbegin⟩
  | ok lease =>
    obtain ⟨listing, expiry, hlist, hfinds, hexpiry, hlease⟩ := refreshed_eq_ok houtcome
    rw [hexpiry]
    exact ⟨_, _, .refreshed hoperation hlist hfinds hexpiry hlease, rfl, hbegin⟩

/-- Every turn has one of the effects, whatever its operation is and comes to. -/
theorem take_effect (m : Manager) (hstore : w.store = .memory leases) (turn : Turn) :
    ∃ leases' gained, Effect m w leases turn (granted m w turn) leases' gained ∧
      (w.take m turn).store = .memory leases' ∧
      (w.take m turn).labels.Subperm (w.labels ++ gained) := by
  -- Only allocations and refreshes write leases or make containers.
  cases hoperation : turn.operation with
  | allocate wanted => exact effect_of_allocate hstore hoperation
  | refresh id extension => exact effect_of_refresh hstore hoperation
  | clusters =>
    refine effect_of_kills ?_ (by rw [granted, hoperation]) hstore
    rw [hoperation]
    exact (m.asks_clusters turn.caller).mono fun _ => Call.Reads.kills
  | cluster id =>
    refine effect_of_kills ?_ (by rw [granted, hoperation]) hstore
    rw [hoperation]
    exact (m.asks_cluster turn.caller id).mono fun _ => Call.Reads.kills
  | kill id =>
    refine effect_of_kills ?_ (by rw [granted, hoperation]) hstore
    rw [hoperation]
    exact m.asks_kill turn.caller id
  | killAll =>
    refine effect_of_kills ?_ (by rw [granted, hoperation]) hstore
    rw [hoperation]
    exact m.asks_killAll turn.caller

/-! ### Runs -/

/-- Something lasts in a run: every turn of some kind keeps it up, if the id that the turn draws is
new. It may speak about the ids that are known and about the leases that were granted. -/
structure Lasts (m : Manager) (kind : Turn → Prop)
    (holds : (String → Prop) → World → List Grant → Prop) : Prop where
  mono : ∀ {known known' : String → Prop} {w : World} {grants : List Grant},
    (∀ id, known id → known' id) →
    holds known w grants → holds known' w grants
  step : ∀ {known : String → Prop} {w : World} {grants : List Grant} {turn : Turn}, kind turn →
    (∀ id ∈ (drawnBy m w turn).toList, ¬known id) → holds known w grants →
      holds (fun id => known id ∨ id ∈ (drawnBy m w turn).toList) (w.take m turn)
      (grants ++ (granted m w turn).toList)

section Lasts

variable {kind : Turn → Prop} {holds : (String → Prop) → World → List Grant → Prop}
    {known : String → Prop}
  {turns : List Turn}

/-- What lasts holds after a run in which no id is drawn twice, and none that was known before. -/
theorem Lasts.after (hlasts : Lasts m kind holds) (grants : List Grant)
    (hkind : ∀ turn ∈ turns, kind turn) (hdistinct : (drawn m w turns).Nodup)
    (hnew : ∀ id ∈ drawn m w turns, ¬known id) (h : holds known w grants) :
    holds (fun id => known id ∨ id ∈ drawn m w turns) (World.after m w turns)
      (grants ++ history m w turns) := by
  induction turns generalizing known w grants with
  | nil =>
    rw [history, List.append_nil]
    exact hlasts.mono (fun _ => .inl) h
  | cons turn rest ih =>
    rw [drawn] at hdistinct hnew
    obtain ⟨-, hrest, hdisjoint⟩ := List.nodup_append'.1 hdistinct
    have hstep := hlasts.step (hkind turn List.mem_cons_self)
      (fun id hid => hnew id (List.mem_append_left _ hid)) h
    -- No id is drawn twice, so those of the rest are new also after this turn.
    have hunknown :
        ∀ id ∈ drawn m (w.take m turn) rest, ¬(known id ∨ id ∈ (drawnBy m w turn).toList) := by
      rintro id hid (hknown | hdrawn)
      · exact hnew id (List.mem_append_right _ hid) hknown
      · exact hdisjoint hdrawn hid
    have hafter :=
      ih _ (fun other hother => hkind other (List.mem_cons_of_mem _ hother)) hrest hunknown hstep
    rw [history, ← List.append_assoc]
    refine hlasts.mono (fun id hid => ?_) hafter
    rw [drawn, List.mem_append]
    exact or_assoc.1 hid

/-- It holds before every turn of such a run, and the id that the turn draws is new there. -/
theorem Lasts.before {before rest : List Turn} (hlasts : Lasts m kind holds) (grants : List Grant)
    (hkind : ∀ other ∈ before ++ turn :: rest, kind other)
    (hdistinct : (drawn m w (before ++ turn :: rest)).Nodup)
    (hnew : ∀ id ∈ drawn m w (before ++ turn :: rest), ¬known id) (h : holds known w grants) :
    ∃ known', holds known' (World.after m w before) (grants ++ history m w before) ∧
      ∀ id ∈ (drawnBy m (World.after m w before) turn).toList, ¬known' id := by
  rw [drawn_append, drawn] at hdistinct hnew
  obtain ⟨hbefore, -, hdisjoint⟩ := List.nodup_append'.1 hdistinct
  refine ⟨_, hlasts.after grants
    (fun other hother => hkind other (List.mem_append_left _ hother)) hbefore
    (fun id hid => hnew id (List.mem_append_left _ hid)) h, ?_⟩
  rintro id hid (hknown | hdrawn)
  · exact hnew id (List.mem_append_right _ (List.mem_append_left _ hid)) hknown
  · exact hdisjoint hdrawn (List.mem_append_left _ hid)

end Lasts

end ClusterLease.World
