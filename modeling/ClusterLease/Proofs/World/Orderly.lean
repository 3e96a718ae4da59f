import ClusterLease.Proofs.World.Tidy

/-!
Clusters in runs.

In every state of a run from a world without containers and leases, also while an operation is under
way and where it went wrong, a cluster that some container carries has a lease, one creator, no more
nodes than allowed, and distinct host names. So a refresh always finds a lease to change. As long as
nobody disregards ownership, the lease belongs to the creator, and no kill is forbidden
(`clusters_stay_orderly`).
-/

namespace ClusterLease.World

open Manager (Call)

variable {m : Manager} {strict : Prop} {known : String → Prop} {leases : Leases} {w : World}
    {id : String} {turn : Turn}

/-! ### Kills -/

/-- The runtime of a plan never reports that something is forbidden. -/
def Plan.Permits (plan : Plan) : Prop :=
  plan.list ≠ some .forbidden ∧ ∀ id, (plan.stop id).fault? ≠ some .forbidden

/-- In a tidy world under such a plan, nothing but a kill of the cluster of someone else could be
forbidden. -/
structure Free (m : Manager) (strict : Prop) (known : String → Prop) (leases : Leases) (w : World) :
    Prop where
  tidy : Tidy m strict known leases w
  permits : w.plan.Permits

theorem Free.readable (h : Free m strict known leases w) : w.store.Readable w.format :=
  h.tidy.store ▸ Store.readable_memory _ leases

/-- Killing keeps the world free of refusals to come. -/
theorem Free.kills {call : Call} (h : Free m strict known leases w) (hcall : call.Kills) :
    Free m strict known leases (answer call w).2 := by
  have hdwindles := dwindles_answer hcall w
  exact ⟨h.tidy.frame hdwindles.store hdwindles.labels.subperm, hdwindles.plan ▸ h.permits⟩

/-- A program of such calls whose run is not forbidden leaves the world free. -/
theorem Free.proceeds {α : Type} {p : ManagerM α} (h : Free m strict known leases w)
    (hp : p.Asks Call.Kills) (hrun : (p.run answer w).1 ≠ .error .forbidden) :
    p.Proceeds answer (fun _ _ => True)
      (fun outcome t => Free m strict known leases t ∧ outcome ≠ .error .forbidden) w :=
  (hp.proceeds (fun _ _ _ _ => trivial) (fun _ _ hfree hcall => hfree.kills hcall) h).of_run
    (fun outcome _ => outcome ≠ .error .forbidden) hrun

/-- A listing never fails by being forbidden. -/
theorem Free.list_not_forbidden (h : Free m strict known leases w) {fault : Fault}
    (hlist : w.list = .error fault) :
    fault ≠ .forbidden := by
  rw [list] at hlist
  split at hlist
  · next planned hplanned =>
    cases hlist
    rintro rfl
    exact h.permits.1 hplanned
  · cases hlist

theorem Free.clusters_not_forbidden (h : Free m strict known leases w) (caller : Caller) :
    ((m.clusters caller).run answer w).1 ≠ .error .forbidden := by
  rw [← outcome_quietly, run_clusters h.readable]
  cases hlist : w.list with
  | error fault =>
    intro hfault
    cases hfault
    exact h.list_not_forbidden hlist rfl
  | ok listing =>
    intro hfault
    cases hfault

/-- A kill is not forbidden where ownership is strict. -/
theorem Free.kill_not_forbidden (h : Free m strict known leases w) (hstrict : strict)
    (caller : Caller) (id : String) :
    ((m.kill caller id).run answer w).1 ≠ .error .forbidden := by
  rw [← outcome_quietly]
  cases hlist : w.list with
  | error fault =>
    rw [run_kill_of_list_error h.readable hlist]
    intro hfault
    cases hfault
    exact h.list_not_forbidden hlist rfl
  | ok listing =>
    by_cases hfinds : Finds caller listing id
    · obtain rfl := listing_of_list hlist
      -- The caller may kill what is found, so only a stop could report that it is forbidden.
      obtain ⟨outcome, ids, hrun, -, hfault⟩ :=
        run_kill_of_mayKill h.readable hlist hfinds (h.tidy.mayKill hstrict hfinds)
      rw [hrun]
      rintro rfl
      obtain ⟨container, hstop⟩ := hfault _ rfl
      exact h.permits.2 container hstop
    · rw [run_kill_of_not_finds h.readable hlist hfinds]
      intro hfault
      cases hfault

theorem Free.killAll_not_forbidden (h : Free m strict known leases w) (hstrict : strict)
    (caller : Caller) :
    ((m.killAll caller).run answer w).1 ≠ .error .forbidden := by
  have hproceeds : (m.killAll caller).Proceeds answer (fun _ _ => True)
      (fun outcome _ => outcome ≠ .error .forbidden) w := by
    rw [Manager.killAll]
    refine proceeds_info_bind trivial fun entries => ?_
    have hlogged : Free m strict known leases (w.logging entries) :=
      ⟨h.tidy.logging entries, h.permits⟩
    have hclusters := hlogged.proceeds ((m.asks_clusters caller).mono fun _ => Call.Reads.kills)
      (hlogged.clusters_not_forbidden caller)
    refine hclusters.bind ?_ fun fault t hgoal hfault => hgoal.2 (by cases hfault; rfl)
    rintro clusters t ⟨hfree, -⟩
    -- Between the kills the world stays free, so each of them is not forbidden.
    have hkill (id : String) (t : World) (hfree : Free m strict known leases t) :=
      hfree.proceeds (m.asks_kill caller id) (hfree.kill_not_forbidden hstrict caller id)
    refine (Manager.proceeds_fanOut (fun _ => Free m strict known leases)
      (fun outcome => outcome ≠ .error .forbidden)
      (fun _ call t hroutine hfree => ⟨trivial, hfree.kills hroutine.kills⟩)
      (fun id _ t hfree => hkill id t hfree)
      (fun _ _ => hfree)).bind ?_ ?_
    · rintro fault? t ⟨-, _, ⟨⟩, hends⟩
      cases fault? with
      | none =>
        intro hfault
        cases hfault
      | some fault => exact hends fault rfl
    · rintro fault t ⟨-, _, hfault, -⟩
      cases hfault
  exact hproceeds.reached

/-! ### Runs -/

/-- What is true of a cluster that some container carries. -/
structure Orderly (m : Manager) (w : World) (id : String) : Prop where
  leased : ∃ lease, (w.store.fetch w.format id).answer = .ok lease
  created : ∃ creator, creator ≠ "" ∧
    ∀ labels ∈ w.carrying id, labels.get? Container.creatorLabel = some creator
  bounded : ((w.carrying id).length : Int) ≤ m.config.maxNodes
  hostNames : ((w.carrying id).map hostNameOf).Nodup

/-- The lease of a cluster belongs to its creator. -/
def Owned (w : World) (id : String) : Prop :=
  ∃ lease creator, (w.store.fetch w.format id).answer = .ok lease ∧ lease.owner = .text creator ∧
    ∀ labels ∈ w.carrying id, labels.get? Container.creatorLabel = some creator

theorem Tidy.orderly (h : Tidy m strict known leases w) (hne : w.carrying id ≠ []) :
    Orderly m w id := by
  obtain ⟨maker, nodes, hgrown⟩ := h.grown id hne
  obtain ⟨lease, hlease, -⟩ := hgrown.lease
  obtain ⟨zs, hperm, hsublist⟩ := subperm_map hostNameOf hgrown.labels
  refine ⟨⟨lease, fetch_of_get? h.store hlease⟩,
    ⟨maker.user, hgrown.named, fun _ hmem => hgrown.creatorLabel hmem⟩, ?_, ?_⟩
  · -- A cluster carries at most one label of each node of its demand.
    have hlength := hgrown.labels.length_le
    have hbounded : (nodes.length : Int) ≤ m.config.maxNodes := hgrown.sound.bounded
    rw [List.length_map] at hlength
    omega
  · have hnames :
        (nodes.map (Manager.nodeLabels maker id)).map hostNameOf = nodes.map (·.hostName) :=
      List.map_map
    rw [hnames] at hsublist
    exact hperm.nodup_iff.1 (hgrown.sound.hostNames.sublist hsublist)

theorem Tidy.owned (h : Tidy m strict known leases w) (hstrict : strict)
    (hne : w.carrying id ≠ []) : Owned w id := by
  obtain ⟨maker, nodes, hgrown⟩ := h.grown id hne
  obtain ⟨lease, hlease, howner⟩ := hgrown.lease
  exact ⟨lease, maker.user, fetch_of_get? h.store hlease, howner hstrict,
    fun _ hmem => hgrown.creatorLabel hmem⟩

/-- How a turn of a run treats clusters. -/
structure KeepsOrder (m : Manager) (w : World) (turn : Turn) : Prop where
  /-- Clusters are orderly in every state that the turn goes through. -/
  orderly : (turn.operation.program m turn.caller).Throughout answer
    (fun t => ∀ id, t.carrying id ≠ [] → Orderly m t id) (w.begin turn)
  /-- A refresh never has to put down a lease where there is none. -/
  refresh : ∀ id extension,
    (m.refresh turn.caller id extension).Proceeds answer (fun _ call => ¬call.KeepsLease)
    (fun _ _ => True) (w.begin turn)

/-- How a turn of a run treats owners. -/
structure KeepsOwners (m : Manager) (w : World) (turn : Turn) : Prop where
  /-- Clusters belong to their creators in every state that the turn goes through. -/
  owned : (turn.operation.program m turn.caller).Throughout answer
    (fun t => ∀ id, t.carrying id ≠ [] → Owned t id) (w.begin turn)
  /-- No kill is forbidden. -/
  kill : turn.plan.Permits →
    ∀ id, ((m.kill turn.caller id).run answer (w.begin turn)).1 ≠ .error .forbidden
  killAll : turn.plan.Permits →
    ((m.killAll turn.caller).run answer (w.begin turn)).1 ≠ .error .forbidden

/-- A turn of a named caller that draws a new id keeps a tidy world in order. -/
theorem Tidy.keepsOrder (h : Tidy m strict known leases w) (huser : turn.caller.user ≠ "")
    (hminds : strict → turn.caller.ignoresOwnership = false)
    (hnew : ∀ id ∈ (drawnBy m w turn).toList, ¬known id) :
    KeepsOrder m w turn where
  orderly := (h.throughout_turn huser hminds hnew).mono fun _ ⟨_, htidy⟩ _ hne => htidy.orderly hne
  refresh id extension :=
    ((h.begin turn).proceeds_refresh hminds id extension).mono (fun _ _ hallowed => hallowed.2)
      fun _ _ _ => trivial

theorem Tidy.keepsOwners (h : Tidy m strict known leases w) (hstrict : strict)
    (huser : turn.caller.user ≠ "") (hminds : strict → turn.caller.ignoresOwnership = false)
    (hnew : ∀ id ∈ (drawnBy m w turn).toList, ¬known id) :
    KeepsOwners m w turn where
  owned := (h.throughout_turn huser hminds hnew).mono fun _ ⟨_, htidy⟩ _ hne =>
    htidy.owned hstrict hne
  kill hplan id := Free.kill_not_forbidden ⟨h.begin turn, hplan⟩ hstrict turn.caller id
  killAll hplan := Free.killAll_not_forbidden ⟨h.begin turn, hplan⟩ hstrict turn.caller

/-- Clusters stay orderly in a run from a world without containers and leases, and if nobody
disregards ownership they stay with their creators. -/
theorem clusters_stay_orderly {turns : List Turn} (hcontainers : w.containers = [])
    (hstore : w.store = .memory []) (hnamed : ∀ turn ∈ turns, turn.caller.user ≠ "")
    (hdistinct : (drawn m w turns).Nodup) :
    (∀ id, (after m w turns).carrying id ≠ [] → Orderly m (after m w turns) id) ∧
      (∀ before turn rest, turns = before ++ turn :: rest → KeepsOrder m (after m w before) turn) ∧
      ((∀ turn ∈ turns, turn.caller.ignoresOwnership = false) →
        (∀ id, (after m w turns).carrying id ≠ [] → Owned (after m w turns) id) ∧
        ∀ before turn rest, turns = before ++ turn :: rest →
          KeepsOwners m (after m w before) turn) := by
  -- Both halves are one induction, in which ownership may be strict or not.
  let strict : Prop := ∀ turn ∈ turns, turn.caller.ignoresOwnership = false
  have hlasts := lasts_tidy m strict
  have hkind : ∀ turn ∈ turns, turn.caller.user ≠ "" ∧
      (strict → turn.caller.ignoresOwnership = false) :=
    fun turn hturn => ⟨hnamed turn hturn, fun hstrict => hstrict turn hturn⟩
  have hempty (id : String) : w.carrying id = [] := by
    rw [carrying, labels, hcontainers]
    rfl
  have hstart : ∃ leases, Tidy m strict (fun _ => False) leases w :=
    ⟨[], hstore, fun id hne => hne (hempty id), fun id hne => absurd (hempty id) hne⟩
  have hnew : ∀ id ∈ drawn m w turns, ¬False := fun _ _ hfalse => hfalse
  obtain ⟨leases, hafter⟩ := hlasts.after [] hkind hdistinct hnew hstart
  have hturn {before : List Turn} {turn : Turn} {rest : List Turn}
      (heq : turns = before ++ turn :: rest) :
      ∃ known leases, Tidy m strict known leases (after m w before) ∧
        ∀ id ∈ (drawnBy m (after m w before) turn).toList, ¬known id := by
    rw [heq] at hkind hdistinct hnew
    obtain ⟨known, ⟨leases, htidy⟩, hunknown⟩ := hlasts.before [] hkind hdistinct hnew hstart
    exact ⟨known, leases, htidy, hunknown⟩
  refine ⟨fun id hne => hafter.orderly hne, fun before turn rest heq => ?_, fun hstrict =>
    ⟨fun id hne => hafter.owned hstrict hne, fun before turn rest heq => ?_⟩⟩
  · obtain ⟨known, leases, htidy, hunknown⟩ := hturn heq
    obtain ⟨huser, hminds⟩ := hkind turn (by simp [heq])
    exact htidy.keepsOrder huser hminds hunknown
  · obtain ⟨known, leases, htidy, hunknown⟩ := hturn heq
    obtain ⟨huser, hminds⟩ := hkind turn (by simp [heq])
    exact htidy.keepsOwners hstrict huser hminds hunknown

open Sample in
/-- Two nodes are one orderly cluster, which stays with whoever asked for it. -/
theorem clusters_stay_orderly_of_shortened :
    ((after manager (initial Plan.smooth .yaml newYear) shortened).carrying "i").length = 2 ∧
      Orderly manager (after manager (initial Plan.smooth .yaml newYear) shortened) "i" ∧
      Owned (after manager (initial Plan.smooth .yaml newYear) shortened) "i" := by
  have hcarried :
      ((after manager (initial Plan.smooth .yaml newYear) shortened).carrying "i").length = 2 := by
    decide +kernel
  have hne : (after manager (initial Plan.smooth .yaml newYear) shortened).carrying "i" ≠ [] := by
    intro hempty
    rw [hempty] at hcarried
    cases hcarried
  have hnamed : ∀ turn ∈ shortened, turn.caller.user ≠ "" := by decide +kernel
  have hminds : ∀ turn ∈ shortened, turn.caller.ignoresOwnership = false := by decide
  obtain ⟨horderly, -, howned⟩ := clusters_stay_orderly rfl rfl hnamed nodup_drawn_shortened
  exact ⟨hcarried, horderly "i" hne, (howned hminds).1 "i" hne⟩

end ClusterLease.World
