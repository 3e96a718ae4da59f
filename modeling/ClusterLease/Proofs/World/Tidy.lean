import ClusterLease.Proofs.World.History

/-!
Labels and leases in step.

Labels are kept by the runtime and leases by the store, and an operation may stop between the two.
Still, in a world that is `Tidy`, the containers of a cluster are some of the nodes of one demand
that passed its checks, and the cluster has a lease (`Grown`). Every turn leaves a tidy world tidy
in every state that it goes through (`Tidy.throughout_turn`), and so does a run (`lasts_tidy`).
-/

namespace ClusterLease.World

open Container (Info)
open Manager (Call Operation)

variable {m : Manager} {strict : Prop} {known : String → Prop} {leases : Leases} {w w' : World}
    {id : String}

/-- The labels of the containers that carry a cluster. -/
def carrying (w : World) (id : String) : List Labels :=
  w.labels.filter fun labels => clusterOf? labels = some id

theorem mem_carrying {labels : Labels} : labels ∈ w.carrying id ↔ labels ∈ w.labels ∧
    clusterOf? labels = some id := by
  simp [carrying]

def hostNameOf (labels : Labels) : String :=
  NodeDemand.hostName ⟨labels.getD Container.nodeLabel, "", "", none⟩

/-- A cluster has grown from a demand that passed its checks: it carries the labels of some of the
nodes, each once, and it has a lease. Where ownership is strict, the lease belongs to whoever made
the demand. -/
structure Grown (m : Manager) (strict : Prop) (leases : Leases) (w : World) (id : String)
    (caller : Caller) (nodes : List NodeDemand) : Prop where
  named : caller.user ≠ ""
  sound : ClusterDemand.Sound m.limits nodes
  labels : (w.carrying id).Subperm (nodes.map (Manager.nodeLabels caller id))
  lease : ∃ lease, leases.get? id = some lease ∧ (strict → lease.owner = .text caller.user)

/-- Every cluster that some container carries is known and has grown from a demand. -/
structure Tidy (m : Manager) (strict : Prop) (known : String → Prop) (leases : Leases) (w : World) :
    Prop where
  store : w.store = .memory leases
  known : ∀ id, w.carrying id ≠ [] → known id
  grown : ∀ id, w.carrying id ≠ [] → ∃ caller nodes, Grown m strict leases w id caller nodes

/-! ### What keeps worlds tidy -/

/-- What carries an id afterwards did before, or was gained. -/
theorem carrying_subperm {gained : List Labels} (h : w'.labels.Subperm (w.labels ++ gained))
    (id : String) :
    (w'.carrying id).Subperm (w.carrying id ++ gained.filter fun labels =>
      clusterOf? labels = some id) := by
  rw [carrying, carrying, ← List.filter_append]
  exact h.filter _

theorem ne_nil_of_subperm {α : Type} {xs ys : List α} (h : xs.Subperm ys) (hne : xs ≠ []) :
    ys ≠ [] := by
  rintro rfl
  exact hne (List.subperm_nil.1 h)

/-- Containers may go away, and one may be given new leases for the clusters that are there. -/
theorem Tidy.change {leases' : Leases} (h : Tidy m strict known leases w)
    (hstore : w'.store = .memory leases') (hlabels : w'.labels.Subperm w.labels)
    (hleases : ∀ id caller nodes, Grown m strict leases w id caller nodes →
      w.carrying id ≠ [] → ∃ lease, leases'.get? id = some lease ∧
        (strict → lease.owner = .text caller.user)) :
    Tidy m strict known leases' w' := by
  have hcarrying (id : String) : (w'.carrying id).Subperm (w.carrying id) := hlabels.filter _
  refine ⟨hstore, fun id hne => h.known id (ne_nil_of_subperm (hcarrying id) hne), fun id hne => ?_⟩
  have hold := ne_nil_of_subperm (hcarrying id) hne
  obtain ⟨caller, nodes, hgrown⟩ := h.grown id hold
  exact ⟨caller, nodes, hgrown.named, hgrown.sound, (hcarrying id).trans hgrown.labels,
    hleases id caller nodes hgrown hold⟩

/-- A world stays tidy when it keeps its store and loses containers. -/
theorem Tidy.frame (h : Tidy m strict known leases w) (hstore : w'.store = w.store)
    (hlabels : w'.labels.Subperm w.labels) :
    Tidy m strict known leases w' :=
  h.change (hstore.trans h.store) hlabels fun _ _ _ hgrown _ => hgrown.lease

theorem Tidy.logging (h : Tidy m strict known leases w) (entries : List Log.Entry) :
    Tidy m strict known leases (w.logging entries) := h.frame rfl (.refl _)

theorem Tidy.mono {known' : String → Prop} (h : Tidy m strict known leases w)
    (himp : ∀ id, known id → known' id) :
    Tidy m strict known' leases w := ⟨h.store, fun id hne => himp id (h.known id hne), h.grown⟩

/-- A cluster that was not known grows from a demand. -/
theorem Tidy.grow (h : Tidy m strict known leases w) (hunknown : ¬known id) {caller : Caller}
    {nodes : List NodeDemand} {lease : Lease} (huser : caller.user ≠ "")
    (hsound : ClusterDemand.Sound m.limits nodes) (howner : lease.owner = .text caller.user)
    (hstore : w'.store = .memory (leases.put id lease))
    (hlabels : w'.labels.Subperm (w.labels ++ nodes.map (Manager.nodeLabels caller id))) :
    Tidy m strict (fun other => known other ∨ other = id) (leases.put id lease) w' := by
  have hempty : w.carrying id = [] := by
    by_contra hne
    exact hunknown (h.known id hne)
  -- Containers of another cluster were there before.
  have hothers {other : String} (hne : other ≠ id) :
      (w'.carrying other).Subperm (w.carrying other) := by
    have hsub := carrying_subperm hlabels other
    have hnone :
        ((nodes.map (Manager.nodeLabels caller id)).filter fun labels =>
        clusterOf? labels = some other) = [] := by
      rw [List.filter_eq_nil_iff]
      intro labels hmem
      obtain ⟨node, -, rfl⟩ := List.mem_map.1 hmem
      rw [decide_eq_true_eq]
      exact fun hother => hne (eq_of_clusterOf?_nodeLabels hother)
    rwa [hnone, List.append_nil] at hsub
  refine ⟨hstore, fun other hcarried => ?_, fun other hcarried => ?_⟩
  · by_cases hother : other = id
    · exact .inr hother
    · exact .inl (h.known other (ne_nil_of_subperm (hothers hother) hcarried))
  · by_cases hother : other = id
    · subst hother
      have hsub := carrying_subperm hlabels other
      rw [hempty, List.nil_append] at hsub
      refine ⟨caller, nodes, huser, hsound, hsub.trans List.filter_sublist.subperm, lease, ?_,
        fun _ => howner⟩
      rw [Table.get?_put, if_pos rfl]
    · -- Other clusters keep their demand and lease, whatever containers they lost.
      obtain ⟨maker, others, hgrown⟩ := h.grown other (ne_nil_of_subperm (hothers hother) hcarried)
      obtain ⟨old, hold, howned⟩ := hgrown.lease
      refine ⟨maker, others, hgrown.named, hgrown.sound, (hothers hother).trans hgrown.labels, old,
        ?_, howned⟩
      rw [Table.get?_put, if_neg hother, hold]

/-- A program that only kills leaves a tidy world tidy at every moment. -/
theorem Tidy.throughout_of_kills {α : Type} {p : ManagerM α} (hp : p.Asks Call.Kills)
    (h : Tidy m strict known leases w) :
    p.Throughout answer (Tidy m strict known leases) w := by
  refine hp.proceeds (fun _ _ h _ => h) (fun t call h hcall => ?_) h
  have hdwindles := dwindles_answer hcall t
  exact h.frame hdwindles.store hdwindles.labels.subperm

/-! ### Owners and creators -/

variable {caller maker : Caller} {nodes : List NodeDemand}

theorem fetch_of_get? {lease : Lease} (hstore : w.store = .memory leases)
    (h : leases.get? id = some lease) :
    (w.store.fetch w.format id).answer = .ok lease := by
  rw [hstore, Store.fetch_memory, Leases.require, h]

/-- Whoever finds a cluster finds containers of it. -/
theorem carrying_of_finds (h : Finds caller (w.containers.map (·.info)) id) :
    w.carrying id ≠ [] := by
  obtain ⟨labels, hmem, hid⟩ := exists_label_of_finds h
  exact List.ne_nil_of_mem (mem_carrying.2 ⟨hmem, hid⟩)

/-- All containers of a cluster name its maker. -/
theorem Grown.creatorLabel (h : Grown m strict leases w id maker nodes) {labels : Labels}
    (hmem : labels ∈ w.carrying id) :
    labels.get? Container.creatorLabel = some maker.user := by
  obtain ⟨node, -, rfl⟩ := List.mem_map.1 (h.labels.subset hmem)
  rfl

/-- The labels of a cluster are those of its group in a listing. -/
theorem carrying_eq_map (w : World) (id : String) :
    w.carrying id = (Cluster.groupOf (w.containers.map (·.info)) id).containers.map (·.labels) := by
  have hcarries (info : Info) :
      (Cluster.idOf? info == some id) = decide (clusterOf? info.labels = some id) := by
    rw [idOf?_eq_clusterOf?, Bool.beq_eq_decide_eq]
  simp only [carrying, labels, Cluster.groupOf, hcarries, List.filter_map, List.map_map]
  rfl

/-- The creator of a cluster is whoever made the demand. -/
theorem Grown.creator (h : Grown m strict leases w id maker nodes) (hne : w.carrying id ≠ []) :
    (Cluster.groupOf (w.containers.map (·.info)) id).creator = maker.user := by
  refine Cluster.Group.creator_eq (fun hempty => hne ?_) h.named fun container hmem => ?_
  · rw [carrying_eq_map, hempty, List.map_nil]
  · -- Every label of the group is one that the maker of the demand gave.
    have hcarried : container.labels ∈ w.carrying id :=
      carrying_eq_map w id ▸ List.mem_map_of_mem hmem
    rw [Labels.getD, h.creatorLabel hcarried, Option.getD_some]

/-- Whoever minds ownership finds nothing but what they made. -/
theorem Grown.user_eq (h : Grown m strict leases w id maker nodes)
    (hfinds : Finds caller (w.containers.map (·.info)) id)
    (hminds : caller.ignoresOwnership = false) : maker.user = caller.user := by
  have hsees := hfinds.2
  rw [Manager.sees, hminds, Bool.false_or, beq_iff_eq,
    h.creator (carrying_of_finds hfinds)] at hsees
  exact hsees

/-- Where ownership is strict, whoever finds a cluster may kill it. -/
theorem Tidy.mayKill (h : Tidy m strict known leases w) (hstrict : strict)
    (hfinds : Finds caller (w.containers.map (·.info)) id) :
    Manager.mayKill caller (w.clusterOf m (w.containers.map (·.info)) id) = true := by
  obtain ⟨maker, nodes, hgrown⟩ := h.grown id (carrying_of_finds hfinds)
  obtain ⟨lease, hlease, howner⟩ := hgrown.lease
  have hshown : w.lease? id = some lease := by rw [lease?, fetch_of_get? h.store hlease]; rfl
  have howned : (w.clusterOf m (w.containers.map (·.info)) id).owner = .text maker.user := by
    rw [clusterOf, hshown]
    exact howner hstrict
  rw [Manager.mayKill, howned]
  cases hminds : caller.ignoresOwnership with
  | true => rfl
  | false => simp [hgrown.user_eq hfinds hminds, Value.text?]

/-! ### Refreshing -/

/-- The lease of a cluster is passed on to someone who finds it. -/
theorem Tidy.passOn (h : Tidy m strict known leases w)
    (hfinds : Finds caller (w.containers.map (·.info)) id)
    (hminds : strict → caller.ignoresOwnership = false) {lease : Lease}
    (howner : lease.owner = .text caller.user) (hstore : w'.store = .memory (leases.put id lease))
    (hlabels : w'.labels = w.labels) :
    Tidy m strict known (leases.put id lease) w' := by
  refine h.change hstore (hlabels ▸ .refl _) fun other maker nodes hgrown _ => ?_
  by_cases hother : other = id
  · subst hother
    refine ⟨lease, by rw [Table.get?_put, if_pos rfl], fun hstrict => ?_⟩
    -- Whoever minds ownership and finds a cluster has made it.
    rw [howner, hgrown.user_eq hfinds (hminds hstrict)]
  · obtain ⟨old, hold, howned⟩ := hgrown.lease
    exact ⟨old, by rw [Table.get?_put, if_neg hother, hold], howned⟩

/-- A cluster that is shown was found. -/
theorem finds_of_cluster (h : w.store.Readable w.format) {cluster : Cluster}
    (hrun : ((m.cluster caller id).run answer w).1 = .ok cluster) :
    Finds caller (w.containers.map (·.info)) id := by
  obtain ⟨logs, hanswer⟩ := run_of_quietly (run_cluster h id)
  rw [hanswer] at hrun
  cases hlist : w.list with
  | error fault =>
    rw [hlist] at hrun
    cases hrun
  | ok listing =>
    rw [hlist] at hrun
    by_cases hfinds : Finds caller listing id
    · exact listing_of_list hlist ▸ hfinds
    · simp only [Except.bind, if_neg hfinds] at hrun
      cases hrun

/-- Showing a cluster leaves a tidy world tidy, and its containers as they are. -/
theorem Tidy.proceeds_cluster (h : Tidy m strict known leases w) (caller : Caller) (id : String) :
    (m.cluster caller id).Proceeds answer (fun t call => Tidy m strict known leases t ∧ call.Reads)
    (fun outcome t =>
      Tidy m strict known leases t ∧ ∀ cluster, outcome = .ok cluster →
        Finds caller (t.containers.map (·.info)) id) w := by
  -- A cluster is told without changing the world, so that the one shown at the end is found at the beginning.
  have hreads :
      (m.cluster caller id).Proceeds answer (fun t call => Tidy m strict known leases t ∧
    call.Reads)
      (fun _ t => Tidy m strict known leases t) w := by
    refine (m.asks_cluster caller id).proceeds (fun t call htidy hreads => ⟨htidy, hreads⟩)
      (fun t call htidy hreads => ?_) h
    have hdwindles := dwindles_answer hreads.kills t
    exact htidy.frame hdwindles.store hdwindles.labels.subperm
  refine hreads.of_run (fun outcome t => ∀ cluster, outcome = .ok cluster →
    Finds caller (t.containers.map (·.info)) id) ?_
  intro cluster hrun
  have hspares := (m.asks_cluster caller id).mono fun _ => Call.Reads.sparesContainers
  rw [run_of_sparesContainers hspares]
  exact finds_of_cluster (h.store ▸ Store.readable_memory _ leases) hrun

/-- Changing a lease that is there answers the change, and writes the lease that it gives. -/
theorem answer_changeLease {lease : Lease} (hstore : w.store = .memory leases)
    (hlease : leases.get? id = some lease) (change : Lease → Except Fault Lease) :
    answer (.changeLease id change) w = (change lease,
      { w.logging [] with store := .memory (leasesAfter leases id (change lease)) }) := by
  have hresult := @Store.update_memory_of_some w.format leases id change lease hlease
  rw [← hstore] at hresult
  exact congrArg
    (fun result => (result.answer, { w.logging result.logs with store := result.store })) hresult

/-- A refresh never puts down a new lease where the world is tidy, and keeps it so. -/
theorem Tidy.proceeds_refresh (h : Tidy m strict known leases w)
    (hminds : strict → caller.ignoresOwnership = false) (id : String) (extension : Duration) :
    (m.refresh caller id extension).Proceeds answer
      (fun t call => (∃ leases, Tidy m strict known leases t) ∧ ¬call.KeepsLease)
      (fun _ t => ∃ leases, Tidy m strict known leases t) w := by
  rw [Manager.refresh]
  refine proceeds_info_bind ⟨⟨leases, h⟩, fun hkeeps => hkeeps⟩ fun entries => ?_
  have hcluster : (m.cluster caller id).Proceeds answer
      (fun t call => (∃ leases, Tidy m strict known leases t) ∧ ¬call.KeepsLease) (fun outcome t =>
        Tidy m strict known leases t ∧ ∀ cluster, outcome = .ok cluster →
        Finds caller (t.containers.map (·.info)) id)
      (w.logging entries) :=
    ((h.logging entries).proceeds_cluster caller id).mono
      (fun _ _ hallowed => ⟨⟨leases, hallowed.1⟩, hallowed.2.not_keepsLease⟩) fun _ _ hgoal => hgoal
  refine hcluster.bind ?_ fun fault t hgoal => ⟨leases, hgoal.1⟩
  rintro cluster t ⟨htidy, hfinds⟩
  have hfinds := hfinds cluster rfl
  rw [Manager.proceeds_ask_bind]
  refine ⟨⟨⟨leases, htidy⟩, fun hkeeps => hkeeps⟩, ?_⟩
  have hclock : answer .now t = (t.clock, t) := rfl
  rw [hclock]
  cases t.clock.add? extension with
  | none => exact ⟨leases, htidy⟩
  | some expiry =>
    -- The cluster that was found is carried by a container, so it has a lease to change.
    obtain ⟨maker, nodes, hgrown⟩ := htidy.grown id (carrying_of_finds hfinds)
    obtain ⟨old, hold, -⟩ := hgrown.lease
    dsimp only
    rw [Manager.proceeds_ask_bind, answer_changeLease htidy.store hold]
    refine ⟨⟨⟨leases, htidy⟩, fun hkeeps => hkeeps⟩, ?_⟩
    cases hextended : old.extended caller.user expiry with
    | ok lease =>
      exact ⟨leases.put id lease,
        htidy.passOn hfinds hminds (Lease.extended_owner hextended) rfl rfl⟩
    | error fault =>
      obtain rfl := Lease.extended_error hextended
      exact ⟨leases, htidy.frame htidy.store.symm (.refl _)⟩

/-! ### Allocating -/

/-- An allocation leaves a tidy world tidy at every moment, whatever goes wrong. -/
theorem Tidy.throughout_allocate (h : Tidy m strict known leases w) (huser : caller.user ≠ "")
    {wanted : ClusterDemand} (hchecked : wanted.checked m.limits = .ok nodes)
    (hunknown : ¬known w.nextId) :
    (m.allocate caller wanted).Throughout answer
      (fun t => ∃ leases,
        Tidy m strict (fun other => known other ∨ other = w.nextId) leases t) w := by
  -- Up to the lease nothing is changed, and from then on the new cluster grows.
  have hresembles {t : World} (hsame : w.Resembles t) :
      ∃ leases, Tidy m strict (fun other => known other ∨ other = w.nextId) leases t :=
    ⟨leases, (h.frame hsame.1 (hsame.2 ▸ .refl _)).mono fun _ => .inl⟩
  have hgrown {t : World} {expiry : Moment} (hgranted : w.Granted caller leases nodes expiry t) :
      ∃ leases, Tidy m strict (fun other => known other ∨ other = w.nextId) leases t := by
    have hlabels := hgranted.labels
    rw [List.append_nil] at hlabels
    exact ⟨_, h.grow hunknown huser (ClusterDemand.checked_ok hchecked) rfl hgranted.store hlabels⟩
  refine (proceeds_allocate caller h.store hchecked).mono ?_ ?_
  · rintro t - (hsame | ⟨expiry, -, hgranted⟩)
    · exact hresembles hsame
    · exact hgrown hgranted
  · rintro - t (⟨-, hsame⟩ | ⟨expiry, -, hgranted⟩)
    · exact hresembles hsame
    · exact hgrown hgranted

/-! ### Turns -/

variable {turn : Turn}

theorem Tidy.begin (h : Tidy m strict known leases w) (turn : Turn) :
    Tidy m strict known leases (w.begin turn) :=
  h.frame rfl (w.begin_labels turn).subperm

/-- A turn leaves a tidy world tidy at every moment, if the id that it draws is new. -/
theorem Tidy.throughout_turn (h : Tidy m strict known leases w) (huser : turn.caller.user ≠ "")
    (hminds : strict → turn.caller.ignoresOwnership = false)
    (hnew : ∀ id ∈ (drawnBy m w turn).toList, ¬known id) :
    (turn.operation.program m turn.caller).Throughout answer
      (fun t => ∃ leases,
        Tidy m strict (fun id => known id ∨ id ∈ (drawnBy m w turn).toList) leases t)
        (w.begin turn) := by
  have hbegun := h.begin turn
  -- Four of the six operations only read or kill.
  have hkills (operation : Operation) (hasks : (operation.program m turn.caller).Asks Call.Kills) :
      (operation.program m turn.caller).Throughout answer
        (fun t => ∃ leases,
        Tidy m strict (fun id => known id ∨ id ∈ (drawnBy m w turn).toList) leases t)
        (w.begin turn) :=
    (hbegun.throughout_of_kills hasks).mono fun _ htidy => ⟨leases, htidy.mono fun _ => .inl⟩
  cases hoperation : turn.operation with
  | clusters =>
    exact hkills .clusters ((m.asks_clusters turn.caller).mono fun _ => Call.Reads.kills)
  | cluster id =>
    exact hkills (.cluster id) ((m.asks_cluster turn.caller id).mono fun _ => Call.Reads.kills)
  | kill id => exact hkills (.kill id) (m.asks_kill turn.caller id)
  | killAll => exact hkills .killAll (m.asks_killAll turn.caller)
  | refresh id extension =>
    refine (hbegun.proceeds_refresh hminds id extension).mono ?_ ?_
    · rintro t _ ⟨⟨leases', htidy⟩, -⟩
      exact ⟨leases', htidy.mono fun _ => .inl⟩
    · rintro _ t ⟨leases', htidy⟩
      exact ⟨leases', htidy.mono fun _ => .inl⟩
  | allocate wanted =>
    rw [drawnBy, hoperation] at hnew ⊢
    dsimp only at hnew ⊢
    cases hchecked : wanted.checked m.limits with
    | error fault =>
      refine (throughout_allocate_of_refused (w.begin turn) turn.caller hchecked).mono ?_
      rintro t ⟨hsame, hlabels⟩
      exact ⟨leases, (hbegun.frame hsame (hlabels ▸ .refl _)).mono fun _ => .inl⟩
    | ok nodes =>
      rw [hchecked] at hnew
      have hunknown : ¬known (w.begin turn).nextId := hnew _ (List.mem_singleton_self _)
      refine (hbegun.throughout_allocate huser hchecked hunknown).mono ?_
      rintro t ⟨leases', htidy⟩
      exact ⟨leases', htidy.mono fun id hid => hid.imp_right List.mem_singleton.2⟩

/-- Tidiness lasts over every turn of a named caller that minds ownership where this is strict. -/
theorem lasts_tidy (m : Manager) (strict : Prop) :
    Lasts m (fun turn => turn.caller.user ≠ "" ∧ (strict → turn.caller.ignoresOwnership = false))
      fun known w _ => ∃ leases, Tidy m strict known leases w where
  mono := fun himp ⟨leases, h⟩ => ⟨leases, h.mono himp⟩
  step := fun hkind hnew ⟨_, h⟩ => (h.throughout_turn hkind.1 hkind.2 hnew).reached

end ClusterLease.World
