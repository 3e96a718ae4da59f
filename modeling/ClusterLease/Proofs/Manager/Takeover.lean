import ClusterLease.Proofs.Manager.Renewal

/-!
An allocation that fails, when others may take its cluster over.

The allocation asks for its own cluster only (`Allots`). If what it is told is `Truthful`, as the
answers are of a runtime that lists what was created and of a keeper that loses no lease, then its
rollback either stops all that was created, or reads a lease that someone else has taken over, and
stops nothing (`upholds_allocate_rollback`).
-/

namespace ClusterLease.Manager

open Container (Info)

/-! ### What events tell -/

/-- The container that was created, if one was. -/
def created? : Event interface → Option String
  | ⟨.create _, .ok container⟩ => some container
  | _ => none

/-- The containers that were created. -/
def made (events : List (Event interface)) : List String := events.filterMap created?

/-- A lease was put down for the cluster. -/
def KeptLease (id : String) (past : List (Event interface)) : Prop :=
  ∃ lease, (⟨.keepLease id lease, .ok ()⟩ : Event interface) ∈ past

/-- The lease belongs to the user, or to someone who has taken it over. -/
def Belongs (user : String) (taken : Value → Prop) (lease : Lease) : Prop :=
  lease.owner = .text user ∨ taken lease.owner

/-- An answer is truthful about a cluster of a user after some events. A listing shows all of its
containers as long as none was stopped, each of them with the user as its creator. Its lease can be
read once it was put down, and any other lease can be told to be missing at worst. -/
def Told (user id : String) (taken : Value → Prop) (past : List (Event interface)) :
    Event interface → Prop
  | ⟨.list, reply⟩ => ∃ listing : List Info, reply = .ok listing ∧
      (∀ info ∈ listing, Cluster.idOf? info = some id →
        info.labels.getD Container.creatorLabel = user) ∧
      (stops past = [] → ∀ container ∈ made past,
        ∃ info ∈ listing, info.id = container ∧ Cluster.idOf? info = some id)
  | ⟨.fetchLease other, reply⟩ =>
      (∀ fault : Fault, reply = .error fault → ∃ missing, fault = .metaNotFound missing) ∧
      (other = id → KeptLease id past → ∃ lease : Lease, reply = .ok lease ∧ Belongs user taken lease)
  | _ => True

/-- All answers so far were truthful. -/
def Truthful (user id : String) (taken : Value → Prop) : List (Event interface) → Prop
  | [] => True
  | event :: past => Told user id taken past event ∧ Truthful user id taken past

/-- The lease was read, and it belongs to someone. -/
def ReadLease (user id : String) (taken : Value → Prop) (now : List (Event interface)) (lease : Lease) :
    Prop :=
  (⟨.fetchLease id, .ok lease⟩ : Event interface) ∈ now ∧ Belongs user taken lease

/-- Nothing was stopped, after the lease was read as someone else's. -/
def GivenUp (id : String) (taken : Value → Prop) (now : List (Event interface)) : Prop :=
  stops now = [] ∧ ∃ lease : Lease, (⟨.fetchLease id, .ok lease⟩ : Event interface) ∈ now ∧
    taken lease.owner

/-- All that was created was stopped, or the cluster was given up. -/
def Undone (id : String) (taken : Value → Prop) (now : List (Event interface)) : Prop :=
  (∀ container ∈ made now, container ∈ stops now) ∨ GivenUp id taken now

/-- What an allocation may ask: it draws one id, and puts down a lease for that id and its caller. -/
def Allots (user : String) (past : List (Event interface)) : Call → Prop
  | .freshId => first drawn? past = none
  | .keepLease id lease => first drawn? past = some id ∧
      ∃ length expiry, Expects length past expiry ∧ lease = Lease.ofUser user expiry
  | .changeLease .. => False
  | _ => True

variable {rule : List (Event interface) → Call → Prop} {m : Manager} {caller : Caller}
  {past now : List (Event interface)} {user id other : String} {taken : Value → Prop} {lease : Lease}

/-- What was true of all answers was true of the earlier ones. -/
theorem Truthful.of_suffix (hsuffix : past <:+ now) (h : Truthful user id taken now) :
    Truthful user id taken past := by
  obtain ⟨new, rfl⟩ := hsuffix
  induction new with
  | nil => exact h
  | cons event rest ih => exact ih h.2

/-- It is true of more owners as well. -/
theorem Truthful.mono {taken' : Value → Prop} (himp : ∀ owner, taken owner → taken' owner)
    (h : Truthful user id taken past) : Truthful user id taken' past := by
  induction past with
  | nil => trivial
  | cons event rest ih =>
    refine ⟨?_, ih h.2⟩
    obtain ⟨call, reply⟩ := event
    cases call with
    | fetchLease other =>
      refine ⟨h.1.1, fun heq hkept => ?_⟩
      obtain ⟨lease, hreply, hbelongs⟩ := h.1.2 heq hkept
      exact ⟨lease, hreply, hbelongs.imp_right (himp _)⟩
    | _ => exact h.1

theorem ReadLease.mono (hsuffix : past <:+ now) (h : ReadLease user id taken past lease) :
    ReadLease user id taken now lease := ⟨hsuffix.subset h.1, h.2⟩

/-- A lease that was kept has been kept. -/
theorem KeptLease.mono (hsuffix : past <:+ now) (h : KeptLease id past) : KeptLease id now := by
  obtain ⟨lease, hmem⟩ := h
  exact ⟨lease, hsuffix.subset hmem⟩

/-! ### Reading -/

/-- A truthful keeper of leases is never the end of an operation, and tells a lease that was put
down. -/
theorem upholds_leaseOf_told (hrule : ∀ now call, call.Reads → rule now call) (user id : String)
    (taken : Value → Prop) (other : String) :
    (leaseOf other).Upholds rule (fun o now => Truthful user id taken now →
      ∃ lease?, o = .ok lease? ∧ (other = id → KeptLease id past →
        ∃ lease, lease? = some lease ∧ ReadLease user id taken now lease)) past := by
  refine upholds_ask_bind.2 ⟨hrule _ _ trivial, fun reply => ?_⟩
  -- What follows are warnings at most, and they are asked for after the answer.
  have htold {now : List (Event interface)} (hsuffix : ⟨.fetchLease other, reply⟩ :: past <:+ now)
      (h : Truthful user id taken now) : Told user id taken past ⟨.fetchLease other, reply⟩ :=
    (h.of_suffix hsuffix).1
  cases reply with
  | ok lease =>
    intro h
    refine ⟨some lease, rfl, fun heq hkept => ?_⟩
    obtain ⟨told, hreply, hbelongs⟩ := (htold (List.suffix_refl _) h).2 heq hkept
    obtain rfl := Except.ok.inj hreply
    exact ⟨lease, rfl, heq ▸ List.mem_cons_self, hbelongs⟩
  | error fault =>
    have hmissing (h : Told user id taken past ⟨.fetchLease other, .error fault⟩) (heq : other = id) :
        ¬KeptLease id past := fun hkept => by
      obtain ⟨_, hreply, -⟩ := h.2 heq hkept
      cases hreply
    split
    · next heq => cases heq
    · refine upholds_ask_bind.2 ⟨hrule _ _ trivial, fun _ h => ⟨none, rfl, fun heq hkept => ?_⟩⟩
      exact absurd hkept (hmissing (htold (List.suffix_cons _ _) h) heq)
    · next hother heq =>
      obtain rfl := Except.error.inj heq
      split
      · refine upholds_ask_bind.2 ⟨hrule _ _ trivial, fun _ h => ⟨none, rfl, fun heq hkept => ?_⟩⟩
        exact absurd hkept (hmissing (htold (List.suffix_cons _ _) h) heq)
      · intro h
        obtain ⟨missing, rfl⟩ := (htold (List.suffix_refl _) h).1 _ rfl
        exact absurd rfl (hother missing)

/-- All groups are shown, that of the cluster with the lease that was put down. -/
theorem upholds_describe_told (hrule : ∀ now call, call.Reads → rule now call) (user id : String)
    (taken : Value → Prop) (groups : List Cluster.Group) :
    (m.describe groups).Upholds rule (fun o now => Truthful user id taken now →
      ∃ clusters, o = .ok clusters ∧ clusters.map (·.id) = groups.map (·.id) ∧
        ∀ cluster ∈ clusters, ∃ group ∈ groups, ∃ lease?,
          cluster = Cluster.ofGroup m.config.networkName group lease? ∧
          (group.id = id → KeptLease id past → ∃ lease, lease? = some lease ∧
            ReadLease user id taken now lease)) past := by
  -- By induction on the groups, for any past: each lease that is asked for makes it longer, and what was kept
  -- before still is.
  induction groups generalizing past with
  | nil => exact fun _ => ⟨[], rfl, rfl, by simp⟩
  | cons group rest ih =>
    rw [describe, Program.upholds_bind]
    refine (upholds_leaseOf_told hrule user id taken group.id).imp ?_
    rintro (fault | lease?) now hnow hlease
    · intro h
      obtain ⟨_, hok, -⟩ := hlease h
      cases hok
    rw [Program.Then, Program.upholds_bind]
    refine ih.imp ?_
    rintro (fault | others) last hlast hothers
    · intro h
      obtain ⟨_, hok, -⟩ := hothers h
      cases hok
    intro h
    obtain ⟨_, ⟨⟩, hids, hshown⟩ := hothers h
    obtain ⟨_, ⟨⟩, hread⟩ := hlease (h.of_suffix hlast)
    refine ⟨_, rfl, congrArg (group.id :: ·) hids, fun cluster hcluster => ?_⟩
    rcases List.mem_cons.1 hcluster with rfl | hcluster
    · refine ⟨group, List.mem_cons_self, lease?, rfl, fun heq hkept => ?_⟩
      obtain ⟨lease, hsome, hread⟩ := hread heq hkept
      exact ⟨lease, hsome, hread.mono hlast⟩
    · obtain ⟨other, hother, lease?, rfl, hread⟩ := hshown cluster hcluster
      exact ⟨other, List.mem_cons_of_mem _ hother, lease?, rfl, fun heq hkept =>
        hread heq (hkept.mono hnow)⟩

/-- What a user finds of a new cluster: all of its containers, and the lease that was put down. -/
structure Found (user id : String) (taken : Value → Prop) (containers : List String)
    (now : List (Event interface)) (cluster : Cluster) : Prop where
  owned : ∃ lease, ReadLease user id taken now lease ∧ cluster.owner = lease.owner
  complete : ∀ container ∈ containers, ∃ node ∈ cluster.nodes, node.containerId = container

/-- A truthful listing shows all that was created, in a group that its user sees. -/
theorem Told.group {listing : List Info} (h : Told caller.user id taken past ⟨.list, .ok listing⟩)
    (huser : caller.user ≠ "") (hnone : stops past = []) (hmade : made past ≠ []) :
    (∀ container ∈ made past,
      ∃ info ∈ (Cluster.groupOf listing id).containers, info.id = container) ∧
    Cluster.groupOf listing id ∈ (Cluster.groups listing).filter (sees caller) := by
  obtain ⟨_, ⟨⟩, hcreators, hlisted⟩ := h
  have hcomplete : ∀ container ∈ made past,
      ∃ info ∈ (Cluster.groupOf listing id).containers, info.id = container := by
    intro container hcontainer
    obtain ⟨info, hinfo, hid, hcarries⟩ := hlisted hnone container hcontainer
    exact ⟨info, Cluster.mem_containers_groupOf.2 ⟨hinfo, hcarries⟩, hid⟩
  have hne : (Cluster.groupOf listing id).containers ≠ [] := by
    obtain ⟨container, hcontainer⟩ := List.exists_mem_of_ne_nil _ hmade
    obtain ⟨info, hinfo, -⟩ := hcomplete container hcontainer
    exact List.ne_nil_of_mem hinfo
  -- All that carry the id name the caller, so the group is the caller's even if the lease is somebody else's.
  have hcreator : (Cluster.groupOf listing id).creator = caller.user := by
    refine Cluster.Group.creator_eq hne huser fun info hinfo => ?_
    obtain ⟨hlisted, hcarries⟩ := Cluster.mem_containers_groupOf.1 hinfo
    exact hcreators info hlisted hcarries
  refine ⟨hcomplete, List.mem_filter.2 ⟨?_, ?_⟩⟩
  · exact List.mem_map.2 ⟨id, Cluster.mem_ids_iff.2 hne, rfl⟩
  · rw [sees, hcreator, beq_self_eq_true, Bool.or_true]

/-- Where the lease was kept and a container made, the cluster is found among those that are shown, by all
containers made for it. -/
theorem upholds_clusters_told (hrule : ∀ now call, call.Reads → rule now call)
    (huser : caller.user ≠ "") (taken : Value → Prop) (hkept : KeptLease id past)
    (hnone : stops past = []) (hmade : made past ≠ []) :
    (m.clusters caller).Upholds rule (fun o now => Truthful caller.user id taken now →
      ∃ clusters cluster, o = .ok clusters ∧
        clusters.find? (fun cluster => cluster.id == id) = some cluster ∧
        Found caller.user id taken (made past) now cluster) past := by
  rw [clusters, Program.upholds_bind]
  -- The listing is truthful, so that the containers in it are those that were made and not stopped.
  refine upholds_ask_bind.2 ⟨hrule _ _ trivial, fun reply => ?_⟩
  cases reply with
  | error fault =>
    rintro ⟨⟨_, hok, -⟩, -⟩
    cases hok
  | ok listing =>
    refine (upholds_describe_told (m := m) hrule caller.user id taken
      ((Cluster.groups listing).filter (sees caller))).imp ?_
    rintro o now hnow hshown h
    obtain ⟨clusters, rfl, hids, hshown⟩ := hshown h
    obtain ⟨hcomplete, hgroup⟩ := (h.of_suffix hnow).1.group huser hnone hmade
    -- A cluster is shown for the group, so one is found, and that is the one for the group.
    have hmem : id ∈ clusters.map (·.id) := hids ▸ List.mem_map.2 ⟨_, hgroup, rfl⟩
    obtain ⟨shown, hmem, hid⟩ := List.mem_map.1 hmem
    obtain ⟨cluster, hfind⟩ := Option.isSome_iff_exists.1
      (List.find?_isSome (p := fun cluster => cluster.id == id).2 ⟨shown, hmem, beq_iff_eq.2 hid⟩)
    refine ⟨clusters, cluster, rfl, hfind, ?_⟩
    obtain ⟨group, hmem, lease?, rfl, hread⟩ := hshown cluster (List.mem_of_find?_eq_some hfind)
    obtain ⟨other, -, rfl⟩ := List.mem_map.1 (List.mem_filter.1 hmem).1
    obtain rfl : other = id := by simpa [Cluster.ofGroup] using List.find?_some hfind
    obtain ⟨lease, rfl, hlease⟩ := hread rfl (hkept.mono (List.suffix_cons _ _))
    refine ⟨⟨lease, hlease, rfl⟩, fun container hcontainer => ?_⟩
    obtain ⟨info, hinfo, rfl⟩ := hcomplete container hcontainer
    exact ⟨Node.ofContainer m.config.networkName info, List.mem_map.2 ⟨info, hinfo, rfl⟩, rfl⟩

/-- A cluster of which something was created is found, and nothing of it is missing. -/
theorem upholds_cluster_told (hrule : ∀ now call, call.Reads → rule now call)
    (huser : caller.user ≠ "") (taken : Value → Prop) (hkept : KeptLease id past)
    (hnone : stops past = []) (hmade : made past ≠ []) :
    (m.cluster caller id).Upholds rule (fun o now => Truthful caller.user id taken now →
      ∃ cluster, o = .ok cluster ∧ Found caller.user id taken (made past) now cluster) past := by
  rw [cluster, Program.upholds_bind]
  refine (upholds_clusters_told hrule huser taken hkept hnone hmade).imp ?_
  rintro (fault | clusters) now - hfound
  · intro h
    obtain ⟨_, _, hok, -⟩ := hfound h
    cases hok
  rw [Program.Then]
  split
  · -- The listing told the cluster, so that it is found among those shown and the other case is none.
    next cluster hfind =>
    intro h
    obtain ⟨_, found, ⟨⟩, hfind', hcluster⟩ := hfound h
    obtain rfl := Option.some.inj (hfind.symm.trans hfind')
    exact ⟨cluster, rfl, hcluster⟩
  · next hfind =>
    intro h
    obtain ⟨_, found, ⟨⟩, hfind', -⟩ := hfound h
    cases hfind.symm.trans hfind'

/-! ### Killing -/

/-- What was stopped has been stopped. -/
theorem stops_subset (hsuffix : past <:+ now) {container : String} (h : container ∈ stops past) :
    container ∈ stops now :=
  (hsuffix.sublist.filterMap _).subset h

theorem upholds_killNode_stops (hkills : ∀ now call, call.Kills → rule now call) (container : String) :
    (killNode caller container).Upholds rule (fun _ now => container ∈ stops now) past := by
  refine upholds_log_bind (hkills _ _ trivial) fun _ _ => ?_
  refine upholds_ask_bind.2 ⟨hkills _ _ trivial, fun reply => ?_⟩
  split
  · exact List.mem_cons_self
  · exact ⟨hkills _ _ trivial, fun _ => List.mem_cons_self⟩
  · exact List.mem_cons_self

/-- What is told of containers that were created, while others are read about or stopped. -/
theorem steady_made (hkills : ∀ now call, call.Kills → rule now call) (containers : List String) :
    Program.Steady Call.Kills rule fun now => made now = containers := by
  refine ⟨fun hkind _ => hkills _ _ hkind, fun {now event} hkind hnow => ?_⟩
  obtain ⟨call, reply⟩ := event
  cases call <;> first | exact hnow | exact hkind.elim

theorem steady_stops (hkills : ∀ now call, call.Kills → rule now call) (containers : List String) :
    Program.Steady Call.Reads rule fun now => stops now = containers := by
  refine ⟨fun hkind _ => hkills _ _ hkind.kills, fun {now event} hkind hnow => ?_⟩
  obtain ⟨call, reply⟩ := event
  cases call <;> first | exact hnow | exact hkind.elim

/-- A kill stops all that was made, or it is given up after somebody took the cluster over. -/
theorem upholds_kill_found (hkills : ∀ now call, call.Kills → rule now call)
    (huser : caller.user ≠ "") (taken : Value → Prop) (hkept : KeptLease id past)
    (hnone : stops past = []) (hmade : made past ≠ []) :
    (m.kill caller id).Upholds rule (fun _ now => Truthful caller.user id taken now →
      (∀ container ∈ made past, container ∈ stops now) ∨ GivenUp id taken now) past := by
  have hreads : ∀ now call, Call.Reads call → rule now call := fun _ _ hkind => hkills _ _ hkind.kills
  refine upholds_log_bind (hkills _ _ trivial) fun before hbefore => ?_
  have hkept : KeptLease id before := hbefore ▸ hkept.mono (List.suffix_cons _ _)
  have hnone : stops before = [] := hbefore ▸ hnone
  have hsame : made before = made past := hbefore ▸ rfl
  rw [← hsame] at hmade ⊢
  rw [Program.upholds_bind]
  have hfound := upholds_cluster_told (m := m) hreads huser taken hkept hnone hmade
  have hquiet := (m.asks_cluster caller id).upholds (steady_stops hkills []) hnone
  refine (hfound.and hquiet).imp ?_
  rintro (fault | cluster) now - ⟨hfound, hquiet⟩
  · intro h
    obtain ⟨_, hok, -⟩ := hfound h
    cases hok
  rw [Program.Then]
  split
  · rw [Program.upholds_bind]
    have hstops : (fanOut s!"kill-{id}" Node.shown (fun node => killNode caller node.containerId)
        cluster.nodes).Upholds rule
        (fun _ now => ∀ node ∈ cluster.nodes, node.containerId ∈ stops now) now :=
      upholds_fanOut_marks (fun _ _ hkind => hkills _ _ hkind.kills)
        (fun node _ past => upholds_killNode_stops hkills node.containerId)
        fun _ _ _ hsuffix hmark => stops_subset hsuffix hmark
    refine hstops.imp ?_
    rintro o last hlast hstopped
    suffices hall : Truthful caller.user id taken last →
        ∀ container ∈ made before, container ∈ stops last by
      cases o with
      | error fault => exact fun h => .inl (hall h)
      | ok fault? => cases fault? <;> exact fun h => .inl (hall h)
    intro h container hcontainer
    obtain ⟨_, ⟨⟩, hfound⟩ := hfound (h.of_suffix hlast)
    obtain ⟨node, hnode, rfl⟩ := hfound.complete container hcontainer
    exact hstopped node hnode
  · next hmay =>
    intro h
    obtain ⟨_, ⟨⟩, hfound⟩ := hfound h
    -- The kill is refused, so the lease that was read is not the caller's.
    obtain ⟨lease, ⟨hmem, huser | htaken⟩, howner⟩ := hfound.owned
    · rw [mayKill, howner, huser] at hmay
      simp [Value.text?] at hmay
    · exact .inr ⟨hquiet, lease, hmem, htaken⟩

/-- The kill of a new cluster stops all that was created, unless someone else has taken it over. -/
theorem upholds_kill_told (hkills : ∀ now call, call.Kills → rule now call) (huser : caller.user ≠ "")
    (taken : Value → Prop) (hkept : KeptLease id past) (hnone : stops past = []) :
    (m.kill caller id).Upholds rule (fun _ now => Truthful caller.user id taken now →
      Undone id taken now) past := by
  have hunmade := (m.asks_kill caller id).upholds (steady_made hkills (made past)) rfl
  by_cases hmade : made past = []
  · refine hunmade.imp fun _ now _ hnow _ => .inl fun container hcontainer => ?_
    rw [hnow, hmade] at hcontainer
    cases hcontainer
  · refine (hunmade.and (upholds_kill_found hkills huser taken hkept hnone hmade)).imp ?_
    intro _ now _ ⟨hnow, hundone⟩ h
    rw [Undone, hnow]
    exact hundone h

/-- What goes wrong with the kill does not matter. -/
theorem upholds_cleanUp_told (hkills : ∀ now call, call.Kills → rule now call)
    (huser : caller.user ≠ "") (taken : Value → Prop) (hkept : KeptLease id past)
    (hnone : stops past = []) :
    (m.cleanUp caller id).Upholds rule (fun _ now => Truthful caller.user id taken now →
      Undone id taken now) past := by
  rw [cleanUp, Program.upholds_bind, Program.upholds_attempt]
  refine (upholds_kill_told hkills huser taken hkept hnone).imp ?_
  intro outcome now _ hundone
  -- The outcome is logged at most.
  have hlogged (entry : Log.Entry) (h : Truthful caller.user id taken (⟨.log entry, ()⟩ :: now)) :
      Undone id taken (⟨.log entry, ()⟩ :: now) := by
    refine (hundone h.2).imp (fun hall => hall) ?_
    rintro ⟨hquiet, lease, hmem, htaken⟩
    exact ⟨hquiet, lease, List.mem_cons_of_mem _ hmem, htaken⟩
  rw [Program.Then]
  split
  · exact hundone
  · exact ⟨hkills _ _ trivial, fun _ => hlogged _⟩
  · exact ⟨hkills _ _ trivial, fun _ => hlogged _⟩

/-! ### Allocating -/

/-- What is known while the nodes of a cluster are created. -/
structure Building (id : String) (now : List (Event interface)) : Prop where
  drawn : first drawn? now = some id
  kept : KeptLease id now
  quiet : stops now = []

/-- As long as nothing is stopped, building goes on. -/
theorem Building.cons {event : Event interface} (h : Building id now)
    (hquiet : stops (event :: now) = []) : Building id (event :: now) :=
  ⟨first_of_suffix (List.suffix_cons _ _) h.drawn, h.kept.mono (List.suffix_cons _ _), hquiet⟩

/-- It goes on through all that an allocation asks before it fails. -/
theorem building_steady {kind : Call → Prop} (user : String)
    (hallowed : ∀ now call, kind call → Allots user now call)
    (hspares : ∀ container, ¬kind (.stop container)) :
    Program.Steady kind (Allots user) (Building id) := by
  refine ⟨fun hkind _ => hallowed _ _ hkind, fun {now event} hkind hnow => hnow.cons ?_⟩
  obtain ⟨call, reply⟩ := event
  cases call with
  | stop container => exact absurd hkind (hspares container)
  | _ => exact hnow.quiet

/-- A later time is the sum, if there is one. -/
theorem laterBy_eq_ok {now expiry : Moment} {length : Duration} (h : laterBy now length = .ok expiry) :
    now.add? length = some expiry := by
  rw [laterBy] at h
  cases hadd : now.add? length with
  | none =>
    rw [hadd] at h
    cases h
  | some later =>
    rw [hadd] at h
    rw [Except.ok.inj h]

/-- An allocation that fails has created nothing, or it has undone what it created, unless someone
else has taken its cluster over. -/
theorem upholds_allocate_rollback (m : Manager) (caller : Caller) (huser : caller.user ≠ "")
    (wanted : ClusterDemand) (taken : Value → Prop) :
    (m.allocate caller wanted).Upholds (Allots caller.user) (fun outcome now =>
      ∀ fault, outcome = .error fault → made now = [] ∨ ∃ id, first drawn? now = some id ∧
        (Truthful caller.user id taken now → Undone id taken now)) [] := by
  refine upholds_log_bind trivial fun before hbefore => ?_
  have hundrawn : first drawn? before = none := hbefore ▸ first_cons rfl _
  have hempty : made before = [] ∧ stops before = [] := hbefore ▸ ⟨rfl, rfl⟩
  rw [Program.upholds_bind, Program.upholds_ofExcept]
  cases wanted.checked m.limits with
  | error fault => exact fun _ _ => .inl hempty.1
  | ok nodes => ?_
  refine upholds_ask_bind.2 ⟨hundrawn, fun fresh => ?_⟩
  generalize hid : String.ofList (fresh.toList.take idLength) = id
  -- From here on the id is known, and it is the one that the rule speaks about.
  have hdrawn : first drawn? (⟨.freshId, fresh⟩ :: before) = some id :=
    (first_cons hundrawn _).trans (congrArg some hid)
  refine upholds_ask_bind.2 ⟨trivial, fun clock => ?_⟩
  rw [Program.upholds_bind, Program.upholds_ofExcept]
  cases m.config.defaultLease with
  | error fault => exact fun _ _ => .inl hempty.1
  | ok length => ?_
  rw [Program.Then, Program.upholds_bind, Program.upholds_ofExcept]
  cases hexpiry : laterBy clock length with
  | error fault => exact fun _ _ => .inl hempty.1
  | ok expiry => ?_
  have hexpects : Expects length (⟨.now, clock⟩ :: ⟨.freshId, fresh⟩ :: before) expiry :=
    ⟨clock, List.mem_cons_self, laterBy_eq_ok hexpiry⟩
  have hdrawn : first drawn? (⟨.now, clock⟩ :: ⟨.freshId, fresh⟩ :: before) = some id :=
    first_of_suffix (List.suffix_cons _ _) hdrawn
  refine upholds_ask_bind.2 ⟨⟨hdrawn, length, expiry, hexpects, rfl⟩, fun kept => ?_⟩
  cases kept with
  | error fault => exact fun _ _ => .inl hempty.1
  | ok _ => ?_
  -- The lease is there, and from here on nodes are created.
  have hbuilding : Building id (⟨.keepLease id (Lease.ofUser caller.user expiry), .ok ()⟩ ::
      ⟨.now, clock⟩ :: ⟨.freshId, fresh⟩ :: before) :=
    ⟨first_of_suffix (List.suffix_cons _ _) hdrawn, ⟨_, List.mem_cons_self⟩, hempty.2⟩
  have hroutine : Program.Steady Call.IsRoutine (Allots caller.user) (Building id) :=
    building_steady _ (fun _ call hkind => by cases call <;> trivial) fun _ hkind => hkind
  have hwork : ∀ node ∈ nodes, ∀ past, Building id past →
      (do let _ ← m.allocateNode caller id expiry node : ManagerM Unit).Upholds (Allots caller.user)
        (fun _ now => Building id now ∧ True) past := by
    intro node _ past hpast
    have hasks := (m.asks_allocateNode caller id expiry node).bind fun _ => Program.asks_pure _ ()
    have hsteady : Program.Steady (Call.Allocates (nodeLabels caller id node)) (Allots caller.user)
        (Building id) :=
      building_steady _ (fun _ call hkind => by cases call <;> trivial) fun _ hkind => hkind
    exact (hasks.upholds hsteady hpast).imp fun _ _ _ hnow => ⟨hnow, trivial⟩
  show Program.Upholds _ _ (fanOut _ _ _ _ >>= _) _
  rw [Program.upholds_bind]
  refine (upholds_fanOut (fun _ _ => True) hroutine hwork (fun _ _ _ _ _ => trivial) hbuilding).imp ?_
  rintro _ built - ⟨hbuilt, fault?, rfl, -⟩
  rw [Program.Then]
  cases fault? with
  | none => exact ⟨trivial, fun _ _ h => by cases h⟩
  | some fault =>
    rw [Program.upholds_bind]
    have hkills (now : List (Event interface)) (call : Call) (hkind : call.Kills) :
        Allots caller.user now call := by
      cases call <;> trivial
    refine (upholds_cleanUp_told (m := m) hkills huser taken hbuilt.kept hbuilt.quiet).imp ?_
    rintro (failed | _) now hnow hundone
    all_goals exact fun _ _ => .inr ⟨id, first_of_suffix hnow hbuilt.drawn, hundone⟩

end ClusterLease.Manager
