import ClusterLease.Proofs.Cluster.Groups
import ClusterLease.Proofs.Manager.Operation

/-!
What a caller is shown, whatever the surroundings answer.

`lastListing` and `leaseRead` say what the events so far tell about containers and leases. Every
cluster that is shown is a group of the latest listing that the caller sees, with the lease that was
read of it since then (`upholds_clusters`).
-/

namespace ClusterLease.Manager

open Container (Info)

/-! ### What events tell -/

/-- The answer of the runtime, if the event is a listing. -/
def listing? : Event interface → Option (Except Fault (List Info))
  | ⟨.list, reply⟩ => some reply
  | _ => none

/-- The latest listing. Events are given with the latest one first. -/
def lastListing (past : List (Event interface)) : Option (Except Fault (List Info)) :=
  past.findSome? listing?

/-- The first thing that is told by single events. -/
def first {β : Type} (told : Event interface → Option β) (past : List (Event interface)) :
    Option β :=
  past.reverse.findSome? told

/-- What was read of a lease since the latest listing, if no lease was changed since. -/
def leaseRead (id : String) : List (Event interface) → Option (Except Fault Lease)
  | [] => none
  | ⟨.list, _⟩ :: _ => none
  | ⟨.keepLease .., _⟩ :: _ => none
  | ⟨.changeLease .., _⟩ :: _ => none
  | ⟨.fetchLease other, reply⟩ :: earlier => if other = id then some reply else leaseRead id earlier
  | _ :: earlier => leaseRead id earlier

section First

variable {β : Type} {told : Event interface → Option β} {past now : List (Event interface)}

/-- What was told first is told first later as well. -/
theorem first_of_suffix {value : β} (hsuffix : past <:+ now) (h : first told past = some value) :
    first told now = some value := by
  obtain ⟨new, rfl⟩ := hsuffix
  rw [first, List.reverse_append, List.findSome?_append]
  -- What comes later stands behind it once the events are reversed.
  simp [show past.reverse.findSome? told = some value from h]

/-- Where nothing was told so far, the next event is the first one to tell something. -/
theorem first_cons (h : first told past = none) (event : Event interface) :
    first told (event :: past) = told event := by
  rw [first, List.reverse_cons, List.findSome?_append]
  simp [show past.reverse.findSome? told = none from h]

/-- What tells nothing changes nothing about the first thing that was told. -/
theorem first_cons_of_none {event : Event interface} (h : told event = none) :
    first told (event :: past) = first told past := by
  rw [first, first, List.reverse_cons, List.findSome?_append]
  simp [h]

end First

/-- The lease that is read last is the one that counts. -/
@[simp] theorem leaseRead_fetch (id : String) (reply : Except Fault Lease)
    (past : List (Event interface)) :
    leaseRead id (⟨.fetchLease id, reply⟩ :: past) = some reply := by
  simp [leaseRead]

/-- Those of other clusters do not. -/
theorem leaseRead_fetch_of_ne {id other : String} (h : other ≠ id) (reply : Except Fault Lease)
    (past : List (Event interface)) :
    leaseRead id (⟨.fetchLease other, reply⟩ :: past) = leaseRead id past := by
  simp [leaseRead, h]

/-! ### What is shown -/

variable {rule : List (Event interface) → Call → Prop} {m : Manager} {caller : Caller}
  {past : List (Event interface)}

/-- Reading a lease leaves the listing and what was read of other leases as they are. -/
theorem upholds_leaseOf (hrule : ∀ now call, call.Reads → rule now call) (id : String) :
    (leaseOf id).Upholds rule (fun o now =>
      lastListing now = lastListing past ∧
        (∀ other, id ≠ other → leaseRead other now = leaseRead other past) ∧
        ∀ lease, o = .ok (some lease) → leaseRead id now = some (.ok lease)) past := by
  refine upholds_ask_bind.2 ⟨hrule _ _ trivial, fun reply => ?_⟩
  -- The warnings that may follow are no listings and read nothing.
  have hother (other : String) (hne : id ≠ other) :
      leaseRead other (⟨.fetchLease id, reply⟩ :: past) = leaseRead other past :=
      leaseRead_fetch_of_ne hne _ _
  split
  · next lease => exact ⟨rfl, hother, fun _ h => by cases h; exact leaseRead_fetch _ _ _⟩
  · exact upholds_ask_bind.2 ⟨hrule _ _ trivial, fun _ => ⟨rfl, hother, fun _ h => by cases h⟩⟩
  · split
    · exact upholds_ask_bind.2 ⟨hrule _ _ trivial, fun _ => ⟨rfl, hother, fun _ h => by cases h⟩⟩
    · exact ⟨rfl, hother, fun _ h => by cases h⟩

/-- A group is shown with the lease that was read of it. -/
theorem upholds_describe (hrule : ∀ now call, call.Reads → rule now call)
    {groups : List Cluster.Group} (hnodup : (groups.map (·.id)).Nodup) :
    (m.describe groups).Upholds rule (fun o now =>
      lastListing now = lastListing past ∧
        (∀ id, id ∉ groups.map (·.id) → leaseRead id now = leaseRead id past) ∧
        ∀ clusters, o = .ok clusters → ∀ cluster ∈ clusters, ∃ group ∈ groups, ∃ lease,
          cluster = Cluster.ofGroup m.config.networkName group lease ∧
            ∀ l, lease = some l → leaseRead group.id now = some (.ok l)) past := by
  induction groups generalizing past with
  | nil =>
    refine ⟨rfl, fun _ _ => rfl, ?_⟩
    rintro _ ⟨⟩ cluster h
    cases h
  | cons group rest ih =>
    rw [List.map_cons, List.nodup_cons] at hnodup
    rw [describe, Program.upholds_bind]
    refine (upholds_leaseOf hrule group.id).imp ?_
    rintro (fault | lease) now - ⟨hlisting, hother, hlease⟩
    · refine ⟨hlisting, fun id hid => hother id ?_, fun _ h => by cases h⟩
      exact fun heq => hid (by simp [heq])
    rw [Program.Then, Program.upholds_bind]
    -- Ids are distinct, so reading other leases leaves what was read of this one.
    refine (ih hnodup.2).imp ?_
    rintro (fault | others) last - ⟨hlisting', hother', hclusters⟩
    all_goals
      have hlast (id : String) (hid : id ∉ (group :: rest).map (·.id)) :
          leaseRead id last = leaseRead id past := by
        rw [List.map_cons, List.mem_cons, not_or] at hid
        exact (hother' id hid.2).trans (hother id (Ne.symm hid.1))
    · exact ⟨hlisting'.trans hlisting, hlast, fun _ h => by cases h⟩
    refine ⟨hlisting'.trans hlisting, hlast, ?_⟩
    rintro _ ⟨⟩ cluster hcluster
    rcases List.mem_cons.1 hcluster with rfl | hcluster
    · refine ⟨group, List.mem_cons_self, lease, rfl, ?_⟩
      rintro l rfl
      exact (hother' group.id hnodup.1).trans (hlease l rfl)
    · -- The other clusters are those that the induction speaks about.
      obtain ⟨g, hg, found⟩ := hclusters others rfl cluster hcluster
      exact ⟨g, List.mem_cons_of_mem _ hg, found⟩

/-- A cluster is a group of a listing that the caller sees, with the lease that was read of it. -/
def Shown (m : Manager) (caller : Caller) (listing : List Info) (now : List (Event interface))
    (cluster : Cluster) : Prop :=
  ∃ lease,
    cluster = Cluster.ofGroup m.config.networkName (Cluster.groupOf listing cluster.id) lease ∧
    cluster.id ∈ Cluster.ids listing ∧ sees caller (Cluster.groupOf listing cluster.id) = true ∧
    ∀ l, lease = some l → leaseRead cluster.id now = some (.ok l)

/-- All clusters that a caller is shown come from the latest listing, which may be the first one. -/
theorem upholds_clusters (hrule : ∀ now call, call.Reads → rule now call) :
    (m.clusters caller).Upholds rule (fun o now => ∀ clusters, o = .ok clusters →
      ∃ listing, lastListing now = some (.ok listing) ∧
        (first listing? past = none → first listing? now = some (.ok listing)) ∧
        ∀ cluster ∈ clusters, Shown m caller listing now cluster) past := by
  rw [clusters, Program.upholds_bind]
  refine upholds_ask_bind.2 ⟨hrule _ _ trivial, fun reply => ?_⟩
  cases reply with
  | error fault =>
    intro clusters hclusters
    cases hclusters
  | ok listing =>
    show ((m.describe ((Cluster.groups listing).filter (sees caller))).Upholds rule _ _)
    -- Groups have distinct ids, and so have those of them that the caller sees.
    have hnodup : (((Cluster.groups listing).filter (sees caller)).map (·.id)).Nodup := by
      refine (List.filter_sublist.map _).nodup ?_
      rw [Cluster.groups_eq_map, List.map_map]
      simpa [Function.comp_def] using Cluster.nodup_ids listing
    refine (upholds_describe hrule hnodup).imp ?_
    rintro o now hsuffix ⟨hlisting, -, hclusters⟩ clusters rfl
    refine ⟨listing, hlisting.trans rfl, fun h => first_of_suffix hsuffix (first_cons h _), ?_⟩
    intro cluster hcluster
    obtain ⟨group, hgroup, lease, rfl, hlease⟩ := hclusters clusters rfl cluster hcluster
    rw [List.mem_filter, Cluster.groups_eq_map, List.mem_map] at hgroup
    obtain ⟨⟨id, hid, rfl⟩, hsees⟩ := hgroup
    exact ⟨lease, rfl, hid, hsees, hlease⟩

/-- A cluster that is found is one of those that are shown. -/
theorem upholds_cluster (hrule : ∀ now call, call.Reads → rule now call) (id : String) :
    (m.cluster caller id).Upholds rule (fun o now => ∀ cluster, o = .ok cluster → cluster.id = id ∧
      ∃ listing, lastListing now = some (.ok listing) ∧
        Shown m caller listing now cluster) past := by
  rw [cluster, Program.upholds_bind]
  refine (upholds_clusters hrule).imp ?_
  rintro (fault | clusters) now - h
  · intro cluster hcluster
    cases hcluster
  obtain ⟨listing, hlisting, -, hshown⟩ := h clusters rfl
  rw [Program.Then]
  -- The cluster is one of those told, so whatever holds of them holds of it.
  cases hfind : clusters.find? (fun cluster => cluster.id == id) with
  | none =>
    rw [Program.upholds_fail]
    intro cluster hcluster
    cases hcluster
  | some cluster =>
    rw [Program.upholds_pure]
    rintro _ ⟨⟩
    have hid : cluster.id = id := by simpa using List.find?_some hfind
    exact ⟨hid, listing, hlisting, hshown cluster (List.mem_of_find?_eq_some hfind)⟩

end ClusterLease.Manager
