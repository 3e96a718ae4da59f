import ClusterLease.Proofs.World.History

/-!
Leases and their history.

In a run that starts without leases, the lease of a cluster is what was granted for it: it belongs
to whoever refreshed it last, or to whoever allocated it, and it ends when the latest of its grants
ends. So no lease is ever lost or cut short, and a refresh that fails changes nothing
(`leases_of_history`). Clocks may go backwards in such a run, as long as they tell universal time
and a new lease has an end.
-/

namespace ClusterLease

namespace Moment

theorem ofClock?_offset {clock : Int} {offset : Option Offset} {m : Moment}
    (h : ofClock? clock offset = some m) :
    m.offset = offset := by
  rw [ofClock?, Option.bind_eq_bind, Option.bind_eq_some_iff] at h
  obtain ⟨date, -, h⟩ := h
  -- The offset is passed on as it is, whatever comes of the date.
  dsimp only at h
  split at h
  · cases h
    rfl
  · cases h

theorem add?_offset {m later : Moment} {d : Duration} (h : m.add? d = some later) :
    later.offset = m.offset :=
  ofClock?_offset h

theorem toUtc?_offset {m reading : Moment} (h : m.toUtc? = some reading) :
    reading.offset = some Offset.utc := by
  obtain ⟨instant, -, h⟩ := Option.bind_eq_some_iff.1 h
  exact ofClock?_offset h

theorem later?_of_utc {a b : Moment} (ha : a.offset = some Offset.utc)
    (hb : b.offset = some Offset.utc) :
    a.later? b = some (decide (b.clock < a.clock)) := by
  have hinstant (m : Moment) (h : m.offset = some Offset.utc) : m.instant? = some m.clock := by
    rw [instant?, h]
    simp [Offset.utc]
  rw [later?, hinstant a ha, hinstant b hb]

end Moment

namespace World

variable {m : Manager} {w : World} {turn : Turn} {leases : Leases} {grants : List Grant}
    {id : String} {lease : Lease}

/-- The clock of a turn tells universal time, and a lease that begins then has an end. -/
def Timely (m : Manager) (turn : Turn) : Prop :=
  ∃ reading length expiry, turn.now.toUtc? = some reading ∧ m.config.defaultLease = .ok length ∧
    reading.add? length = some expiry

/-- The user of the latest refresh of a cluster, or of its allocation if it was never refreshed. -/
def ownerIn (grants : List Grant) (id : String) : Option String :=
  let refreshes :=
    grants.filter fun grant => decide (grant.id = id) && decide (grant.deed = .refreshed)
  (refreshes.getLast?.or (grants.find? fun grant => grant.id = id)).map (·.user)

/-- A lease is what was granted for its cluster: its owner, and the latest of all ends. -/
structure Recorded (grants : List Grant) (id : String) (lease : Lease) : Prop where
  owner : ∃ user, ownerIn grants id = some user ∧ lease.owner = .text user
  expiry : ∃ grant ∈ grants, grant.id = id ∧ lease.expiry = .moment grant.expiry ∧
    ∀ other ∈ grants, other.id = id → other.expiry.later? grant.expiry = some false

/-- There is a lease for every cluster for which one was granted, and for no other. -/
def Faithful (leases : Leases) (grants : List Grant) : Prop :=
  ∀ id, match leases.get? id with
    | some lease => Recorded grants id lease
    | none => ∀ grant ∈ grants, grant.id ≠ id

/-! ### One more grant -/

section Grant

variable {grant : Grant}

/-- A grant to another cluster does not change the owner. -/
theorem ownerIn_append_of_ne (h : grant.id ≠ id) :
    ownerIn (grants ++ [grant]) id = ownerIn grants id := by
  simp [ownerIn, h, List.filter_append]

/-- A refresh makes its caller the owner. -/
theorem ownerIn_append_refreshed (grants : List Grant) (hdeed : grant.deed = .refreshed) :
    ownerIn (grants ++ [grant]) grant.id = some grant.user := by
  simp [ownerIn, hdeed, List.filter_append]

/-- The first grant for a cluster makes its owner, however it came about. -/
theorem ownerIn_append_first (h : ∀ other ∈ grants, other.id ≠ grant.id) :
    ownerIn (grants ++ [grant]) grant.id = some grant.user := by
  have hnone : grants.find? (fun other => decide (other.id = grant.id)) = none := by
    simpa [List.find?_eq_none] using h
  have hempty : grants.filter
      (fun other => decide (other.id = grant.id) && decide (other.deed = .refreshed)) = [] := by
    rw [List.filter_eq_nil_iff]
    intro other hother
    simp [h other hother]
  cases hdeed : grant.deed with
  | refreshed => exact ownerIn_append_refreshed grants hdeed
  | allocated => simp [ownerIn, List.filter_append, hempty, List.find?_append, hnone, hdeed]

/-- A grant to another cluster does not change what is recorded. -/
theorem Recorded.append_of_ne (h : Recorded grants id lease) (hne : grant.id ≠ id) :
    Recorded (grants ++ [grant]) id lease := by
  obtain ⟨latest, hmem, hid, hexpiry, hmax⟩ := h.expiry
  have howner : ∃ user, ownerIn (grants ++ [grant]) id = some user ∧ lease.owner = .text user := by
    rw [ownerIn_append_of_ne hne]
    exact h.owner
  refine ⟨howner, latest, List.mem_append_left _ hmem, hid, hexpiry, fun other hother heq => ?_⟩
  rcases List.mem_append.1 hother with hother | hother
  · exact hmax other hother heq
  · rw [List.mem_singleton.1 hother] at heq
    exact absurd heq hne

/-- Writing what a grant makes of the record keeps all records faithful. -/
theorem Faithful.put (h : Faithful leases grants)
    (hrecorded : Recorded (grants ++ [grant]) grant.id lease) :
    Faithful (leases.put grant.id lease) (grants ++ [grant]) := by
  intro id
  rw [Table.get?_put]
  -- Of all ids only the one of the grant has a new record, and the grant is for no other.
  by_cases hid : id = grant.id
  · rw [if_pos hid, hid]
    exact hrecorded
  · rw [if_neg hid]
    have hold := h id
    cases hlease : leases.get? id with
    | some old =>
      rw [hlease] at hold
      exact hold.append_of_ne (Ne.symm hid)
    | none =>
      rw [hlease] at hold
      intro other hother
      rcases List.mem_append.1 hother with hother | hother
      · exact hold other hother
      · rw [List.mem_singleton.1 hother]
        exact Ne.symm hid

def Universal (grants : List Grant) : Prop :=
  ∀ grant ∈ grants, grant.expiry.offset = some Offset.utc

theorem recorded_first (hnone : ∀ other ∈ grants, other.id ≠ grant.id)
    (hutc : grant.expiry.offset = some Offset.utc) :
    Recorded (grants ++ [grant]) grant.id (Lease.ofUser grant.user grant.expiry) := by
  refine ⟨⟨_, ownerIn_append_first hnone, rfl⟩, grant, by simp, rfl, rfl,
    fun other hother hid => ?_⟩
  rcases List.mem_append.1 hother with hother | hother
  · exact absurd hid (hnone other hother)
  · rw [List.mem_singleton.1 hother, Moment.later?_of_utc hutc hutc]
    simp

/-- Old and new ends can be compared, and the later one stays. -/
theorem recorded_extended (h : Recorded grants grant.id lease) (huniversal : Universal grants)
    (hdeed : grant.deed = .refreshed) (hutc : grant.expiry.offset = some Offset.utc) :
    ∃ renewed, lease.extended grant.user grant.expiry = .ok renewed ∧
      Recorded (grants ++ [grant]) grant.id renewed := by
  obtain ⟨latest, hmem, hid, hexpiry, hmax⟩ := h.expiry
  have hlatest := huniversal latest hmem
  have hlater : Lease.isLater grant.expiry lease.expiry =
      .ok (decide (latest.expiry.clock < grant.expiry.clock)) := by
    rw [hexpiry, Lease.isLater, Moment.later?_of_utc hutc hlatest]
    rfl
  -- All ends tell universal time, so their order is the order of their clocks.
  have hearlier (other : Grant) (hother : other ∈ grants) (hid : other.id = grant.id) :
      other.expiry.offset = some Offset.utc ∧ other.expiry.clock ≤ latest.expiry.clock := by
    have hutc' := huniversal other hother
    refine ⟨hutc', ?_⟩
    simpa [Moment.later?_of_utc hutc' hlatest] using hmax other hother hid
  refine ⟨_, by rw [Lease.extended, hlater]; rfl,
    ⟨_, ownerIn_append_refreshed grants hdeed, rfl⟩, ?_⟩
  by_cases hlt : latest.expiry.clock < grant.expiry.clock
  · -- The new end is later than the latest one so far, and than all others.
    refine ⟨grant, by simp, rfl, by simp [hlt], fun other hother hid => ?_⟩
    rcases List.mem_append.1 hother with hother | hother
    · obtain ⟨hutc', hle⟩ := hearlier other hother hid
      rw [Moment.later?_of_utc hutc' hutc]
      simp only [Option.some.injEq, decide_eq_false_iff_not]
      omega
    · rw [List.mem_singleton.1 hother, Moment.later?_of_utc hutc hutc]
      simp
  · -- The latest end so far is not before the new one, and stays.
    refine ⟨latest, List.mem_append_left _ hmem, hid, by simp [hlt, hexpiry],
      fun other hother hid => ?_⟩
    rcases List.mem_append.1 hother with hother | hother
    · exact hmax other hother hid
    · rw [List.mem_singleton.1 hother, Moment.later?_of_utc hutc hlatest]
      simp [hlt]

end Grant

/-! ### Turns -/

/-- What a run keeps up: leases are what was granted, for clusters that are known. -/
structure Kept (known : String → Prop) (w : World) (leases : Leases) (grants : List Grant) :
    Prop where
  store : w.store = .memory leases
  faithful : Faithful leases grants
  universal : Universal grants
  granted : ∀ grant ∈ grants, known grant.id
  carried : ∀ labels ∈ w.labels, ∀ id, clusterOf? labels = some id → known id

theorem Kept.mono {known known' : String → Prop} (h : Kept known w leases grants)
    (himp : ∀ id, known id → known' id) :
    Kept known' w leases grants :=
  ⟨h.store, h.faithful, h.universal, fun grant hgrant => himp _ (h.granted grant hgrant),
    fun labels hmem id hid => himp id (h.carried labels hmem id hid)⟩

theorem Timely.clock (h : Timely m turn) (w : World) :
    (w.begin turn).clock.offset = some Offset.utc ∧
      ∃ expiry, (w.begin turn).leaseEnd? m = some expiry := by
  obtain ⟨reading, length, expiry, hreading, hlength, hexpiry⟩ := h
  have hclock : (w.begin turn).clock = reading := by
    rw [World.clock, show (w.begin turn).now.toUtc? = some reading from hreading, Option.getD_some]
  refine ⟨hclock ▸ Moment.toUtc?_offset hreading, expiry, ?_⟩
  rw [leaseEnd?, hlength, hclock]
  exact hexpiry

theorem leaseEnd?_offset {expiry : Moment} (h : w.leaseEnd? m = some expiry) :
    expiry.offset = w.clock.offset := by
  obtain ⟨length, -, h⟩ := Option.bind_eq_some_iff.1 h
  exact Moment.add?_offset h

/-- A lease that is refreshed is the latest grant of its cluster. -/
theorem Faithful.renewed (h : Faithful leases grants) (huniversal : Universal grants)
    (grant : Grant) (hdeed : grant.deed = .refreshed)
    (hutc : grant.expiry.offset = some Offset.utc) :
    ∃ renewed, Lease.renewed (leases.get? grant.id) grant.user grant.expiry = .ok renewed ∧
      Recorded (grants ++ [grant]) grant.id renewed := by
  have hold := h grant.id
  cases hlease : leases.get? grant.id with
  | some old =>
    rw [hlease] at hold
    exact recorded_extended hold huniversal hdeed hutc
  | none =>
    rw [hlease] at hold
    exact ⟨_, rfl, recorded_first hold hutc⟩

theorem forall_append_singleton {p : Grant → Prop} {grant : Grant} (h : ∀ other ∈ grants, p other)
    (hgrant : p grant) : ∀ other ∈ grants ++ [grant], p other := by
  intro other hother
  rcases List.mem_append.1 hother with hother | hother
  · exact h other hother
  · rw [List.mem_singleton.1 hother]
    exact hgrant

section Kept

variable {known known' : String → Prop} {w' : World}

/-- What was known stays known, and so do the clusters of new containers. -/
theorem Kept.carried_of_subperm (h : Kept known w leases grants) (himp : ∀ id, known id → known' id)
    {gained : List Labels} (hlabels : w'.labels.Subperm (w.labels ++ gained))
    (hgained : ∀ labels ∈ gained, ∀ id, clusterOf? labels = some id → known' id) :
    ∀ labels ∈ w'.labels, ∀ id, clusterOf? labels = some id → known' id := by
  intro labels hmem id hid
  rcases List.mem_append.1 (hlabels.subset hmem) with hmem | hmem
  · exact himp id (h.carried labels hmem id hid)
  · exact hgained labels hmem id hid

/-- One more grant for a cluster that is known by now, and its lease with it. -/
theorem Kept.put (h : Kept known w leases grants) (himp : ∀ id, known id → known' id)
    {grant : Grant} (hrecorded : Recorded (grants ++ [grant]) grant.id lease)
    (hutc : grant.expiry.offset = some Offset.utc) (hknown : known' grant.id)
    (hstore : w'.store = .memory (leases.put grant.id lease))
    (hcarried : ∀ labels ∈ w'.labels, ∀ id, clusterOf? labels = some id → known' id) :
    Kept known' w' (leases.put grant.id lease) (grants ++ [grant]) where
  store := hstore
  faithful := h.faithful.put hrecorded
  universal := forall_append_singleton h.universal hutc
  granted := forall_append_singleton (fun other hother => himp _ (h.granted other hother)) hknown
  carried := hcarried

/-- An allocation draws an id for which nothing was granted, and grants the first lease for it. -/
theorem Kept.allocated (h : Kept known w leases grants) (htimely : Timely m turn)
    (hnew : ∀ id ∈ (drawnBy m w turn).toList, ¬known id) {wanted : ClusterDemand}
    {nodes : List NodeDemand} {expiry : Moment} (hoperation : turn.operation = .allocate wanted)
    (hchecked : wanted.checked m.limits = .ok nodes)
    (hend : (w.begin turn).leaseEnd? m = some expiry) (hstore : w'.store =
      .memory (leases.put (w.begin turn).nextId (Lease.ofUser turn.caller.user expiry)))
    (hlabels : w'.labels.Subperm
      (w.labels ++ nodes.map (Manager.nodeLabels turn.caller (w.begin turn).nextId))) :
    Kept (fun id => known id ∨ id ∈ (drawnBy m w turn).toList) w'
      (leases.put (w.begin turn).nextId (Lease.ofUser turn.caller.user expiry))
      (grants ++ [⟨.allocated, (w.begin turn).nextId, turn.caller.user, expiry⟩]) := by
  have hdrawn : (w.begin turn).nextId ∈ (drawnBy m w turn).toList := by
    rw [drawnBy, hoperation]
    dsimp only
    rw [hchecked]
    exact List.mem_singleton_self _
  -- Grants are for known clusters only, and the id that is drawn is not known.
  have hnone : ∀ other ∈ grants, other.id ≠ (w.begin turn).nextId := by
    intro other hother heq
    exact hnew _ hdrawn (heq ▸ h.granted other hother)
  have hutc : expiry.offset = some Offset.utc := (leaseEnd?_offset hend).trans (htimely.clock w).1
  let grant : Grant := ⟨.allocated, (w.begin turn).nextId, turn.caller.user, expiry⟩
  have hrecorded : Recorded (grants ++ [grant]) grant.id (Lease.ofUser grant.user grant.expiry) :=
    recorded_first hnone hutc
  refine h.put (fun _ => .inl) hrecorded hutc (.inr hdrawn) hstore
    (h.carried_of_subperm (fun _ => .inl) hlabels ?_)
  intro labels hmem id hid
  obtain ⟨node, -, rfl⟩ := List.mem_map.1 hmem
  rw [eq_of_clusterOf?_nodeLabels hid]
  exact .inr hdrawn

/-- A refresh extends the lease of a cluster that a container names, so its id is known. -/
theorem Kept.refreshed (h : Kept known w leases grants) (htimely : Timely m turn)
    (himp : ∀ id, known id → known' id) {listing : List Container.Info} {extension : Duration}
    {expiry : Moment} (hlist : (w.begin turn).list = .ok listing)
    (hfinds : Finds turn.caller listing id)
    (hexpiry : (w.begin turn).clock.add? extension = some expiry)
    (hlease : Lease.renewed (leases.get? id) turn.caller.user expiry = .ok lease)
    (hstore : w'.store = .memory (leases.put id lease))
    (hcarried : ∀ labels ∈ w'.labels, ∀ id, clusterOf? labels = some id → known' id) :
    Kept known' w' (leases.put id lease)
      (grants ++ [⟨.refreshed, id, turn.caller.user, expiry⟩]) := by
  have hutc : expiry.offset = some Offset.utc :=
    (Moment.add?_offset hexpiry).trans (htimely.clock w).1
  let grant : Grant := ⟨.refreshed, id, turn.caller.user, expiry⟩
  obtain ⟨renewed, hrenewed, hrecorded⟩ := h.faithful.renewed h.universal grant rfl hutc
  obtain rfl : renewed = lease := Except.ok.inj (hrenewed.symm.trans hlease)
  -- A cluster that is found is carried by a container, so its id is known.
  obtain ⟨labels, hmem, hid⟩ := exists_label_of_finds (listing_of_list hlist ▸ hfinds)
  have hknown : known id := h.carried labels ((w.begin_labels turn).subset hmem) id hid
  exact h.put himp hrecorded hutc (himp id hknown) hstore hcarried

/-- One turn keeps up what a run keeps up, if the id that it draws is new. -/
theorem Kept.take (h : Kept known w leases grants) (htimely : Timely m turn)
    (hnew : ∀ id ∈ (drawnBy m w turn).toList, ¬known id) : ∃ leases',
    Kept (fun id => known id ∨ id ∈ (drawnBy m w turn).toList) (w.take m turn) leases'
      (grants ++ (World.granted m w turn).toList) := by
  obtain ⟨leases', gained, heffect, hstore, hlabels⟩ := take_effect m h.store turn
  refine ⟨leases', ?_⟩
  -- What was granted is all that the effect has to be told of the turn.
  generalize World.granted m w turn = grant? at heffect
  cases heffect with
  | nothing =>
    have hcarried := h.carried_of_subperm (fun _ hid => hid) hlabels (by simp)
    rw [Option.toList_none, List.append_nil]
    exact Kept.mono ⟨hstore, h.faithful, h.universal, h.granted, hcarried⟩ fun _ => .inl
  | allocated hoperation hchecked hend =>
    exact h.allocated htimely hnew hoperation hchecked hend hstore hlabels
  | refreshed _ hlist hfinds hexpiry hlease =>
    exact h.refreshed htimely (fun _ => .inl) hlist hfinds hexpiry hlease hstore
      (h.carried_of_subperm (fun _ => .inl) hlabels (by simp))

end Kept

/-! ### Runs -/

/-- What is kept lasts over every timely turn, whatever the turn does. -/
theorem lasts_kept (m : Manager) :
    Lasts m (Timely m) fun known w grants => ∃ leases, Kept known w leases grants where
  mono := fun himp ⟨leases, h⟩ => ⟨leases, h.mono himp⟩
  step := fun htimely hnew ⟨_, h⟩ => h.take htimely hnew

/-- A lease that was granted is still there when others were granted, and does not end earlier. -/
theorem Faithful.lasting {leases' : Leases} {others : List Grant} (h : Faithful leases grants)
    (h' : Faithful leases' (grants ++ others)) {old : Lease} (hold : leases.get? id = some old) :
    ∃ lease before after, leases'.get? id = some lease ∧ old.expiry = .moment before ∧
      lease.expiry = .moment after ∧
      before.later? after = some false := by
  have hrecorded := h id
  rw [hold] at hrecorded
  obtain ⟨grant, hgrant, hid, hexpiry, -⟩ := hrecorded.expiry
  -- The grant that gave the old expiry is still among the grants, so the latest one is no earlier.
  have hmem : grant ∈ grants ++ others := List.mem_append_left _ hgrant
  have hnow := h' id
  cases hlease : leases'.get? id with
  | none =>
    rw [hlease] at hnow
    exact absurd hid (hnow grant hmem)
  | some lease =>
    rw [hlease] at hnow
    obtain ⟨latest, -, -, hlatest, hmax⟩ := hnow.expiry
    exact ⟨lease, grant.expiry, latest.expiry, rfl, hexpiry, hlatest, hmax grant hmem hid⟩

/-- What a refresh comes to, told from the world before it. -/
def refreshOutcome (m : Manager) (w : World) (turn : Turn) (id : String) (extension : Duration) :
    Except Fault Lease :=
  ((m.refresh turn.caller id extension).run answer (w.begin turn)).1

/-- How a turn of a run treats leases. -/
structure Respects (m : Manager) (w : World) (turn : Turn) : Prop where
  /-- No lease is lost, and none ends earlier. -/
  lasting : ∀ leases leases' id old, w.store = .memory leases →
    (w.take m turn).store = .memory leases' → leases.get? id = some old →
    ∃ lease before after, leases'.get? id = some lease ∧ old.expiry = .moment before ∧
      lease.expiry = .moment after ∧ before.later? after = some false
  /-- An allocation that passes its checks grants a lease for the id that it draws. -/
  allocated : ∀ wanted nodes, turn.operation = .allocate wanted →
    wanted.checked m.limits = .ok nodes →
    ∃ expiry, (w.begin turn).leaseEnd? m = some expiry ∧
      granted m w turn = some ⟨.allocated, (w.begin turn).nextId, turn.caller.user, expiry⟩
  /-- A refresh that succeeds grants a lease for its cluster. -/
  refreshed : ∀ id extension lease, turn.operation = .refresh id extension →
    refreshOutcome m w turn id extension = .ok lease →
    ∃ expiry, (w.begin turn).clock.add? extension = some expiry ∧
      granted m w turn = some ⟨.refreshed, id, turn.caller.user, expiry⟩
  /-- A refresh fails if nothing is listed, its cluster is not found, or its new expiry is out of
  range. -/
  refused : ∀ id extension fault, turn.operation = .refresh id extension →
    (refreshOutcome m w turn id extension = .error fault ↔
      (w.begin turn).Refuses turn.caller id extension fault)
  /-- A refresh that fails changes no lease. -/
  unchanged : ∀ id extension fault, turn.operation = .refresh id extension →
    refreshOutcome m w turn id extension = .error fault → (w.take m turn).store = w.store

theorem refreshOutcome_eq (m : Manager) (hstore : w.store = .memory leases) (turn : Turn)
    (id : String) (extension : Duration) :
    refreshOutcome m w turn id extension =
      (w.begin turn).refreshed leases turn.caller id extension := by
  have hbegun : (w.begin turn).store = .memory leases := hstore
  obtain ⟨logs, hrun⟩ := run_of_quietly (run_refresh m turn.caller hbegun id extension)
  rw [refreshOutcome, hrun]

/-- A timely turn respects the records that are kept. -/
theorem Kept.respects {known : String → Prop} (h : Kept known w leases grants)
    (htimely : Timely m turn) (hnew : ∀ id ∈ (drawnBy m w turn).toList, ¬known id) :
    Respects m w turn where
  lasting before after id old hbefore hafter hold := by
    obtain ⟨leases', hkept⟩ := h.take htimely hnew
    obtain rfl : leases = before := Store.memory.inj (h.store.symm.trans hbefore)
    obtain rfl : leases' = after := Store.memory.inj (hkept.store.symm.trans hafter)
    exact h.faithful.lasting hkept.faithful hold
  allocated wanted nodes hoperation hchecked := by
    obtain ⟨-, expiry, hexpiry⟩ := htimely.clock w
    refine ⟨expiry, hexpiry, ?_⟩
    rw [World.granted, hoperation]
    dsimp only
    rw [hchecked, hexpiry]
    rfl
  refreshed id extension lease hoperation houtcome := by
    have hok := houtcome
    rw [refreshOutcome_eq m h.store] at hok
    obtain ⟨-, expiry, -, -, hexpiry, -⟩ := refreshed_eq_ok hok
    refine ⟨expiry, hexpiry, ?_⟩
    rw [refreshOutcome] at houtcome
    rw [World.granted, hoperation]
    dsimp only
    rw [houtcome, hexpiry]
    rfl
  refused id extension fault hoperation := by
    obtain ⟨hclock, -⟩ := htimely.clock w
    rw [refreshOutcome_eq m h.store]
    refine refreshed_eq_error_iff fun expiry hexpiry => ?_
    have hutc : expiry.offset = some Offset.utc := (Moment.add?_offset hexpiry).trans hclock
    obtain ⟨lease, hlease, -⟩ := h.faithful.renewed h.universal
      ⟨.refreshed, id, turn.caller.user, expiry⟩ rfl hutc
    exact ⟨lease, hlease⟩
  unchanged id extension fault hoperation houtcome := by
    rw [refreshOutcome_eq m h.store] at houtcome
    -- A failed refresh writes nothing, whatever made it fail.
    have hbegun : (w.begin turn).store = .memory leases := h.store
    obtain ⟨logs, hrun⟩ := run_of_quietly (run_refresh m turn.caller hbegun id extension)
    rw [take_of_refresh hoperation, hrun, houtcome, h.store]
    rfl

/-- The leases of a run are what was granted in it, and every turn respects them. -/
theorem leases_of_history {turns : List Turn} (hstart : w.store = .memory [])
    (htimely : ∀ turn ∈ turns, Timely m turn) (hdistinct : (drawn m w turns).Nodup)
    (hunused : ∀ labels ∈ w.labels, ∀ id, clusterOf? labels = some id → id ∉ drawn m w turns) :
    (∃ leases, (after m w turns).store = .memory leases ∧ Faithful leases (history m w turns)) ∧
      ∀ before turn rest, turns = before ++ turn :: rest → Respects m (after m w before) turn := by
  -- At first those ids are known that containers carry from before the run.
  let known (id : String) : Prop := ∃ labels ∈ w.labels, clusterOf? labels = some id
  have hkept : Kept known w [] [] :=
    { store := hstart
      faithful := by
        intro id grant hgrant
        cases hgrant
      universal := by
        intro grant hgrant
        cases hgrant
      granted := by
        intro grant hgrant
        cases hgrant
      carried := fun labels hmem id hid => ⟨labels, hmem, hid⟩ }
  have hnew : ∀ id ∈ drawn m w turns, ¬known id := by
    rintro id hid ⟨labels, hmem, hlabel⟩
    exact hunused labels hmem id hlabel hid
  constructor
  · obtain ⟨leases, hafter⟩ := (lasts_kept m).after [] htimely hdistinct hnew ⟨[], hkept⟩
    exact ⟨leases, hafter.store, hafter.faithful⟩
  · rintro before turn rest rfl
    obtain ⟨known', ⟨leases, hbefore⟩, hunknown⟩ :=
      (lasts_kept m).before [] htimely hdistinct hnew ⟨[], hkept⟩
    exact hbefore.respects (htimely turn (by simp)) hunknown

namespace Sample

/-- Every turn at the new year is timely, far from the end of the calendar. -/
theorem timely_of_newYear {turn : Turn} (h : turn.now = newYear) : Timely manager turn := by
  refine ⟨newYear, ⟨3600000000, by decide⟩, hourLater, ?_, rfl, by decide +kernel⟩
  rw [h]
  decide +kernel

end Sample

open Sample in
/-- The lease of two nodes is not cut short. -/
theorem leases_of_history_of_shortened :
    (∃ leases,
      (after manager (initial Plan.smooth .yaml newYear) shortened).store = .memory leases ∧
      Faithful leases (history manager (initial Plan.smooth .yaml newYear) shortened)) ∧
      ∀ before turn rest, shortened = before ++ turn :: rest →
        Respects manager (after manager (initial Plan.smooth .yaml newYear) before) turn := by
  have htimely : ∀ turn ∈ shortened, Timely manager turn := by
    intro turn hturn
    refine timely_of_newYear ?_
    rcases List.mem_cons.1 hturn with rfl | hturn
    · rfl
    · rw [List.mem_singleton.1 hturn]
  exact leases_of_history rfl htimely nodup_drawn_shortened fun _ h => by cases h

end World

end ClusterLease
