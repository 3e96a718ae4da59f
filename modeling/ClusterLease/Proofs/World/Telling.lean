import ClusterLease.Proofs.Lease.Agreement
import ClusterLease.Proofs.Lease.Extended
import ClusterLease.Proofs.Manager.Renewal
import ClusterLease.Proofs.Program.Pool
import ClusterLease.Proofs.World.Records

/-!
What single answers do to the leases of a world.

A world `Tells` leases that it keeps in memory, or in a file that holds the same. Operations that run
side by side are answered one question at a time, each at its own time of day (`answerAt`). All that
the questions of a refresh can do to leases is a `Change`: one is extended, or a new one is put down
(`change_of_renews`). Ends are compared by `Moment.later?`, which orders all that it can compare.
-/

namespace ClusterLease

/-! ### Ends of leases -/

namespace Moment

variable {a b c : Moment}

/-- The moment can be told in universal time. -/
def Universal (m : Moment) : Prop := m.toUtc?.isSome

instance (m : Moment) : Decidable m.Universal := inferInstanceAs (Decidable (_ = true))

theorem later?_self (a : Moment) : a.later? a = some false := by
  rw [later?]
  cases a.instant? <;> simp

theorem later?_trans (hab : a.later? b = some false) (hbc : b.later? c = some false) :
    a.later? c = some false := by
  rw [later?] at hab hbc ⊢
  cases ha : a.instant? <;> cases hb : b.instant? <;> cases hc : c.instant? <;>
    simp_all <;> omega

theorem later?_swap (h : a.later? b = some true) : b.later? a = some false := by
  rw [later?] at h ⊢
  cases ha : a.instant? <;> cases hb : b.instant? <;> simp_all <;> omega

end Moment

namespace Lease

/-- The lease ends at a moment or later. -/
def Covers (lease : Lease) (m : Moment) : Prop :=
  ∃ last, lease.expiry = .moment last ∧ m.later? last = some false

/-- A lease ends when another one ends, or later. -/
def NotShorter (old new : Lease) : Prop :=
  new.expiry = old.expiry ∨ ∃ m, old.expiry = .moment m ∧ new.Covers m

variable {lease renewed : Lease} {user : String} {expiry m : Moment}

/-- A lease that is not shorter covers whatever the other one covered. -/
theorem NotShorter.covers (h : NotShorter lease renewed) (hcovers : lease.Covers m) :
    renewed.Covers m := by
  obtain ⟨last, hlast, hm⟩ := hcovers
  rcases h with heq | ⟨last', hlast', last'', hrenewed, hle⟩
  · exact ⟨last, heq.trans hlast, hm⟩
  · obtain rfl : last = last' := Value.moment.inj (hlast.symm.trans hlast')
    exact ⟨last'', hrenewed, Moment.later?_trans hm hle⟩

/-- An extended lease covers the new end and is not shorter than the old one. -/
theorem extended_covers (h : lease.extended user expiry = .ok renewed) :
    renewed.Covers expiry ∧ NotShorter lease renewed := by
  obtain ⟨last, hlast, ⟨hlater, rfl⟩ | ⟨hlater, rfl⟩⟩ := extended_eq_ok h
  · exact ⟨⟨expiry, rfl, Moment.later?_self _⟩, .inr ⟨last, hlast, expiry, rfl, Moment.later?_swap hlater⟩⟩
  · exact ⟨⟨last, rfl, hlater⟩, .inl hlast.symm⟩

theorem ordinary_ofUser (user : String) {m : Moment} (h : m.offset = some Offset.utc) :
    (ofUser user m).Ordinary := by
  refine ⟨user, m, rfl, fun offset hoffset => ?_⟩
  obtain rfl : offset = Offset.utc := Option.some.inj (hoffset.symm.trans h)
  rfl

/-- Extending an ordinary lease in universal time gives an ordinary one. -/
theorem Ordinary.extended (hlease : lease.Ordinary) (hexpiry : expiry.offset = some Offset.utc)
    (h : lease.extended user expiry = .ok renewed) : renewed.Ordinary := by
  obtain ⟨last, hlast, ⟨-, rfl⟩ | ⟨-, rfl⟩⟩ := extended_eq_ok h
  · exact ordinary_ofUser user hexpiry
  · obtain ⟨owner, m, rfl, hoffset⟩ := hlease
    obtain rfl : m = last := Value.moment.inj hlast
    exact ⟨user, m, rfl, hoffset⟩

end Lease

/-! ### Keepers of leases -/

namespace Store

variable {format : Format} {store : Store} {leases : Leases}

def Tells (format : Format) (store : Store) (leases : Leases) : Prop :=
  store = .memory leases ∨
    format.Faithful ∧ ∃ path, Mirrors format path (.memory leases) store

/-- An operation on leases that comes to the same in any order is answered as a memory answers it. -/
theorem Tells.perform {α : Type} {operation : Operation α} (h : Tells format store leases)
    (hspares : operation.Spares) (halike : ∀ leases others : Leases, Plain leases → others.Perm leases →
      Alike (operation leases).outcome (operation others).outcome) :
    (store.perform format operation).answer = (onMemory leases operation).answer ∧
      ∃ leases', (onMemory leases operation).store = .memory leases' ∧
        Tells format (store.perform format operation).store leases' := by
  have hmemory : ∃ leases', (onMemory leases operation).store = .memory leases' := by
    simp only [onMemory]
    cases (operation leases).outcome <;> exact ⟨_, rfl⟩
  obtain ⟨leases', hleases'⟩ := hmemory
  rcases h with rfl | ⟨hformat, path, hmirrors⟩
  · exact ⟨rfl, leases', hleases', .inl hleases'⟩
  · obtain ⟨hanswer, hstore⟩ := perform_mirrors hformat hmirrors hspares halike
    refine ⟨hanswer, leases', hleases', .inr ⟨hformat, path, ?_⟩⟩
    rw [← hleases']
    exact hstore

theorem Tells.fetch (h : Tells format store leases) (id : String) :
    (store.fetch format id).answer = leases.require id := by
  obtain ⟨hanswer, -⟩ := h.perform (spares_fetching id) fun leases others hplain hperm =>
    fetch_alike hplain hperm id
  exact hanswer.trans (fetch_memory format leases id)

/-- An ordinary lease that is written is told from then on. -/
theorem Tells.create (h : Tells format store leases) (id : String) {lease : Lease}
    (hlease : lease.Ordinary) : (store.create format id lease).answer = .ok () ∧
      Tells format (store.create format id lease).store (leases.put id lease) := by
  obtain ⟨hanswer, leases', hleases', htells⟩ := h.perform (spares_keeping id lease) fun leases others hplain hperm =>
    .wrote () (hplain.put id hlease) (hplain.distinct.put_perm hperm id lease)
  obtain rfl : leases.put id lease = leases' := Store.memory.inj hleases'
  exact ⟨hanswer, htells⟩

theorem Tells.update_of_none {id : String} {change : Lease → Except Fault Lease}
    (h : Tells format store leases) (hchange : (Editor.ofChange change).Keepable)
    (hnone : leases.get? id = none) :
    (store.update format id change).answer = .error (.metaNotFound id) ∧
      Tells format (store.update format id change).store leases := by
  obtain ⟨hanswer, leases', hleases', htells⟩ := h.perform (spares_editing_ofChange id change)
    fun leases others hplain hperm => edit_alike hplain hperm id hchange
  have hmemory : (memory leases).update format id change =
      ⟨.error (.metaNotFound id), [], .memory leases⟩ := update_memory_of_none hnone
  obtain rfl : leases' = leases :=
    Store.memory.inj (hleases'.symm.trans (congrArg Result.store hmemory))
  exact ⟨hanswer.trans (congrArg Result.answer hmemory), htells⟩

/-- An update answers what the change makes of the told lease, and this is told from then on. -/
theorem Tells.update_of_some {id : String} {change : Lease → Except Fault Lease} {lease : Lease}
    (h : Tells format store leases) (hchange : (Editor.ofChange change).Keepable)
    (hsome : leases.get? id = some lease) :
    (store.update format id change).answer = change lease ∧
      Tells format (store.update format id change).store
        (leasesAfter leases id (change lease)) := by
  obtain ⟨hanswer, leases', hleases', htells⟩ := h.perform (spares_editing_ofChange id change)
    fun leases others hplain hperm => edit_alike hplain hperm id hchange
  have hmemory : (memory leases).update format id change =
      ⟨change lease, [], .memory (leasesAfter leases id (change lease))⟩ :=
    update_memory_of_some hsome
  obtain rfl : leases' = leasesAfter leases id (change lease) :=
    Store.memory.inj (hleases'.symm.trans (congrArg Result.store hmemory))
  exact ⟨hanswer.trans (congrArg Result.answer hmemory), htells⟩

end Store

namespace World

open Manager (Call Expects Missed Misses Obtains Renews)

variable {w v : World} {leases : Leases} {id user : String} {extension : Duration} {now : Moment}
  {past : List (Event Manager.interface)}

/-- The store of the world tells these leases. -/
def Tells (w : World) (leases : Leases) : Prop := w.store.Tells w.format leases

theorem Tells.lease? (h : w.Tells leases) (id : String) : w.lease? id = leases.get? id := by
  rw [World.lease?, Store.Tells.fetch h, Leases.require]
  cases leases.get? id <;> rfl

/-- What a world tells is its store's alone. -/
theorem Tells.frame (h : w.Tells leases) (hformat : v.format = w.format) (hstore : v.store = w.store) :
    v.Tells leases := by
  rw [Tells, hformat, hstore]
  exact h

def answerAt (now : Moment) : Answerer Manager.interface World := fun call w =>
  answer call { w with now := now }

/-- The clock was read in universal time. -/
def ReadUniversally (past : List (Event Manager.interface)) : Prop :=
  ∀ reading : Moment, (⟨.now, reading⟩ : Event Manager.interface) ∈ past →
    reading.offset = some Offset.utc

theorem clock_offset (h : now.Universal) : (answerAt now .now w).1.offset = some Offset.utc := by
  obtain ⟨reading, hreading⟩ := Option.isSome_iff_exists.1 h
  have hclock : (answerAt now .now w).1 = reading := by
    show now.toUtc?.getD now = reading
    rw [hreading, Option.getD_some]
  rw [hclock]
  exact Moment.toUtc?_offset hreading

/-- An end expected from a clock in universal time is in universal time. -/
theorem ReadUniversally.expects {expiry : Moment} (h : ReadUniversally past)
    (hexpects : Expects extension past expiry) : expiry.offset = some Offset.utc := by
  obtain ⟨reading, hmem, hexpiry⟩ := hexpects
  exact (Moment.add?_offset hexpiry).trans (h reading hmem)

/-- What one question of a refresh does to leases. Where it is told that there is no lease, there is
none. -/
inductive Change (user id : String) (extension : Duration) (past : List (Event Manager.interface)) :
    Event Manager.interface → Leases → Leases → Prop where
  | nothing {event : Event Manager.interface} {leases : Leases} (hkeeps : ¬event.call.KeepsLease)
      (hobtains : ∀ user id expiry, ¬Obtains user id expiry event)
      (hmissed : Misses id event → leases.get? id = none) :
      Change user id extension past event leases leases
  | extended {leases : Leases} {expiry : Moment} {old new : Lease}
      (hexpects : Expects extension past expiry) (hold : leases.get? id = some old)
      (hnew : old.extended user expiry = .ok new) :
      Change user id extension past ⟨.changeLease id fun lease => lease.extended user expiry, .ok new⟩
        leases (leases.put id new)
  | kept {leases : Leases} {expiry : Moment} (hexpects : Expects extension past expiry)
      (hmissed : Missed id past) :
      Change user id extension past ⟨.keepLease id (Lease.ofUser user expiry), .ok ()⟩
        leases (leases.put id (Lease.ofUser user expiry))

/-- The question changes nothing but the log and what was noted. -/
def Peeks : Call → Prop
  | .log _ | .now | .list | .fetchLease _ => True
  | _ => False

theorem Change.of_peeks {event : Event Manager.interface} (h : Peeks event.call) :
    Change user id extension past event leases leases := by
  obtain ⟨call, reply⟩ := event
  refine .nothing ?_ (fun _ _ _ hobtains => ?_) ?_
  · cases call <;> first | exact fun hkeeps => hkeeps | exact h.elim
  · cases call <;> first | exact hobtains | exact h.elim
  · cases call <;> first | exact fun hmisses => hmisses.elim | exact h.elim

/-- Nothing has changed but leases, clocks and what was noted. -/
structure SameRuntime (w v : World) : Prop where
  plan : v.plan = w.plan
  format : v.format = w.format
  containers : v.containers = w.containers
  issued : v.issued = w.issued

/-- What a refresh asks changes leases at most. -/
theorem change_of_renews (htells : w.Tells leases) (hread : ReadUniversally past) (now : Moment)
    {call : Call} (hrule : Renews user id extension past call) :
    SameRuntime w (answerAt now call w).2 ∧ ∃ leases', (answerAt now call w).2.Tells leases' ∧
      Change user id extension past ⟨call, (answerAt now call w).1⟩ leases leases' := by
  cases call with
  | log entry => exact ⟨⟨rfl, rfl, rfl, rfl⟩, leases, htells, .of_peeks trivial⟩
  | now => exact ⟨⟨rfl, rfl, rfl, rfl⟩, leases, htells, .of_peeks trivial⟩
  | list => exact ⟨⟨rfl, rfl, rfl, rfl⟩, leases, htells, .of_peeks trivial⟩
  | fetchLease other =>
    have hstore := Store.fetch_store w.format w.store other
    exact ⟨⟨rfl, rfl, rfl, rfl⟩, leases, htells.frame rfl hstore, .of_peeks trivial⟩
  | changeLease other change =>
    obtain ⟨rfl, expiry, hexpects, rfl⟩ := hrule
    have hutc := hread.expects hexpects
    have hkeepable : (Store.Editor.ofChange fun lease => lease.extended user expiry).Keepable :=
      fun lease changed hlease hchanged => hlease.extended hutc hchanged
    refine ⟨⟨rfl, rfl, rfl, rfl⟩, ?_⟩
    -- An extension finds a lease and changes it, or is told that there is none.
    cases hold : leases.get? other with
    | none =>
      obtain ⟨hanswer, hafter⟩ := Store.Tells.update_of_none htells hkeepable hold
      have hreply : (answerAt now (.changeLease other fun lease => lease.extended user expiry) w).1 =
          .error (.metaNotFound other) := hanswer
      refine ⟨leases, hafter, ?_⟩
      rw [hreply]
      exact .nothing (fun h => h) (fun _ _ _ h => h) fun _ => hold
    | some old =>
      obtain ⟨hanswer, hafter⟩ := Store.Tells.update_of_some htells hkeepable hold
      have hreply : (answerAt now (.changeLease other fun lease => lease.extended user expiry) w).1 =
          old.extended user expiry := hanswer
      refine ⟨_, hafter, ?_⟩
      rw [hreply]
      cases hnew : old.extended user expiry with
      | ok new => exact .extended hexpects hold hnew
      | error fault =>
        -- All that can go wrong is that the two ends have no order.
        obtain rfl := Lease.extended_error hnew
        exact .nothing (fun h => h) (fun _ _ _ h => h) fun h => h.elim
  | keepLease other lease =>
    obtain ⟨rfl, hmissed, expiry, hexpects, rfl⟩ := hrule
    have hordinary := Lease.ordinary_ofUser user (hread.expects hexpects)
    obtain ⟨hanswer, hafter⟩ := Store.Tells.create htells other hordinary
    have hreply : (answerAt now (.keepLease other (Lease.ofUser user expiry)) w).1 = .ok () := hanswer
    refine ⟨⟨rfl, rfl, rfl, rfl⟩, _, hafter, ?_⟩
    rw [hreply]
    exact .kept hexpects hmissed
  | _ => exact hrule.elim

end World

end ClusterLease
