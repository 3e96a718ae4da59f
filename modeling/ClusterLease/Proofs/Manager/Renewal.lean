import ClusterLease.Proofs.Manager.Authorization

/-!
What a refresh asks of the keeper of leases, whatever the surroundings answer.

A refresh `Renews` the lease of its cluster: it extends it to a reading of the clock and the
extension that was asked for, and puts down a new lease only after it was told that there is none. A
refresh that succeeds has one of the two answered (`upholds_refresh`).
-/

namespace ClusterLease.Manager

/-- The time that is an extension after a reading of the clock. -/
def Expects (extension : Duration) (past : List (Event interface)) (expiry : Moment) : Prop :=
  ∃ reading : Moment, (⟨.now, reading⟩ : Event interface) ∈ past ∧ reading.add? extension = some expiry

/-- The keeper of leases was asked to change a lease, and had none. -/
def Misses (id : String) : Event interface → Prop
  | ⟨.changeLease other _, .error (.metaNotFound _)⟩ => other = id
  | _ => False

/-- Some refresh was told that there is no lease. -/
def Missed (id : String) (past : List (Event interface)) : Prop := ∃ event ∈ past, Misses id event

/-- What a refresh may ask after some events. -/
def Renews (user id : String) (extension : Duration) (past : List (Event interface)) : Call → Prop
  | .changeLease other change => other = id ∧ ∃ expiry, Expects extension past expiry ∧
      change = fun lease => lease.extended user expiry
  | .keepLease other lease => other = id ∧ Missed id past ∧
      ∃ expiry, Expects extension past expiry ∧ lease = Lease.ofUser user expiry
  | .log _ | .now | .list | .fetchLease _ => True
  | _ => False

/-- The event gives a cluster to a user, until a time at least. -/
def Obtains (user id : String) (expiry : Moment) : Event interface → Prop
  | ⟨.changeLease other change, .ok _⟩ => other = id ∧ change = fun lease => lease.extended user expiry
  | ⟨.keepLease other lease, .ok _⟩ => other = id ∧ lease = Lease.ofUser user expiry
  | _ => False

/-- A refresh has obtained the cluster. -/
def Renewed (user id : String) (extension : Duration) (past : List (Event interface)) : Prop :=
  ∃ expiry, Expects extension past expiry ∧ ∃ event ∈ past, Obtains user id expiry event

variable {m : Manager} {caller : Caller} {id : String} {extension : Duration}
  {past now : List (Event interface)} {expiry : Moment}

/-- An end that was expected is expected still. -/
theorem Expects.mono (h : Expects extension past expiry) (hsuffix : past <:+ now) :
    Expects extension now expiry := by
  obtain ⟨reading, hmem, hexpiry⟩ := h
  exact ⟨reading, hsuffix.subset hmem, hexpiry⟩

/-- Whatever only reads may be asked in a refresh. -/
theorem Call.Reads.renews {call : Call} {user : String} (h : call.Reads) :
    Renews user id extension past call := by
  cases call <;> trivial

/-- A refresh asks for what renews its lease, and succeeds only if it was answered. -/
theorem upholds_refresh (m : Manager) (caller : Caller) (id : String) (extension : Duration)
    (past : List (Event interface)) :
    (m.refresh caller id extension).Upholds (Renews caller.user id extension)
      (fun outcome now => ∀ lease, outcome = .ok lease → Renewed caller.user id extension now)
      past := by
  refine upholds_log_bind trivial fun before _ => ?_
  have hread : Program.Steady Call.Reads (Renews caller.user id extension) fun _ => True :=
    ⟨fun hkind _ => hkind.renews, fun _ _ => trivial⟩
  rw [Program.upholds_bind]
  refine ((m.asks_cluster caller id).upholds hread trivial).imp ?_
  rintro (fault | cluster) now - -
  · exact fun _ h => by cases h
  refine upholds_ask_bind.2 ⟨trivial, fun reading => ?_⟩
  cases hexpiry : Moment.add? reading extension with
  | none => exact fun _ h => by cases h
  | some expiry =>
    have hexpects : Expects extension (⟨.now, reading⟩ :: now) expiry :=
      ⟨reading, List.mem_cons_self, hexpiry⟩
    refine upholds_ask_bind.2 ⟨⟨rfl, expiry, hexpects, rfl⟩, fun reply => ?_⟩
    have hsuffix : (⟨.now, reading⟩ :: now) <:+ (⟨.changeLease id _, reply⟩ :: ⟨.now, reading⟩ :: now) :=
      List.suffix_cons _ _
    split
    · exact fun _ _ => ⟨expiry, hexpects.mono hsuffix, _, List.mem_cons_self, rfl, rfl⟩
    · -- There is no lease to extend, so a new one is put down.
      refine upholds_ask_bind.2
        ⟨⟨rfl, ⟨_, List.mem_cons_self, rfl⟩, expiry, hexpects.mono hsuffix, rfl⟩, fun kept => ?_⟩
      cases kept with
      | ok _ =>
        exact fun _ _ => ⟨expiry, hexpects.mono (hsuffix.trans (List.suffix_cons _ _)), _,
          List.mem_cons_self, rfl, rfl⟩
      | error fault => exact fun _ h => by cases h
    · exact fun _ h => by cases h

end ClusterLease.Manager
