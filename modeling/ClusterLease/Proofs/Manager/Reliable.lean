import ClusterLease.Proofs.Lease.Extended
import ClusterLease.Proofs.Manager.Refusal

/-!
Surroundings in which nothing fails.

Runtimes do what they are asked, and stores look up, keep and change leases (`Reliable`). Then an
allocation succeeds, or is rejected, or finds a limit or the end of a lease out of range
(`ends_allocate`); a refresh succeeds, or is refused, or fails over a lease that ends at something with
which no moment can be compared (`ends_refresh`, `commits_refresh`).
-/

namespace ClusterLease

/-- What is missing is the mishap, and nothing else is. -/
theorem Fault.orMishap_error {α : Type} {what : Mishap} {found : Option α} {fault : Fault}
    (h : orMishap what found = .error fault) : fault = .mishap what := by
  cases found with
  | none => exact (Except.error.inj h).symm
  | some value => cases h

namespace Manager

open Program (Fails)

/-- An answer of surroundings that do not fail. A store may know no lease of a cluster, and a change of a
lease that it knows may fail by itself. -/
def Reliable : Event interface → Prop
  | ⟨.create _, .error _⟩ | ⟨.start _, .error _⟩ | ⟨.inspect _, .error _⟩ | ⟨.list, .error _⟩ => False
  | ⟨.put _, .error (.other _)⟩ => False
  | ⟨.keepLease .., .error _⟩ => False
  | ⟨.fetchLease id, .error fault⟩ => fault = .metaNotFound id
  | ⟨.changeLease _ change, .ok lease⟩ => ∃ old, change old = .ok lease
  | ⟨.changeLease id change, .error fault⟩ => fault = .metaNotFound id ∨ ∃ old, change old = .error fault
  | _ => True

/-- A lease could not be changed, for a reason that nothing foresees. -/
def Clashes : Event interface → Prop
  | ⟨.changeLease .., .error fault⟩ => fault.isForeseen = false
  | _ => False

/-- Reading meets no lease that cannot be compared. -/
theorem not_clashes_of_reads (event : Event interface) (h : event.call.Reads) : ¬Clashes event := by
  obtain ⟨call, reply⟩ := event
  cases call <;> first | exact h.elim | exact fun hclashes => hclashes

variable {m : Manager} {caller : Caller} {id : String} {expected : Event interface → Prop}

/-- A reliable runtime does not fail. -/
theorem failsAs_of_reliable (h : ∀ event, expected event → Reliable event) :
    FailsAs (fun _ => False) expected where
  create _ _ hevent := h _ hevent
  start _ _ hevent := h _ hevent
  inspect _ _ hevent := h _ hevent
  list _ hevent := h _ hevent
  put _ _ hevent := h _ hevent
  fetchLease id fault hevent hforeseen := by
    obtain rfl : fault = .metaNotFound id := h _ hevent
    cases hforeseen

/-- Keeping a lease succeeds. -/
theorem ends_keepLease (h : ∀ event, expected event → Reliable event) (id : String) (lease : Lease) :
    (keepLease id lease).Ends expected (Fails fun _ => False) := by
  refine ends_ask_bind fun reply hreply => ?_
  cases reply with
  | ok _ => exact .done (Program.fails_ok _ _)
  | error fault => exact (h _ hreply).elim

/-! ### Allocating -/

/-- The limit of timeouts, the length of new leases or the end of one is out of range. -/
inductive Overdrawn (m : Manager) (reading : Moment → Prop) : Fault → Prop where
  | limit {fault : Fault} (h : m.config.maxLease = .error fault) : Overdrawn m reading fault
  | length {fault : Fault} (h : m.config.defaultLease = .error fault) : Overdrawn m reading fault
  | expiry {fault : Fault} {now : Moment} {length : Duration} (hnow : reading now)
      (hlength : m.config.defaultLease = .ok length) (h : laterBy now length = .error fault) :
      Overdrawn m reading fault

/-- A clock that runs out of range is a mishap. -/
theorem Overdrawn.isForeseen {reading : Moment → Prop} {fault : Fault} (h : Overdrawn m reading fault) :
    fault.isForeseen = false := by
  cases h with
  | limit h | length h =>
    rw [Fault.orMishap_error h]
    rfl
  | expiry _ _ h =>
    rw [Fault.orMishap_error h]
    rfl

/-- Over a reliable runtime an allocation is rejected or succeeds, unless a time runs out of range. -/
theorem ends_allocate (h : ∀ event, expected event → Reliable event) (wanted : ClusterDemand) :
    (m.allocate caller wanted).Ends expected (Fails fun fault =>
      (∃ why, fault = .rejected why) ∨ Overdrawn m (fun now => expected ⟨.now, now⟩) fault) := by
  refine ends_log_bind (Program.ends_ofExcept_bind (fun nodes hchecked => ?_) fun fault hchecked => ?_)
  swap
  · exact Program.fails_error.2 ((ClusterDemand.checked_error hchecked).imp_right .limit)
  refine ends_ask_bind fun fresh _ => ends_ask_bind fun now hnow => ?_
  refine Program.ends_ofExcept_bind (fun length hlength => ?_) fun fault hlength => ?_
  swap
  · exact Program.fails_error.2 (.inr (.length hlength))
  refine Program.ends_ofExcept_bind (fun expiry hexpiry => ?_) fun fault hexpiry => ?_
  swap
  · exact Program.fails_error.2 (.inr (.expiry hnow hlength hexpiry))
  -- The demand was checked, so every node has a version: nothing is left that could fail.
  have htask : ∀ node ∈ nodes, (do
      let _ ← m.allocateNode caller (String.ofList (fresh.toList.take idLength)) expiry node :
        ManagerM Unit).Ends expected (Fails fun _ => False) := by
    intro node hnode
    have hversion := (ClusterDemand.checked_ok hchecked).versions node hnode
    exact (ends_allocateNode (failsAs_of_reliable h) expiry hversion).fails_bind fun _ =>
      .done (Program.fails_ok _ _)
  refine Program.Ends.fails_bind ((ends_keepLease h _ _).imp fun _ hkept => hkept.imp fun _ => False.elim)
    fun _ => ends_fanOut_bind htask ?_ fun _ => False.elim
  exact ends_log_bind (.done (Program.fails_ok _ _))

/-! ### Refreshing -/

/-- A refresh that succeeds leaves the lease to the caller. -/
theorem ends_refresh (h : ∀ event, expected event → Reliable event) (extension : Duration) :
    (m.refresh caller id extension).Ends expected fun o =>
      (∃ expiry, o = .ok (Lease.ofUser caller.user expiry)) ∨
      ∃ fault, o = .error fault ∧ ((∃ why, fault = .rejected why) ∨ fault = .clusterNotFound id ∨
        fault.isForeseen = false ∧ ∃ event, expected event ∧ Clashes event) := by
  refine ends_log_bind ((ends_cluster (failsAs_of_reliable h) id).bind (fun _ _ => ?_) ?_)
  · refine ends_ask_bind fun now _ => ?_
    split
    · exact .done (.inr ⟨_, rfl, .inl ⟨_, rfl⟩⟩)
    · next expiry hexpiry =>
      refine ends_ask_bind fun reply hreply => ?_
      split
      · next lease =>
        -- The store answers by what the change makes of some record, so the answer is an extended lease.
        obtain ⟨old, hold⟩ : ∃ old : Lease, old.extended caller.user expiry = .ok lease := h _ hreply
        obtain ⟨last, -, ⟨-, rfl⟩ | ⟨-, rfl⟩⟩ := Lease.extended_eq_ok hold <;> exact .done (.inl ⟨_, rfl⟩)
      · refine (ends_keepLease h _ _).bind (fun _ _ => .done (.inl ⟨_, rfl⟩)) fun _ hfalse => ?_
        exact (Program.fails_error.1 hfalse).elim
      · next fault hother =>
        have hforeseen : fault.isForeseen = false := by
          obtain rfl | ⟨old, hold⟩ : fault = .metaNotFound id ∨
              ∃ old : Lease, old.extended caller.user expiry = .error fault := h _ hreply
          · exact absurd rfl (hother id)
          · rw [Lease.extended_error hold]
            rfl
        exact .done (.inr ⟨fault, rfl, .inr (.inr ⟨hforeseen, _, hreply, hforeseen⟩)⟩)
  · intro fault hfault
    obtain hfalse | rfl := Program.fails_error.1 hfault
    · exact hfalse.elim
    · exact .inr ⟨_, rfl, .inr (.inl rfl)⟩

/-- A refresh that meets a lease which cannot be changed fails over it. -/
theorem commits_refresh_clashes (extension : Duration) :
    (m.refresh caller id extension).Commits expected Clashes fun o =>
      ∃ fault, o = .error fault ∧ fault.isForeseen = false := by
  refine .ask (fun _ _ => False.elim) fun _ _ _ => ?_
  refine (m.asks_cluster caller id).commits_bind not_clashes_of_reads fun _ => ?_
  refine commits_ask_bind (fun _ _ => False.elim) fun now _ _ => ?_
  -- Of the calls only the change of a lease can clash, and then nothing follows it.
  split
  · exact .done
  · refine commits_ask_bind (fun reply _ hclashes => ?_) fun reply _ _ => ?_
    · cases reply with
      | ok lease => exact hclashes.elim
      | error fault =>
        split
        · next heq => cases heq
        · next heq => cases heq; cases hclashes
        · next heq => cases heq; exact .done ⟨_, rfl, hclashes⟩
    · split
      · exact .done
      · refine commits_ask_bind (fun _ _ => False.elim) fun reply _ _ => ?_
        cases reply <;> exact .done
      · exact .done

end Manager

end ClusterLease
