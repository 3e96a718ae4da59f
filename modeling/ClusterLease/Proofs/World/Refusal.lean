import ClusterLease.Proofs.Http.Refusal
import ClusterLease.Proofs.World.Damaged

/-!
Worlds in which refused requests have no effect.

A store that fails leaves its leases as they were (`store_of_not_alters`), and a world answers as
expected if its plan makes runtimes and DNS services fail in ways of their own (`expected_events`).
-/

namespace ClusterLease

open Manager (Alters Expected)

namespace World

/-- Nothing goes wrong but what runtimes and DNS services may fail with. -/
structure Plan.FailsProperly (plan : Plan) : Prop where
  create : ∀ spec fault, plan.create spec = some fault → fault.IsRuntime
  start : ∀ info fault, plan.start info = some fault → fault.IsRuntime
  inspect : ∀ info fault, plan.inspect info = some fault → fault.IsRuntime
  fails : ∀ id fault, plan.stop id = .fails fault → fault.IsRuntime
  failsAfter : ∀ id fault, plan.stop id = .failsAfter fault → fault.IsRuntime
  list : ∀ fault, plan.list = some fault → fault.IsRuntime
  dns : ∀ request fault, plan.dns request = .error (.other fault) → fault.isForeseen = false

theorem Plan.smooth_failsProperly : smooth.FailsProperly where
  create _ _ h := by cases h
  start _ _ h := by cases h
  inspect _ _ h := by cases h
  fails _ _ h := by cases h
  failsAfter _ _ h := by cases h
  list _ h := by cases h
  dns _ _ h := by cases h

variable {w : World}

/-- No answer changes what goes wrong. -/
theorem answer_plan (call : Manager.Call) (w : World) : (answer call w).2.plan = w.plan := by
  cases call with
  | create spec =>
    dsimp only [answer, create]
    split <;> rfl
  | start id =>
    dsimp only [answer, start]
    split
    · rfl
    · split <;> rfl
  | stop id =>
    dsimp only [answer, stop]
    split
    · rfl
    · split <;> rfl
    · split <;> rfl
  | _ => rfl

/-- Only a lease that is kept or changed makes a difference to the store. -/
theorem store_of_not_alters (call : Manager.Call) (w : World)
    (h : ¬Alters ⟨call, (answer call w).1⟩) : (answer call w).2.store = w.store := by
  cases call with
  | keepLease id lease =>
    refine Store.perform_of_failed (Store.spares_keeping id lease) fun value hok => ?_
    have hreply : (answer (.keepLease id lease) w).1 = .ok value := hok
    rw [hreply] at h
    exact h trivial
  | changeLease id change =>
    refine Store.perform_of_failed (Store.spares_editing_ofChange id change) fun value hok => ?_
    have hreply : (answer (.changeLease id change) w).1 = .ok value := hok
    rw [hreply] at h
    exact h trivial
  | fetchLease id => exact Store.fetch_store w.format w.store id
  | create | start | stop => exact absurd trivial h
  | _ => rfl

theorem expected_answer (h : w.plan.FailsProperly) (call : Manager.Call) :
    Expected ⟨call, (answer call w).1⟩ := by
  -- Each answer is either the plan's, which fails properly, or a fault of the world's own.
  cases call with
  | create spec =>
    dsimp only [answer, create]
    split
    · next heq => exact h.create _ _ heq
    · trivial
  | start id =>
    dsimp only [answer, start]
    split
    · trivial
    · split
      · next heq => exact h.start _ _ heq
      · trivial
  | inspect id =>
    dsimp only [answer, inspect]
    split
    · trivial
    · split
      · next heq => exact h.inspect _ _ heq
      · trivial
  | stop id =>
    dsimp only [answer, stop]
    split
    · next heq => exact h.fails _ _ heq
    · split <;> trivial
    · next heq =>
      split
      · exact h.failsAfter _ _ heq
      · trivial
  | list =>
    dsimp only [answer, list]
    split
    · next heq => exact h.list _ heq
    · trivial
  | put request =>
    dsimp only [answer]
    cases hdns : w.plan.dns request with
    | ok response => trivial
    | error problem =>
      cases problem with
      | other fault => exact h.dns _ _ hdns
      | _ => trivial
  | _ => trivial

theorem expected_events {α : Type} (h : w.plan.FailsProperly) (p : ManagerM α) :
    ∀ event ∈ p.events answer w, Expected event := by
  induction p generalizing w with
  | done outcome =>
    intro event hevent
    cases hevent
  | ask call next ih =>
    have hnext : (answer call w).2.plan.FailsProperly := answer_plan call w ▸ h
    exact List.forall_mem_cons.2 ⟨expected_answer h call, ih _ hnext⟩

namespace Sample

/-- A world in which someone started a cluster that belongs to someone else. -/
def lent : World :=
  { initial Plan.smooth .yaml newYear with
    containers := [lone], store := .memory [("c2", Lease.ofUser "bob" hourLater)] }

/-- A request without a body. -/
def bare (method target : String) (headers : Labels) : Http.Request := ⟨method, target, headers, "", []⟩

end Sample

open Sample Http in
/-- Who started a cluster may not kill it if it belongs to someone else, and nobody may do anything. -/
theorem refused_without_effect_of_lent :
    (∃ response, ((respond manager (bare "DELETE" "/cluster/c2" [("x-dyncluster-user", "ann")])).run answer lent).1
        = .ok response ∧ response.status = 403 ∧
      ((respond manager (bare "DELETE" "/cluster/c2" [("x-dyncluster-user", "ann")])).run answer lent).2.store
        = lent.store) ∧
    (respond manager (bare "DELETE" "/clusters" [("x-dyncluster-user", " ")])).run answer lent =
      (.ok (unauthorized (bare "DELETE" "/clusters" [("x-dyncluster-user", " ")])), lent) := by
  have hproper : lent.plan.FailsProperly := Plan.smooth_failsProperly
  constructor
  · obtain ⟨⟨response, hresponse, hrefused⟩, -⟩ := refused_without_effect manager
      (bare "DELETE" "/cluster/c2" [("x-dyncluster-user", "ann")]) lent (expected_events hproper _)
      store_of_not_alters
    -- The status is computed from the run; that nothing was written is the general result.
    have hforbidden : ((respond manager (bare "DELETE" "/cluster/c2" [("x-dyncluster-user", "ann")])).run
        answer lent).1.toOption.map (·.status) = some 403 := by decide +kernel
    have hstatus : response.status = 403 := by
      rw [hresponse] at hforbidden
      exact Option.some.inj hforbidden
    have hroute : Route.ofPath? (pathOf "/cluster/c2") = some (.cluster "c2") := by decide +kernel
    exact ⟨response, hresponse, hstatus,
      (hrefused (.inr (.inr ⟨"c2", hroute, .inl hstatus⟩))).2⟩
  · have hroute : Route.ofPath? (pathOf "/clusters") = some .clusters := by decide +kernel
    have hblank : Text.isAllBlank " " := by decide +kernel
    exact (refused_without_effect manager
      (bare "DELETE" "/clusters" [("x-dyncluster-user", " ")]) lent (expected_events hproper _)
      store_of_not_alters).2 .clusters hroute (.inl rfl) (by decide +kernel)
      (.inr ⟨" ", hblank, by decide +kernel⟩)

end World

end ClusterLease
