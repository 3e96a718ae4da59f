import ClusterLease.Proofs.Http.Refusal
import ClusterLease.Proofs.Manager.Reliable
import ClusterLease.Proofs.Time.Requested

/-!
Requests with a body.

Whatever the body is, in surroundings where nothing fails the answer is a document or tells what is
wrong with the request (`Response.IsProper`), unless something is `Misread`: a timeout of digits that
write no number, or nodes that cannot be gone through. Apart from that only a lease out of range or
one that ends at something else than a moment leads to an answer without a text
(`submission_answered`).
-/

namespace ClusterLease.Http

open Manager (Clashes Overdrawn Reliable)
open Program (Fails)
open Value (object)

/-- A document, or a text that says what is wrong with the request. -/
def Response.IsProper (response : Response) : Prop :=
  (response.status = 200 ∧ response.document.isSome) ∨
    ∃ status text, (status = 400 ∨ status = 403 ∨ status = 404) ∧ response = failure status text

/-- A failure with one of these statuses has a document with its text. -/
theorem isProper_failure {status : Nat} (text : String) (h : status = 400 ∨ status = 403 ∨ status = 404) :
    (failure status text).IsProper := .inr ⟨status, text, h, rfl⟩

/-! ### Bodies that are misread -/

/-- Nodes that count as some but cannot be gone through. -/
def Uncountable (nodes : Value) : Prop :=
  nodes.isTruthy ∧ match nodes with
    | .list _ | .map _ | .text _ => False
    | _ => True

/-- What is no list, and cannot be gone through, is a mishap. -/
theorem nodeDemands_of_uncountable {nodes : Value} (h : Uncountable nodes) :
    nodeDemands nodes = .error (.mishap .wrongType) := by
  rw [nodeDemands, if_pos h.1]
  cases nodes with
  | list _ | map _ | text _ => exact h.2.elim
  | _ => rfl

/-- A list of nodes is rejected for one of its entries, or not at all. -/
theorem mapM_nodeDemand_error {entries : List Value} {fault : Fault}
    (h : entries.mapM nodeDemand = .error fault) : ∃ why, fault = .rejected why := by
  induction entries with
  | nil => cases h
  | cons entry rest ih =>
    rw [List.mapM_cons] at h
    obtain hentry | ⟨demand, -, h⟩ := Except.bind_eq_error h
    · unfold nodeDemand at hentry
      split at hentry
      · cases hentry
      · exact ⟨_, (Except.error.inj hentry).symm⟩
    · obtain hrest | ⟨others, -, h⟩ := Except.bind_eq_error h
      · exact ih hrest
      · cases h

/-- Nodes that can be gone through are rejected at worst. -/
theorem nodeDemands_error {nodes : Value} {fault : Fault} (hcountable : ¬Uncountable nodes)
    (h : nodeDemands nodes = .error fault) : ∃ why, fault = .rejected why := by
  rw [nodeDemands] at h
  split at h
  · next htruthy =>
    obtain hmembers | ⟨entries, -, h⟩ := Except.bind_eq_error h
    · refine absurd ⟨htruthy, ?_⟩ hcountable
      cases nodes with
      | list _ | map _ | text _ => cases hmembers
      | _ => trivial
    · exact mapM_nodeDemand_error h
  · cases h

/-- The nodes of a body, as it gives them. -/
def givenNodes (fields : Entries) : Value := (Entries.getText? fields "nodes").getD .null

/-- A body is misread if it gives nodes that cannot be gone through, or sound nodes and an unreadable timeout. -/
def MisreadDemand (fields : Entries) : Prop := ∃ timeout, Entries.getText? fields "timeout" = some timeout ∧
  (Uncountable (givenNodes fields) ∨
    (∃ demands, nodeDemands (givenNodes fields) = .ok demands) ∧ Duration.Unreadable timeout)

/-- A body that is misread ends in a mishap. -/
theorem clusterDemand_of_misread {fields : Entries} (h : MisreadDemand fields) :
    ∃ fault, clusterDemand fields = .error fault ∧ fault.isForeseen = false := by
  obtain ⟨timeout, htimeout, h⟩ := h
  unfold clusterDemand
  rw [htimeout]
  dsimp only
  obtain huncountable | ⟨⟨demands, hdemands⟩, hunreadable⟩ := h
  · rw [← givenNodes, nodeDemands_of_uncountable huncountable]
    exact ⟨_, rfl, rfl⟩
  · rw [← givenNodes, hdemands, Duration.requested_of_unreadable hunreadable]
    exact ⟨_, rfl, rfl⟩

/-- A body is rejected, or it is misread. -/
theorem clusterDemand_error {fields : Entries} {fault : Fault} (h : clusterDemand fields = .error fault) :
    (∃ why, fault = .rejected why) ∨ fault.isForeseen = false ∧ MisreadDemand fields := by
  by_cases hmisread : MisreadDemand fields
  · obtain ⟨other, hother, hforeseen⟩ := clusterDemand_of_misread hmisread
    obtain rfl : fault = other := Except.error.inj (h.symm.trans hother)
    exact .inr ⟨hforeseen, hmisread⟩
  left
  unfold clusterDemand at h
  split at h
  · exact ⟨_, (Except.error.inj h).symm⟩
  · next timeout htimeout =>
    obtain hnodes | ⟨demands, hdemands, h⟩ := Except.bind_eq_error h
    · exact nodeDemands_error (fun huncountable => hmisread ⟨timeout, htimeout, .inl huncountable⟩) hnodes
    · obtain hrequested | ⟨duration, -, h⟩ := Except.bind_eq_error h
      · exact Duration.requested_error
          (fun hunreadable => hmisread ⟨timeout, htimeout, .inr ⟨⟨demands, hdemands⟩, hunreadable⟩⟩) hrequested
      · cases h

namespace Request

/-- The requests that come with a body. -/
def Submits (request : Request) : Route → Prop
  | .clusters => request.methodName = "POST"
  | .cluster _ => request.methodName = "PUT"
  | .version | .files => False

/-- Bodies are submitted to create a cluster and to refresh one. -/
theorem Submits.cases {request : Request} {route : Route} (h : request.Submits route) :
    (route = .clusters ∧ request.methodName = "POST") ∨
      ∃ id, route = .cluster id ∧ request.methodName = "PUT" := by
  cases route with
  | clusters => exact .inl ⟨rfl, h⟩
  | cluster id => exact .inr ⟨id, rfl, h⟩
  | version | files => exact h.elim

/-- The body of a request is misread. -/
def Misread (request : Request) : Route → Prop
  | .clusters => ∃ fields, request.object? = some fields ∧ MisreadDemand fields
  | .cluster _ => ∃ timeout, (request.object?.bind fun fields => Entries.getText? fields "timeout") = some timeout ∧
      Duration.Unreadable timeout
  | .version | .files => False

end Request

/-! ### Serving -/

variable {m : Manager} {caller : Caller} {request : Request} {told : Event Manager.interface → Prop}

/-- Why the serving of a request may end in something that nothing foresees. -/
inductive Derails (m : Manager) (request : Request) (told : Event Manager.interface → Prop) : Route → Prop where
  | misread {route : Route} (h : request.Misread route) : Derails m request told route
  | overdrawn {fault : Fault} (h : Overdrawn m (fun now => told ⟨.now, now⟩) fault) :
      Derails m request told .clusters
  | clash {id : String} {event : Event Manager.interface} (htold : told event) (h : Clashes event) :
      Derails m request told (.cluster id)

/-- How serving a request may end: in a proper answer, over something that the client has done, or in
something that nothing foresees, for a cause. -/
def Settles (cause : Prop) : Except Fault Response → Prop
  | .ok response => response.IsProper
  | .error fault => (∃ why, fault = .rejected why) ∨ (∃ id, fault = .clusterNotFound id) ∨
      fault.isForeseen = false ∧ cause

/-- Creating a cluster settles, over a reliable runtime, unless the body is misread. -/
theorem ends_createCluster (h : ∀ event, told event → Reliable event) :
    (createCluster m caller request).Ends told (Settles (Derails m request told .clusters)) := by
  unfold createCluster
  split
  · exact .done (isProper_failure _ (.inl rfl))
  · next fields hfields =>
    refine Program.ends_ofExcept_bind (fun wanted _ => ?_) fun fault hfault => ?_
    · refine (Manager.ends_allocate h wanted).bind (fun id _ => ?_) fun fault hfault => ?_
      · exact .done (.inl ⟨rfl, rfl⟩)
      · exact (Program.fails_error.1 hfault).imp_right fun h => .inr ⟨h.isForeseen, .overdrawn h⟩
    · exact (clusterDemand_error hfault).imp_right fun ⟨hforeseen, h⟩ =>
        .inr ⟨hforeseen, .misread ⟨fields, hfields, h⟩⟩

/-- So does a refresh, unless its body is misread or the two times cannot be compared. -/
theorem ends_refreshCluster (h : ∀ event, told event → Reliable event) (id : String) :
    (refreshCluster m caller id request).Ends told (Settles (Derails m request told (.cluster id))) := by
  unfold refreshCluster
  split
  · exact .done (isProper_failure _ (.inl rfl))
  · next timeout htimeout =>
    refine Program.ends_ofExcept_bind (fun extension _ => ?_) fun fault hfault => ?_
    · refine (Manager.ends_refresh h extension).bind (fun lease hlease => ?_) fun fault hfault => ?_
      · obtain ⟨expiry, hlease⟩ | ⟨_, hfalse, -⟩ := hlease
        · obtain rfl := Except.ok.inj hlease
          exact .done (.inl ⟨rfl, rfl⟩)
        · cases hfalse
      · obtain ⟨_, hfalse⟩ | ⟨_, ⟨⟩, hwhy | hnone | ⟨hforeseen, event, htold, hclashes⟩⟩ := hfault
        · cases hfalse
        · exact .inl hwhy
        · exact .inr (.inl ⟨id, hnone⟩)
        · exact .inr (.inr ⟨hforeseen, .clash htold hclashes⟩)
    · by_cases hunreadable : Duration.Unreadable timeout
      · rw [Duration.requested_of_unreadable hunreadable] at hfault
        obtain rfl := Except.error.inj hfault
        exact .inr (.inr ⟨rfl, .misread ⟨timeout, htimeout, hunreadable⟩⟩)
      · exact .inl (Duration.requested_error hunreadable hfault)

/-- A caller who submits a body is served by one of the two. -/
theorem serve_of_submits {route : Route} (hsubmits : request.Submits route)
    (hcaller : request.caller? = some caller) :
    serve m request request.methodName route = match route with
      | .cluster id => refreshCluster m caller id request
      | _ => createCluster m caller request := by
  cases route with
  | clusters =>
    dsimp only [serve]
    rw [hcaller]
    exact if_pos hsubmits
  | cluster id =>
    dsimp only [serve]
    rw [hcaller]
    exact if_pos hsubmits
  | version | files => exact hsubmits.elim

/-- Whoever submits a body gets it settled, or derails it. -/
theorem ends_serve (h : ∀ event, told event → Reliable event) {route : Route}
    (hsubmits : request.Submits route) (hcaller : request.caller? = some caller) :
    (serve m request request.methodName route).Ends told (Settles (Derails m request told route)) := by
  rw [serve_of_submits hsubmits hcaller]
  cases route with
  | clusters => exact ends_createCluster h
  | cluster id => exact ends_refreshCluster h id
  | version | files => exact hsubmits.elim

/-- What is misread ends the serving before anything is asked. -/
theorem serve_of_misread {route : Route} (hsubmits : request.Submits route)
    (hcaller : request.caller? = some caller) (hmisread : request.Misread route) :
    ∃ fault, serve m request request.methodName route = Program.fail fault ∧ fault.isForeseen = false := by
  rw [serve_of_submits hsubmits hcaller]
  -- What is misread is the demand in one case and the time in the other; both are read before any call.
  cases route with
  | clusters =>
    obtain ⟨fields, hfields, hdemand⟩ := hmisread
    obtain ⟨fault, hfault, hforeseen⟩ := clusterDemand_of_misread hdemand
    refine ⟨fault, ?_, hforeseen⟩
    dsimp only
    unfold createCluster
    rw [hfields]
    dsimp only
    rw [hfault]
    rfl
  | cluster id =>
    obtain ⟨timeout, htimeout, hunreadable⟩ := hmisread
    refine ⟨.mishap .badValue, ?_, rfl⟩
    dsimp only
    unfold refreshCluster
    rw [htimeout]
    dsimp only
    rw [Duration.requested_of_unreadable hunreadable]
    rfl
  | version | files => exact hsubmits.elim

/-- Two times between which there is no order end a refresh without a document. -/
theorem commits_refreshCluster_clashes (id : String) :
    (refreshCluster m caller id request).Commits told Clashes fun o =>
      ∃ fault, o = .error fault ∧ fault.isForeseen = false := by
  unfold refreshCluster
  split
  · exact .done
  · refine Program.commits_ofExcept_bind fun extension _ => ?_
    refine (Manager.commits_refresh_clashes extension).bind (fun lease => ?_) (fun _ ⟨_, h, _⟩ => by cases h) ?_
    · exact Program.commits_ofExcept_bind fun entry _ =>
        (asks_succeed entry).commits Manager.not_clashes_of_reads
    · rintro _ ⟨fault, ⟨⟩, hforeseen⟩
      exact ⟨_, rfl, hforeseen⟩

/-! ### Answers -/

/-- A mishap is answered without a document. -/
theorem answerFault_of_unforeseen (method path : String) {fault : Fault} (h : fault.isForeseen = false) :
    answerFault method path fault = pure ⟨500, none⟩ := by
  unfold answerFault
  rw [h]
  rfl

/-- A body that is submitted on a known path is served. -/
theorem decide_of_submits {route : Route} (hroute : Route.ofPath? (pathOf request.target) = some route)
    (hsubmits : request.Submits route) :
    Route.decide request.methodName (pathOf request.target) = .serve route := by
  have hmethod : request.methodName ∈ route.methods := by
    obtain ⟨rfl, hpost⟩ | ⟨id, rfl, hput⟩ := hsubmits.cases
    · simp [hpost, Route.methods]
    · simp [hput, Route.methods]
  rw [Route.decide, hroute]
  simp [hmethod]

/-- The answer to a request with a body, which is never about the head alone. -/
theorem respond_of_submits {route : Route} (hroute : Route.ofPath? (pathOf request.target) = some route)
    (hsubmits : request.Submits route) :
    respond m request = (serve m request request.methodName route).attempt >>= fun outcome =>
      match outcome with
      | .ok response => pure response
      | .error fault => answerFault request.methodName (pathOf request.target) fault := by
  have hhead : request.methodName ≠ "HEAD" := by
    obtain ⟨-, hpost⟩ | ⟨id, -, hput⟩ := hsubmits.cases
    · simp [hpost]
    · simp [hput]
  unfold respond answer
  dsimp only
  rw [decide_of_submits hroute hsubmits]
  simp only [if_neg hhead]
  exact bind_pure _

/-- The response to a body that is submitted has a document, or the body was derailed. -/
theorem ends_respond_of_submits (h : ∀ event, told event → Reliable event) {route : Route}
    (hroute : Route.ofPath? (pathOf request.target) = some route) (hsubmits : request.Submits route)
    (hcaller : request.caller? = some caller) :
    (respond m request).Ends told fun o => ∃ response, o = .ok response ∧
      (response.IsProper ∨ response = ⟨500, none⟩ ∧ Derails m request told route) := by
  rw [respond_of_submits hroute hsubmits]
  refine (ends_serve h hsubmits hcaller).attempt_bind fun outcome houtcome => ?_
  cases outcome with
  | ok response => exact .done ⟨response, rfl, .inl houtcome⟩
  | error fault =>
    obtain ⟨why, rfl⟩ | ⟨id, rfl⟩ | ⟨hforeseen, hcause⟩ := houtcome
    · exact .done ⟨_, rfl, .inl (isProper_failure _ (.inl rfl))⟩
    · exact .done ⟨_, rfl, .inl (isProper_failure _ (.inr (.inr rfl)))⟩
    · dsimp only
      rw [answerFault_of_unforeseen _ _ hforeseen]
      exact .done ⟨_, rfl, .inr ⟨rfl, hcause⟩⟩

/-- A body that is misread is answered without a document. -/
theorem respond_of_misread {route : Route} (hroute : Route.ofPath? (pathOf request.target) = some route)
    (hsubmits : request.Submits route) (hcaller : request.caller? = some caller)
    (hmisread : request.Misread route) : respond m request = pure ⟨500, none⟩ := by
  obtain ⟨fault, hfault, hforeseen⟩ := serve_of_misread (m := m) hsubmits hcaller hmisread
  rw [respond_of_submits hroute hsubmits, hfault]
  exact answerFault_of_unforeseen _ _ hforeseen

/-- And so is a refresh to a time that cannot be compared. -/
theorem commits_respond_clashes {id : String} (hroute : Route.ofPath? (pathOf request.target) = some (.cluster id))
    (hsubmits : request.Submits (.cluster id)) (hcaller : request.caller? = some caller) :
    (respond m request).Commits told Clashes fun o => o = .ok ⟨500, none⟩ := by
  rw [respond_of_submits hroute hsubmits, serve_of_submits hsubmits hcaller]
  refine (commits_refreshCluster_clashes id).attempt_bind (fun outcome => ?_) ?_
  · split
    · exact .done
    · exact (asks_answerFault _ _ _).commits Manager.not_clashes_of_reads
  · rintro _ ⟨fault, rfl, hforeseen⟩
    dsimp only
    rw [answerFault_of_unforeseen _ _ hforeseen]
    exact .done rfl

/--
In surroundings where nothing fails, a request with a body is answered with a document or with what is
wrong with it, whatever the body, unless the serving derails. It does if the body is misread, which is
so before anything is asked, and if there is a lease with whose end no moment can be compared; then
the answer has no text.
-/
theorem submission_answered {σ : Type} {answer : Answerer Manager.interface σ} (m : Manager)
    {request : Request} {route : Route} {caller : Caller} (s : σ)
    (hroute : Route.ofPath? (pathOf request.target) = some route) (hsubmits : request.Submits route)
    (hcaller : request.caller? = some caller)
    (hreliable : ∀ event ∈ (respond m request).events answer s, Reliable event) :
    (∃ response, ((respond m request).run answer s).1 = .ok response ∧ (response.IsProper ∨
      response = ⟨500, none⟩ ∧ Derails m request (· ∈ (respond m request).events answer s) route)) ∧
    (request.Misread route → (respond m request).run answer s = (.ok ⟨500, none⟩, s)) ∧
    ∀ id, route = .cluster id → (∃ event ∈ (respond m request).events answer s, Clashes event) →
      ((respond m request).run answer s).1 = .ok ⟨500, none⟩ := by
  refine ⟨?_, fun hmisread => ?_, ?_⟩
  · -- What is expected of the answers is no more than that they are those of this run.
    exact (ends_respond_of_submits hreliable hroute hsubmits hcaller).run fun _ hevent => hevent
  · rw [respond_of_misread hroute hsubmits hcaller hmisread]
    rfl
  · rintro id rfl ⟨event, hevent, hclashes⟩
    have hcommits : (respond m request).Commits (fun _ => True) Clashes fun o => o = .ok ⟨500, none⟩ :=
      commits_respond_clashes hroute hsubmits hcaller
    exact (hcommits.run fun _ _ => trivial).resolve_left fun hnone => hnone event hevent hclashes

end ClusterLease.Http
