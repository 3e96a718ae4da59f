import Mathlib.Data.List.TakeWhile
import ClusterLease.Http.Service
import ClusterLease.Proofs.Json.Plain
import ClusterLease.Proofs.Manager.Refusal
import ClusterLease.Proofs.Program.Lawful

/-!
Requests that are refused have no effect.

A request that names no user is answered before anything is asked. For all others `commits_respond`
says that once something was altered, the answer has no status of a refusal: so an answer with one
means that no container was touched and no lease was changed (`refused_without_effect`), whatever
runtimes, stores and DNS services do.
-/

namespace ClusterLease.Http

open Manager (Alters Expected)
open Program (Fails)

variable {m : Manager} {caller : Caller} {request : Request}

/-- What alters nothing spares the containers. -/
theorem sparesContainers_of_not_alters {event : Event Manager.interface} (h : ¬Alters event) :
    event.call.SparesContainers := by
  obtain ⟨call, reply⟩ := event
  cases call <;> first | trivial | exact h trivial

/-- The statuses of refusals. On the routes of single clusters all client errors are refusals. -/
def Refuses (route : Route) (status : Nat) : Prop :=
  status = 400 ∨ status = 401 ∨ ∃ id, route = .cluster id ∧ (status = 403 ∨ status = 404)

/-- How the serving of a route may end late: it goes well, or breaks down. Where many clusters are
concerned it may also fail over one of them. -/
def Late (route : Route) (outcome : Except Fault Response) : Prop :=
  match outcome with
  | .ok response => response.status = 200
  | .error fault => match route with
    | .cluster _ => fault.IsBreakdown
    | _ => ¬fault.IsRejection

/-- A breakdown may come at any time. -/
theorem late_of_breakdown {route : Route} {fault : Fault} (h : fault.IsBreakdown) :
    Late route (.error fault) := by
  cases route <;> first | exact h | exact h.not_isRejection

/-- An answer is late as soon as a document can be written or not. -/
theorem ends_succeed (route : Route) (document : Value) :
    (succeed document).Ends Expected (Late route) := by
  refine Program.Ends.bind (Program.ends_ofExcept (Json.fails_plain document)) (fun plain _ => .done rfl) ?_
  exact fun fault h => late_of_breakdown (Fault.isBreakdown_of_unforeseen (Program.fails_error.1 h))

theorem asks_succeed (document : Value) : (succeed document).Asks Manager.Call.Reads :=
  (Program.asks_ofExcept _ _).bind fun _ => Program.asks_pure _ _

/-- Listing clusters only reads. -/
theorem asks_listClusters : (listClusters m caller).Asks Manager.Call.Reads := by
  refine (m.asks_clusters caller).bind fun clusters => ?_
  refine Program.Asks.bind (Program.asks_ofExcept _ _) fun documents => ?_
  exact asks_succeed _

/-- So does showing one. -/
theorem asks_showCluster (id : String) : (showCluster m caller id).Asks Manager.Call.Reads := by
  refine (m.asks_cluster caller id).bind fun cluster => ?_
  refine Program.Asks.bind (Program.asks_ofExcept _ _) fun document => ?_
  exact asks_succeed document

/-- Before a cluster is created all that can be refused has been, and what fails later is no refusal. -/
theorem commits_createCluster :
    (createCluster m caller request).Commits Expected Alters (Late .clusters) := by
  unfold createCluster
  split
  · exact .done
  · refine Program.commits_ofExcept_bind fun wanted _ => ?_
    exact (Manager.commits_allocate wanted).bind_ends (fun id => ends_succeed _ _)
      fun _ => Program.fails_error.1

/-- Killing all clusters is refused to no one. -/
theorem ends_killClusters : (killClusters m caller).Ends Expected (Late .clusters) :=
  Manager.ends_killAll.bind (fun _ _ => ends_succeed _ _) fun _ => Program.fails_error.1

/-- A lease without an entry is a mishap, never a refusal. -/
theorem fails_toEntry (lease : Lease) : Fails Json.Unforeseen lease.toEntry := by
  refine Program.Fails.map ?_ _
  unfold Lease.expiryText
  split <;> first | exact Program.fails_ok _ _ | exact Program.fails_error.2 rfl

/-- A refresh that is refused has changed no lease. -/
theorem commits_refreshCluster (id : String) :
    (refreshCluster m caller id request).Commits Expected Alters (Late (.cluster id)) := by
  unfold refreshCluster
  split
  · exact .done
  · refine Program.commits_ofExcept_bind fun extension _ => ?_
    refine (Manager.commits_refresh id extension).bind_ends (fun lease => ?_) fun _ ⟨_, h⟩ => by cases h
    refine Program.Ends.bind (Program.ends_ofExcept (fails_toEntry lease)) (fun entry _ => ends_succeed _ _) ?_
    exact fun fault h => Fault.isBreakdown_of_unforeseen (Program.fails_error.1 h)

/-- A kill that is refused has stopped nothing. -/
theorem commits_killCluster (id : String) :
    (killCluster m caller id).Commits Expected Alters (Late (.cluster id)) :=
  (Manager.commits_kill id).bind_ends (fun _ => ends_succeed _ _) fun _ => Program.fails_error.1

/-- On every route a refusal comes before the first change. -/
theorem commits_serveCaller (method : String) {route : Route}
    (hroute : route = .clusters ∨ ∃ id, route = .cluster id) :
    (serveCaller m caller request method route).Commits Expected Alters (Late route) := by
  rcases hroute with rfl | ⟨id, rfl⟩
  · dsimp only [serveCaller]
    split
    · exact commits_createCluster
    · split
      · exact ends_killClusters.commits
      · exact asks_listClusters.commits Manager.not_alters_of_reads
  · dsimp only [serveCaller]
    split
    · exact commits_refreshCluster id
    · split
      · exact commits_killCluster id
      · exact (asks_showCluster id).commits Manager.not_alters_of_reads

/-- The same without a caller, who is refused at once. -/
theorem commits_serve (method : String) (route : Route) :
    (serve m request method route).Commits Expected Alters (Late route) := by
  cases route with
  | version => exact (ends_succeed _ _).commits
  | files => exact .done
  | clusters =>
    dsimp only [serve]
    split
    · exact .done
    · exact commits_serveCaller method (.inl rfl)
  | cluster id =>
    dsimp only [serve]
    split
    · exact .done
    · exact commits_serveCaller method (.inr ⟨id, rfl⟩)

/-! ### Answers -/

/-- The status under which a fault is answered. -/
def answerStatus (fault : Fault) : Nat := if fault.isForeseen then statusOf fault else 500

/-- A fault becomes a response with the status of the fault. -/
theorem ends_answerFault {expected : Event Manager.interface → Prop} (method path : String) (fault : Fault) :
    (answerFault method path fault).Ends expected
      fun o => ∃ response, o = .ok response ∧ response.status = answerStatus fault := by
  unfold answerFault answerStatus
  split
  · dsimp only
    split
    · exact .ask fun _ _ => .done ⟨_, rfl, rfl⟩
    · exact .done ⟨_, rfl, rfl⟩
  · exact .done ⟨_, rfl, rfl⟩

/-- Answering a fault only logs. -/
theorem asks_answerFault (method path : String) (fault : Fault) :
    (answerFault method path fault).Asks Manager.Call.Reads := by
  unfold answerFault
  split
  · dsimp only
    split
    · exact (Manager.asks_ask trivial).bind fun _ => Program.asks_pure _ _
    · exact Program.asks_pure _ _
  · exact Program.asks_pure _ _

/-- A fault that comes late is not answered as a refusal. -/
theorem not_refuses_of_late {route : Route} {fault : Fault} (h : Late route (.error fault)) :
    ¬Refuses route (answerStatus fault) := by
  have hrejection : ¬fault.IsRejection := by
    cases route <;> first | exact h | exact Fault.IsBreakdown.not_isRejection h
  rintro (h400 | h401 | ⟨id, rfl, hclient⟩)
  · cases fault with
    | rejected why => exact hrejection trivial
    | _ => cases h400
  · cases fault <;> cases h401
  · -- A breakdown is nobody's fault, least of all the client's.
    have hbroken : answerStatus fault = 500 := by cases fault <;> first | rfl | cases h
    rw [hbroken] at hclient
    rcases hclient with hclient | hclient <;> cases hclient

/-- The status refuses a request, on the route that its target names. -/
def Refusal (request : Request) (status : Nat) : Prop :=
  status = 400 ∨ status = 401 ∨
    ∃ id, Route.ofPath? (pathOf request.target) = some (.cluster id) ∧ (status = 403 ∨ status = 404)

/-- Only known paths are served. -/
theorem decide_serve {method path : String} {route : Route} (h : Route.decide method path = .serve route) :
    Route.ofPath? path = some route := by
  unfold Route.decide at h
  split at h
  · next found hfound =>
    split at h
    · rw [hfound, Route.Decision.serve.inj h]
    · split at h <;> cases h
  · split at h
    · split at h <;> cases h
    · cases h

/-- What is refused on no route is no refusal. -/
theorem not_refusal_of_serve {status : Nat} {route : Route}
    (hroute : Route.decide request.methodName (pathOf request.target) = .serve route)
    (h : ¬Refuses route status) : ¬Refusal request status := by
  rintro (h400 | h401 | ⟨id, hid, hclient⟩)
  · exact h (.inl h400)
  · exact h (.inr (.inl h401))
  · rw [decide_serve hroute, Option.some_inj] at hid
    exact h (.inr (.inr ⟨id, hid, hclient⟩))

/-- Once something was altered, a request is not refused any more. -/
theorem commits_answer : (answer m request).Commits Expected Alters
    fun o => ∃ response, o = .ok response ∧ ¬Refusal request response.status := by
  unfold answer
  dsimp only
  cases hdecide : Route.decide request.methodName (pathOf request.target) with
  | serve route =>
    refine (commits_serve _ _).attempt_bind (fun outcome => ?_) fun outcome hlate => ?_
    · split
      · exact .done
      · exact (asks_answerFault _ _ _).commits Manager.not_alters_of_reads
    · split
      · next response =>
        have hstatus : response.status = 200 := hlate
        exact .done ⟨response, rfl, by simp [Refusal, hstatus]⟩
      · refine (ends_answerFault _ _ _).imp ?_
        rintro _ ⟨response, rfl, hstatus⟩
        exact ⟨response, rfl, not_refusal_of_serve hdecide (hstatus ▸ not_refuses_of_late hlate)⟩
  | _ => exact .done

/-- Every response other than a refusal may come after a change, and no refusal does. -/
theorem commits_respond : (respond m request).Commits Expected Alters
    fun o => ∃ response, o = .ok response ∧ ¬Refusal request response.status := by
  refine commits_answer.bind (fun _ => .done) ?_ fun _ ⟨_, h, _⟩ => by cases h
  rintro _ ⟨response, ⟨⟩, hstatus⟩
  refine .done ⟨_, rfl, ?_⟩
  split <;> exact hstatus

/-- Every request is answered, whatever the surroundings do. -/
theorem ends_respond : (respond m request).Ends (fun _ => True) fun o => ∃ response, o = .ok response := by
  have hanswer : (answer m request).Ends (fun _ => True) fun o => ∃ response, o = .ok response := by
    unfold answer
    dsimp only
    split
    · refine Program.Ends.attempt_bind (Program.ends_of_forall (fun _ => trivial) _) fun outcome _ => ?_
      · split
        · exact .done ⟨_, rfl⟩
        · exact (ends_answerFault _ _ _).imp fun _ ⟨response, h, _⟩ => ⟨response, h⟩
    all_goals exact .done ⟨_, rfl⟩
  exact hanswer.bind (fun _ _ => .done ⟨_, rfl⟩) fun _ ⟨_, h⟩ => by cases h

/-! ### Nobody -/

namespace Request

/-- The values of a header, one for each time that it comes. -/
def values (request : Request) (name : String) : List String :=
  request.headers.filterMap fun (key, value) => if headerKey key = headerKey name then some value else none

/-- The request names nobody: the header of the user is absent or blank. -/
def Anonymous (request : Request) : Prop :=
  request.values userHeader = [] ∨ ∃ blank, Text.isAllBlank blank ∧ request.values userHeader = [blank]

/-- Nothing is left of a blank header. -/
theorem strip_of_isAllBlank {s : String} (h : Text.isAllBlank s) : Text.strip s = "" := by
  have hdropped : s.toList.dropWhile Text.isBlank = [] := by
    rw [List.dropWhile_eq_nil_iff]
    exact List.all_eq_true.1 h
  rw [Text.strip, Text.trim, hdropped]
  rfl

/-- Without a name in the header there is no caller. -/
theorem caller?_of_anonymous (h : request.Anonymous) : request.caller? = none := by
  have hheader : request.header userHeader = Text.strip (", ".intercalate (request.values userHeader)) := rfl
  have hnobody : request.header userHeader = "" := by
    rw [hheader]
    obtain hnone | ⟨blank, hblank, hone⟩ := h
    · rw [hnone]
      rfl
    · rw [hone]
      exact strip_of_isAllBlank hblank
  rw [caller?, hnobody]
  rfl

end Request

/-- The answer to nobody. -/
def unauthorized (request : Request) : Response :=
  if request.methodName = "HEAD" then ⟨401, none⟩ else failure 401 s!"missing {Request.userHeader} header"

/-- Nobody is answered at once, whatever the body. -/
theorem respond_of_anonymous {route : Route} (hroute : Route.ofPath? (pathOf request.target) = some route)
    (hcaller : route = .clusters ∨ ∃ id, route = .cluster id) (hmethod : request.methodName ∈ route.methods)
    (hanonymous : request.Anonymous) : respond m request = pure (unauthorized request) := by
  have hdecide : Route.decide request.methodName (pathOf request.target) = .serve route := by
    rw [Route.decide, hroute]
    simp [hmethod]
  have hnobody := Request.caller?_of_anonymous hanonymous
  have hserve : serve m request request.methodName route =
      pure (failure 401 s!"missing {Request.userHeader} header") := by
    rcases hcaller with rfl | ⟨id, rfl⟩
    all_goals
      dsimp only [serve]
      rw [hnobody]
  have hanswer : answer m request = pure (failure 401 s!"missing {Request.userHeader} header") := by
    unfold answer
    dsimp only
    rw [hdecide]
    dsimp only
    rw [hserve]
    rfl
  unfold respond
  rw [hanswer, pure_bind]
  rfl

/--
A request that is refused has no effect: no container was asked for, started or stopped, and no record
changed, if only alterations change records. A request that names nobody is refused on every route that
needs a caller before anything is asked.
-/
theorem refused_without_effect {σ ρ : Type} {answer : Answerer Manager.interface σ} {record : σ → ρ}
    (m : Manager) (request : Request) (s : σ)
    (hexpected : ∀ event ∈ (respond m request).events answer s, Expected event)
    (hrecord : ∀ call s, ¬Alters ⟨call, (answer call s).1⟩ → record (answer call s).2 = record s) :
    (∃ response, ((respond m request).run answer s).1 = .ok response ∧
      (Refusal request response.status →
        (∀ event ∈ (respond m request).events answer s, event.call.SparesContainers) ∧
        record ((respond m request).run answer s).2 = record s)) ∧
    ∀ route, Route.ofPath? (pathOf request.target) = some route →
      (route = .clusters ∨ ∃ id, route = .cluster id) → request.methodName ∈ route.methods →
      request.Anonymous → (respond m request).run answer s = (.ok (unauthorized request), s) := by
  constructor
  · have hresponds : ∃ response, ((respond m request).run answer s).1 = .ok response :=
      ends_respond.run fun _ _ => trivial
    obtain ⟨response, hresponse⟩ := hresponds
    refine ⟨response, hresponse, fun hrefusal => ?_⟩
    rcases commits_respond.run hexpected with hnone | ⟨other, hother, hnot⟩
    · exact ⟨fun event hevent => sparesContainers_of_not_alters (hnone event hevent),
        Program.run_unaltered hrecord hnone⟩
    · obtain rfl : response = other := Except.ok.inj (hresponse.symm.trans hother)
      exact absurd hrefusal hnot
  · intro route hroute hcaller hmethod hanonymous
    rw [respond_of_anonymous hroute hcaller hmethod hanonymous]
    rfl

end ClusterLease.Http
