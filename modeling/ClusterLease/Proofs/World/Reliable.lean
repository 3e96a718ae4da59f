import ClusterLease.Proofs.Http.Submission
import ClusterLease.Proofs.World.Growing
import ClusterLease.Proofs.World.Refusal

/-!
Worlds in which nothing fails.

In a world whose plan lets everything succeed and that keeps its leases in memory (`Calm`) all answers
to a request with a body are reliable (`reliable_events`), for an allocation starts and inspects no
containers but those that it has created.
-/

namespace ClusterLease.World

open Manager (Call Reliable)

/-- Nothing goes wrong, with containers or with the DNS service. -/
structure Plan.Untroubled (plan : Plan) : Prop where
  create : ∀ spec, plan.create spec = none
  start : ∀ info, plan.start info = none
  inspect : ∀ info, plan.inspect info = none
  list : plan.list = none
  dns : ∀ request fault, plan.dns request ≠ .error (.other fault)

theorem Plan.smooth_untroubled : smooth.Untroubled where
  create _ := rfl
  start _ := rfl
  inspect _ := rfl
  list := rfl
  dns _ _ h := by cases h

/-- Nothing goes wrong in the world, and its leases are in memory. -/
structure Calm (w : World) : Prop where
  plan : w.plan.Untroubled
  store : ∃ leases, w.store = .memory leases

variable {w : World} {m : Manager} {caller : Caller} {id : String}

/-- A world stays calm, whatever it is asked. -/
theorem Calm.after (h : w.Calm) (call : Call) : (answer call w).2.Calm := by
  obtain ⟨leases, hleases⟩ := h.store
  refine ⟨answer_plan call w ▸ h.plan, ?_⟩
  -- No call turns a store in memory into another kind of store.
  cases call with
  | create spec => exact ⟨leases, (create_store (w.noting (.create spec)) spec).trans hleases⟩
  | start id => exact ⟨leases, (start_store (w.noting (.start id)) id).trans hleases⟩
  | stop id =>
    have hkills : (Call.stop id).Kills := trivial
    have hdwindles : w.Dwindles (World.answer (.stop id) w).2 := dwindles_answer hkills w
    exact ⟨leases, hdwindles.store.trans hleases⟩
  | keepLease id lease =>
    have hmemory := Store.perform_memory w.format leases (Store.keeping id lease)
    rw [← hleases] at hmemory
    exact hmemory
  | fetchLease id => exact ⟨leases, (Store.fetch_store w.format w.store id).trans hleases⟩
  | changeLease id change =>
    have hmemory := Store.perform_memory w.format leases (Store.editing id (.ofChange change))
    rw [← hleases] at hmemory
    exact hmemory
  | _ => exact ⟨leases, hleases⟩

/-- In a calm world every open call is answered reliably. -/
theorem Calm.reliable (h : w.Calm) {call : Call} (hopen : call.IsOpen) :
    Reliable ⟨call, (answer call w).1⟩ := by
  obtain ⟨leases, hleases⟩ := h.store
  -- An untroubled plan has no fault to give, and a store in memory answers from its table.
  cases call with
  | create spec =>
    dsimp only [answer, create, noting]
    rw [h.plan.create]
    trivial
  | list =>
    dsimp only [answer, list]
    rw [h.plan.list]
    trivial
  | put request =>
    dsimp only [answer]
    cases hdns : w.plan.dns request with
    | ok response => trivial
    | error problem =>
      cases problem with
      | unreachable reason => trivial
      | other fault => exact absurd hdns (h.plan.dns request fault)
  | keepLease id lease =>
    dsimp only [answer, withStore]
    rw [hleases, Store.create_memory]
    trivial
  | fetchLease id =>
    dsimp only [answer, withStore]
    rw [hleases, Store.fetch_memory, Leases.require]
    cases leases.get? id with
    | none => exact rfl
    | some lease => trivial
  | changeLease id change =>
    dsimp only [answer, withStore]
    rw [hleases]
    cases hlease : leases.get? id with
    | none =>
      rw [Store.update_memory_of_none hlease]
      exact .inl rfl
    | some lease =>
      rw [Store.update_memory_of_some hlease]
      dsimp only
      cases hchange : change lease with
      | ok changed => exact ⟨lease, hchange⟩
      | error fault => exact .inr ⟨lease, hchange⟩
  | start id | inspect id => exact hopen.elim
  | log | now | freshId | arrange | collect | stop => trivial

/-! ### Runs -/

/-- All answers on the way are reliable, and the world stays calm. -/
structure RunsReliably {α : Type} (p : ManagerM α) (w : World) : Prop where
  proceeds : p.Proceeds answer (fun t call => Reliable ⟨call, (answer call t).1⟩) (fun _ t => t.Calm) w

variable {α β : Type} {p : ManagerM α}

theorem RunsReliably.bind {f : α → ManagerM β} (hp : RunsReliably p w)
    (hf : ∀ value t, t.Calm → RunsReliably (f value) t) : RunsReliably (p >>= f) w :=
  ⟨hp.proceeds.bind (fun value t ht => (hf value t ht).proceeds) fun _ _ h => h⟩

theorem RunsReliably.attempt (hp : RunsReliably p w) : RunsReliably p.attempt w :=
  ⟨Program.Proceeds.attempt hp.proceeds⟩

theorem RunsReliably.events (hp : RunsReliably p w) : ∀ event ∈ p.events answer w, Reliable event :=
  hp.proceeds.events

/-- A program that needs no container to be there is answered reliably. -/
theorem Calm.runs (h : w.Calm) (hp : p.Asks Call.IsOpen) : RunsReliably p w :=
  ⟨hp.proceeds (fun _ _ hcalm hopen => hcalm.reliable hopen) (fun _ call hcalm _ => hcalm.after call) h⟩

theorem Calm.runs_done (h : w.Calm) (outcome : Except Fault α) :
    RunsReliably (Program.ofExcept outcome) w := ⟨h⟩

/-- An open call leaves the world calm for what follows. -/
theorem Calm.runs_ask_bind (h : w.Calm) {call : Call} (hopen : call.IsOpen)
    {f : Manager.interface.Reply call → ManagerM β}
    (hf : ∀ reply t, t.Calm → RunsReliably (f reply) t) : RunsReliably (Manager.ask call >>= f) w :=
  ⟨h.reliable hopen, (hf _ _ (h.after call)).proceeds⟩

theorem Calm.runs_ofExcept_bind (h : w.Calm) {outcome : Except Fault α} {f : α → ManagerM β}
    (hf : ∀ value, RunsReliably (f value) w) : RunsReliably (Program.ofExcept outcome >>= f) w :=
  ⟨Program.proceeds_ofExcept_bind (fun value _ => (hf value).proceeds) fun _ _ => h⟩

theorem Calm.runs_keepLease (h : w.Calm) (id : String) (lease : Lease) :
    RunsReliably (Manager.keepLease id lease) w :=
  h.runs_ask_bind (by trivial) fun _ _ ht => ht.runs_done _

/-! ### Containers -/

theorem held?_putContainer (w : World) (held : Held) :
    ((w.putContainer held).held? held.info.id).isSome := by
  have hfind : (w.putContainer held).held? held.info.id = some held := find_put held w.containers
  rw [hfind]
  rfl

/-- A container that was created is there. -/
theorem Calm.runs_create_bind (h : w.Calm) (spec : Container.Spec) {f : String → ManagerM β}
    (hf : ∀ id t, t.Calm → (t.held? id).isSome → RunsReliably (f id) t) :
    RunsReliably (Manager.create spec >>= f) w := by
  have hcreate : ∃ id, (answer (.create spec) w).1 = .ok id ∧ ((answer (.create spec) w).2.held? id).isSome := by
    dsimp only [answer, create, noting]
    rw [h.plan.create]
    exact ⟨_, rfl, held?_putContainer (w.noting (.create spec)) ⟨⟨_, "created", spec.labels, []⟩, _⟩⟩
  obtain ⟨id, hid, hheld⟩ := hcreate
  have hnext : RunsReliably (Program.ofExcept (answer (.create spec) w).1 >>= f) (answer (.create spec) w).2 := by
    rw [hid]
    exact hf id _ (h.after (.create spec)) hheld
  exact ⟨h.reliable trivial, hnext.proceeds⟩

/-- A container that is there can be started, and stays there. -/
theorem Calm.runs_start_bind (h : w.Calm) (hheld : (w.held? id).isSome) {f : Unit → ManagerM β}
    (hf : ∀ t, t.Calm → (t.held? id).isSome → RunsReliably (f ()) t) :
    RunsReliably (Manager.start id >>= f) w := by
  -- A container that is there is started, and still there.
  have hstart : (answer (.start id) w).1 = .ok () ∧ ((answer (.start id) w).2.held? id).isSome := by
    obtain ⟨held, hheld⟩ := Option.isSome_iff_exists.1 hheld
    obtain rfl : held.info.id = id := by simpa using List.find?_some hheld
    have hnoting : (w.noting (.start held.info.id)).held? held.info.id = some held := hheld
    dsimp only [answer, start]
    rw [hnoting]
    dsimp only [noting]
    rw [h.plan.start]
    exact ⟨rfl, held?_putContainer (w.noting (.start held.info.id)) { held with
      info := { held.info with state := "running", networks := held.whenStarted } }⟩
  obtain ⟨hreply, hstarted⟩ := hstart
  have hreliable : Reliable ⟨.start id, (answer (.start id) w).1⟩ := by
    rw [hreply]
    trivial
  have hnext : RunsReliably (Program.ofExcept (answer (.start id) w).1 >>= f) (answer (.start id) w).2 := by
    rw [hreply]
    exact hf _ (h.after (.start id)) hstarted
  exact ⟨hreliable, hnext.proceeds⟩

/-- Inspecting is reliable only of a container that is there. -/
theorem Calm.runs_inspect_bind (h : w.Calm) (hheld : (w.held? id).isSome)
    {f : Container.Networks → ManagerM β} (hf : ∀ networks t, t.Calm → RunsReliably (f networks) t) :
    RunsReliably (Manager.inspect id >>= f) w := by
  have hinspect : ∃ networks, (answer (.inspect id) w).1 = .ok networks := by
    obtain ⟨held, hheld⟩ := Option.isSome_iff_exists.1 hheld
    dsimp only [answer, inspect]
    rw [hheld]
    dsimp only
    rw [h.plan.inspect]
    exact ⟨_, rfl⟩
  obtain ⟨networks, hreply⟩ := hinspect
  have hreliable : Reliable ⟨.inspect id, (answer (.inspect id) w).1⟩ := by
    rw [hreply]
    trivial
  have hnext : RunsReliably (Program.ofExcept (answer (.inspect id) w).1 >>= f) (answer (.inspect id) w).2 := by
    rw [hreply]
    exact hf networks _ (h.after (.inspect id))
  exact ⟨hreliable, hnext.proceeds⟩

/-- A node starts and inspects its own container only. -/
theorem Calm.runs_allocateNode (h : w.Calm) (expiry : Moment) (node : NodeDemand) :
    RunsReliably (m.allocateNode caller id expiry node) w := by
  refine h.runs_ask_bind (by trivial) fun _ w h => ?_
  refine h.runs_ofExcept_bind fun version => h.runs_ask_bind (by trivial) fun _ w h => ?_
  refine h.runs_create_bind _ fun container w h hheld => ?_
  refine h.runs_start_bind hheld fun w h hheld => h.runs_inspect_bind hheld fun networks w h => ?_
  exact (h.runs ((m.asks_registerNode _ networks).mono fun _ => Call.Registers.isOpen)).bind fun _ w h => ⟨h⟩

/-- An allocation inspects nothing but what it has just created, so that it runs reliably. -/
theorem Calm.runs_allocate (h : w.Calm) (wanted : ClusterDemand) :
    RunsReliably (m.allocate caller wanted) w := by
  refine h.runs_ask_bind (by trivial) fun _ w h => h.runs_ofExcept_bind fun nodes => ?_
  refine h.runs_ask_bind (by trivial) fun fresh w h => h.runs_ask_bind (by trivial) fun now w h => ?_
  refine h.runs_ofExcept_bind fun length => h.runs_ofExcept_bind fun expiry => ?_
  refine (h.runs_keepLease _ _).bind fun _ w h => ?_
  -- The tasks need nothing but calm of the world that they begin in, which each one leaves behind.
  have htasks (id label : String) : RunsReliably (Manager.fanOut label NodeDemand.shown
      (fun node => do let _ ← m.allocateNode caller id expiry node) nodes) w := by
    refine ⟨(Manager.proceeds_fanOut (fun _ t => t.Calm) (fun _ => True) ?_ ?_ fun _ _ => h).imp
      fun _ _ hgoal => hgoal.1⟩
    · intro _ call t hroutine ht
      exact ⟨ht.reliable hroutine.kills.isOpen, ht.after call⟩
    · intro node _ t ht
      have htask : RunsReliably (do let _ ← m.allocateNode caller id expiry node : ManagerM Unit) t :=
        (ht.runs_allocateNode expiry node).bind fun _ t ht => ⟨ht⟩
      exact htask.proceeds.imp fun _ _ ht => ⟨ht, trivial⟩
  refine (htasks _ _).bind fun fault? w h => ?_
  cases fault? with
  | none => exact h.runs_ask_bind (by trivial) fun _ w h => ⟨h⟩
  | some fault =>
    exact (h.runs ((m.asks_cleanUp caller _).mono fun _ => Call.Kills.isOpen)).bind fun _ w h => ⟨h⟩

theorem Calm.runs_refresh (h : w.Calm) (extension : Duration) :
    RunsReliably (m.refresh caller id extension) w := by
  refine h.runs_ask_bind (by trivial) fun _ w h => ?_
  refine (h.runs ((m.asks_cluster caller id).mono fun _ hreads => hreads.kills.isOpen)).bind fun _ w h => ?_
  refine h.runs_ask_bind (by trivial) fun now w h => ?_
  split
  · exact ⟨h⟩
  · refine h.runs_ask_bind (by trivial) fun reply w h => ?_
    split
    · exact ⟨h⟩
    · exact (h.runs_keepLease _ _).bind fun _ w h => ⟨h⟩
    · exact ⟨h⟩

/-! ### Requests with a body -/

open Http (respond serve)

variable {request : Http.Request} {route : Http.Route}

theorem Calm.runs_serve (h : w.Calm) (hsubmits : request.Submits route)
    (hcaller : request.caller? = some caller) :
    RunsReliably (serve m request request.methodName route) w := by
  have hsucceed (document : Value) {t : World} (ht : t.Calm) : RunsReliably (Http.succeed document) t :=
    ht.runs ((Http.asks_succeed document).mono fun _ hreads => hreads.kills.isOpen)
  rw [Http.serve_of_submits hsubmits hcaller]
  -- Both submissions end with a response that only reads, after an operation that runs reliably.
  split
  · unfold Http.refreshCluster
    split
    · exact ⟨h⟩
    · refine h.runs_ofExcept_bind fun extension => (h.runs_refresh extension).bind fun lease w h => ?_
      exact h.runs_ofExcept_bind fun entry => hsucceed entry h
  · unfold Http.createCluster
    split
    · exact ⟨h⟩
    · refine h.runs_ofExcept_bind fun wanted => (h.runs_allocate wanted).bind fun id w h => ?_
      exact hsucceed _ h

/-- Responding to a submission runs reliably. -/
theorem Calm.runs_respond (h : w.Calm) (hroute : Http.Route.ofPath? (Http.pathOf request.target) = some route)
    (hsubmits : request.Submits route) (hcaller : request.caller? = some caller) :
    RunsReliably (respond m request) w := by
  rw [Http.respond_of_submits hroute hsubmits]
  refine (h.runs_serve hsubmits hcaller).attempt.bind fun outcome w h => ?_
  cases outcome with
  | ok response => exact ⟨h⟩
  | error fault => exact h.runs ((Http.asks_answerFault _ _ fault).mono fun _ hreads => hreads.kills.isOpen)

/-- All answers to a request with a body are reliable in a calm world. -/
theorem reliable_events (h : w.Calm) (hroute : Http.Route.ofPath? (Http.pathOf request.target) = some route)
    (hsubmits : request.Submits route) (hcaller : request.caller? = some caller) :
    ∀ event ∈ (respond m request).events answer w, Reliable event :=
  (h.runs_respond hroute hsubmits hcaller).events

namespace Sample

/-- A world without containers and leases, in which nothing goes wrong. -/
def calm : World := initial Plan.smooth .yaml newYear

theorem calm_calm : calm.Calm := ⟨Plan.smooth_untroubled, [], rfl⟩

/-- Someone asks for clusters with a body of JSON. -/
def submission (body : String) : Http.Request :=
  ⟨"POST", "/clusters", [("X-Dyncluster-User", "ann")], "application/json", Text.utf8 body⟩

/-- A node for an hour. -/
def single : Http.Request :=
  submission "\x7b\"timeout\": \"1h\", \"nodes\": [\x7b\"server_version\": \"7.0.1\"\x7d]\x7d"

/-- A timeout of a superscript two. -/
def squared : Http.Request := submission "\x7b\"timeout\": \"²\"\x7d"

theorem misread_squared : squared.Misread .clusters := by
  have hobject : squared.object? = some [(.text "timeout", .text "²")] := by decide +kernel
  have hdigits : Duration.unsigned (.text "²") = ['²'] := by decide +kernel
  refine ⟨_, hobject, .text "²", by decide +kernel, .inr ⟨⟨[], rfl⟩, ?_⟩⟩
  show Duration.NoNumber (Duration.unsigned (.text "²"))
  rw [hdigits]
  have hloose : Text.isDecimal '²' = false := by decide +kernel
  have hdigit : Text.isDigit '²' := by
    rw [Text.isDigit, hloose]
    decide +kernel
  exact ⟨List.cons_ne_nil _ _, List.forall_mem_singleton.2 hdigit,
    .inl ⟨'²', List.mem_singleton_self _, by rw [hloose]; exact Bool.false_ne_true⟩⟩

end Sample

open Sample Http in
/-- A node for an hour is allocated, and a superscript two is misread. -/
theorem submission_answered_of_calm :
    (∃ response, ((respond manager single).run answer calm).1 = .ok response ∧ response.status = 200 ∧
      response.IsProper) ∧
    (respond manager squared).run answer calm = (.ok ⟨500, none⟩, calm) := by
  have hroute : Route.ofPath? (pathOf "/clusters") = some .clusters := by decide +kernel
  have hpost : "POST".toUpper = "POST" := by decide +kernel
  have hann : single.caller? = some ann ∧ squared.caller? = some ann := by decide +kernel
  have hanswered (request : Request) (hroute : Route.ofPath? (pathOf request.target) = some .clusters)
      (hsubmits : request.Submits .clusters) (hcaller : request.caller? = some ann) :=
    submission_answered manager calm hroute hsubmits hcaller (reliable_events calm_calm hroute hsubmits hcaller)
  constructor
  · obtain ⟨⟨response, hresponse, hanswer⟩, -⟩ := hanswered single hroute hpost hann.1
    -- That a response is given is the general result; only its status is computed.
    have hstatus : ((respond manager single).run answer calm).1.toOption.map (·.status) = some 200 := by
      decide +kernel
    rw [hresponse] at hstatus
    have hok : response.status = 200 := Option.some.inj hstatus
    refine ⟨response, hresponse, hok, hanswer.resolve_right ?_⟩
    rintro ⟨rfl, -⟩
    cases hok
  · exact (hanswered squared hroute hpost hann.2).2.1 misread_squared

open Sample Http in
/-- Of a superscript two nobody is told what is wrong with it. -/
theorem squared_answered_without_text : calm.Calm ∧ squared.caller? = some ann ∧
    ∃ response, ((respond manager squared).run answer calm).1 = .ok response ∧ ¬response.IsProper := by
  have hroute : Route.ofPath? (pathOf "/clusters") = some .clusters := by decide +kernel
  have hpost : "POST".toUpper = "POST" := by decide +kernel
  have hann : squared.caller? = some ann := by decide +kernel
  have hanswer : respond manager squared = pure ⟨500, none⟩ :=
    respond_of_misread hroute hpost hann misread_squared
  refine ⟨calm_calm, hann, ⟨500, none⟩, hanswer ▸ rfl, ?_⟩
  rintro (⟨hok, -⟩ | ⟨status, text, hclient, heq⟩)
  · cases hok
  · cases heq

end ClusterLease.World
