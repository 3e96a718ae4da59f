import ClusterLease.Proofs.Manager.Sight

/-!
Who may touch containers, whatever the surroundings answer.

A container is stopped only if the latest listing says that it belongs to the cluster that is being
killed, and, for callers with regard for ownership, only if that cluster was created by the caller
and the lease that was read of it since that listing is the caller's. Containers are created only by
an allocation, and all of them carry the caller and the id that was drawn for it
(`operation_permitted`).
-/

namespace ClusterLease

/-- A value has a text just if it is one. -/
theorem Value.text?_eq_some_iff {v : Value} {s : String} : v.text? = some s ↔ v = .text s := by
  cases v <;> simp [Value.text?]

namespace Manager

open Container (Info)

/-- What was seen of a container and of its cluster allows a caller to stop it. -/
structure Authorized (caller : Caller) (id container : String) (past : List (Event interface))
    (listing : List Info) : Prop where
  latest : lastListing past = some (.ok listing)
  listed : ∃ info ∈ listing, info.id = container ∧ Cluster.idOf? info = some id
  created : caller.ignoresOwnership = false → (Cluster.groupOf listing id).creator = caller.user
  owned : caller.ignoresOwnership = false →
    ∃ lease, leaseRead id past = some (.ok lease) ∧ lease.owner = .text caller.user

/-- The cluster id that is made from a text that was drawn. -/
def drawn? : Event interface → Option String
  | ⟨.freshId, fresh⟩ => some (String.ofList (fresh.toList.take idLength))
  | _ => none

/-- The clusters whose containers an operation may stop. -/
def Operation.Targets (caller : Caller) (id : String) (past : List (Event interface)) :
    Operation → Prop
  | .allocate _ => first drawn? past = some id
  | .kill target => id = target
  | .killAll => ∃ listing, first listing? past = some (.ok listing) ∧ id ∈ Cluster.ids listing ∧
      sees caller (Cluster.groupOf listing id) = true
  | .clusters | .cluster _ | .refresh .. => False

/-- What an operation may do to containers after some events. -/
def Operation.Permits (operation : Operation) (caller : Caller) (past : List (Event interface)) :
    Call → Prop
  | .create spec => ∃ wanted id, operation = .allocate wanted ∧ first drawn? past = some id ∧
      spec.labels.get? Container.creatorLabel = some caller.user ∧
      spec.labels.get? Container.clusterLabel = some id
  | .start _ => ∃ wanted, operation = .allocate wanted
  | .stop container => ∃ id listing, operation.Targets caller id past ∧
    Authorized caller id container past listing
  | _ => True

/-- The containers that were asked to stop. -/
def stops (events : List (Event interface)) : List String := events.filterMap fun event =>
  match event.call with
  | .stop container => some container
  | _ => none

/-- What spares containers needs no permission. -/
theorem Operation.permits_of_sparesContainers (operation : Operation) (caller : Caller)
    (past : List (Event interface)) {call : Call} (h : call.SparesContainers) :
    operation.Permits caller past call := by
  cases call <;> trivial

/-! ### Killing -/

/-- What a kill asks when its cluster has been found. -/
def Call.Stops : Call → Prop
  | .log _ | .arrange .. | .collect .. | .stop _ => True
  | _ => False

theorem Call.IsRoutine.stops {call : Call} (h : call.IsRoutine) : call.Stops := by
  cases call <;> trivial

/-- Stopping containers leaves everyone as authorized as before. -/
theorem Authorized.cons {caller : Caller} {id container : String} {past : List (Event interface)}
    {listing : List Info} {event : Event interface} (hstops : event.call.Stops)
    (h : Authorized caller id container past listing) :
    Authorized caller id container (event :: past) listing := by
  obtain ⟨call, reply⟩ := event
  -- A stop is no listing, and neither reads nor changes a lease.
  have hlisting : lastListing (⟨call, reply⟩ :: past) = lastListing past := by
    cases call <;> first | rfl | exact hstops.elim
  have hlease : leaseRead id (⟨call, reply⟩ :: past) = leaseRead id past := by
    cases call <;> first | rfl | exact hstops.elim
  exact ⟨hlisting.trans h.latest, h.listed, h.created, hlease ▸ h.owned⟩

/-- A caller who may kill a cluster that is shown is authorized to stop all of its nodes. -/
theorem Shown.authorized {m : Manager} {caller : Caller} {listing : List Info}
    {now : List (Event interface)} {cluster : Cluster} (h : Shown m caller listing now cluster)
    (hlisting : lastListing now = some (.ok listing)) (hmay : mayKill caller cluster = true)
    {node : Node} (hnode : node ∈ cluster.nodes) :
    Authorized caller cluster.id node.containerId now listing := by
  obtain ⟨lease, hcluster, -, hsees, hlease⟩ := h
  refine ⟨hlisting, ?_, fun hregards => ?_, fun hregards => ?_⟩
  · rw [hcluster] at hnode
    obtain ⟨info, hinfo, rfl⟩ := List.mem_map.1 hnode
    obtain ⟨hlisted, hid⟩ := Cluster.mem_containers_groupOf.1 hinfo
    exact ⟨info, hlisted, rfl, hid⟩
  · simpa [sees, hregards] using hsees
  · have hcreator : (Cluster.groupOf listing cluster.id).creator = caller.user := by
      simpa [sees, hregards] using hsees
    have howner : cluster.owner.text? = some caller.user := by simpa [mayKill, hregards] using hmay
    cases lease with
    | none =>
      -- Without a lease the owner is empty, but no creator is.
      have hempty : cluster.owner = .text "" := by rw [hcluster]; rfl
      rw [hempty, Value.text?_eq_some_iff, Value.text.injEq, ← hcreator] at howner
      exact absurd howner.symm (Cluster.Group.creator_ne_empty _)
    | some l =>
      have hl : cluster.owner = l.owner := by rw [hcluster]; rfl
      rw [hl, Value.text?_eq_some_iff] at howner
      exact ⟨l, hlease l rfl, howner⟩

/-- A fact about the events so far that no later event undoes. -/
def Persists (Fact : List (Event interface) → Prop) : Prop :=
  ∀ past now, past <:+ now → Fact past → Fact now

variable {rule : List (Event interface) → Call → Prop} {Fact : List (Event interface) → Prop}
    {m : Manager}
  {caller : Caller} {past : List (Event interface)}

/-- A fact that stays true allows what it allowed. -/
theorem steady_of_persists {kind : Call → Prop} (hpersists : Persists Fact)
    (hallowed : ∀ call, kind call → ∀ now, rule now call) : Program.Steady kind rule Fact :=
  ⟨fun hkind _ => hallowed _ hkind _, fun _ hnow => hpersists _ _ (List.suffix_cons _ _) hnow⟩

/-- A fault that a runtime answered a stop with. -/
def StopFault (fault : Fault) (now : List (Event interface)) : Prop :=
  ∃ container, (⟨.stop container, .error fault⟩ : Event interface) ∈ now

/-- Stopping one container, for which the caller is authorized. Its fault is the runtime's. -/
theorem upholds_killNode {container : String}
    (hother : ∀ now call, call.SparesContainers → rule now call)
    {Inv : List (Event interface) → Prop} (hstop : ∀ now, Inv now → rule now (.stop container))
    (hinv : ∀ now (event : Event interface), event.call.Stops → Inv now → Inv (event :: now))
    (h : Inv past) :
    (killNode caller container).Upholds rule
      (fun o now => Inv now ∧ ∀ fault, o = .error fault → StopFault fault now) past := by
  refine upholds_log_bind (hother _ _ trivial) fun now hnow => ?_
  -- The invariant has to pass the line of the log before the stop, and is looked at after each answer to it.
  have hlogged : Inv now := hnow ▸ hinv past ⟨.log _, ()⟩ trivial h
  refine upholds_ask_bind.2 ⟨hstop _ hlogged, fun reply => ?_⟩
  have hstopped := hinv _ ⟨.stop container, reply⟩ trivial hlogged
  split
  · exact ⟨hstopped, fun _ h => by cases h⟩
  · refine ⟨hother _ _ trivial, fun _ => ⟨hinv _ ⟨.log _, ()⟩ trivial hstopped, ?_⟩⟩
    rintro _ ⟨⟩
  · refine ⟨hstopped, ?_⟩
    rintro _ ⟨⟩
    exact ⟨container, List.mem_cons_self⟩

/-- The caller is authorized to stop all of some nodes, and the fact that the rule needs besides
still holds. -/
def Cleared (Fact : List (Event interface) → Prop) (caller : Caller) (id : String)
    (listing : List Info) (nodes : List Node) (now : List (Event interface)) : Prop :=
  Fact now ∧ ∀ node ∈ nodes, Authorized caller id node.containerId now listing

/-- Further events do not undo a clearance. -/
theorem Cleared.cons {id : String} {listing : List Info} {nodes : List Node}
    {event : Event interface} (hpersists : Persists Fact) (hstops : event.call.Stops)
    (h : Cleared Fact caller id listing nodes past) :
    Cleared Fact caller id listing nodes (event :: past) :=
  ⟨hpersists _ _ (List.suffix_cons _ _) h.1, fun node hnode => (h.2 node hnode).cons hstops⟩

/-- Stopping nodes for all of which the caller is authorized. -/
theorem upholds_stopNodes {id label : String} {listing : List Info} {nodes : List Node}
    (hother : ∀ now call, call.SparesContainers → rule now call) (hpersists : Persists Fact)
    (hstop : ∀ now container, Fact now → Authorized caller id container now listing →
      rule now (.stop container))
    (h : Cleared Fact caller id listing nodes past) :
    (fanOut label Node.shown (fun node => killNode caller node.containerId) nodes).Upholds rule
      (fun o now => ∃ fault?, o = .ok fault? ∧ ∀ fault, fault? = some fault →
        StopFault fault now) past := by
  have hsteady : Program.Steady Call.IsRoutine rule (Cleared Fact caller id listing nodes) :=
    ⟨fun hkind _ => hother _ _ hkind.sparesContainers, fun hkind hnow =>
      hnow.cons hpersists hkind.stops⟩
  have hwork : ∀ node ∈ nodes, ∀ past, Cleared Fact caller id listing nodes past →
      (killNode caller node.containerId).Upholds rule
      (fun o now => Cleared Fact caller id listing nodes now ∧
        ∀ fault, o = .error fault → StopFault fault now) past := fun node hnode past hpast =>
    upholds_killNode hother (fun now hnow => hstop _ _ hnow.1 (hnow.2 node hnode))
      (fun now event hkind hnow => hnow.cons hpersists hkind) hpast
  -- A fault that the runtime answered stays among the events.
  have hdone : ∀ (outcome : Except Fault Unit) (past now : List (Event interface)), past <:+ now →
      (∀ fault, outcome = .error fault → StopFault fault past) →
      ∀ fault, outcome = .error fault → StopFault fault now := by
    intro outcome past now hsuffix hpast fault hfault
    obtain ⟨container, hmem⟩ := hpast fault hfault
    exact ⟨container, hsuffix.subset hmem⟩
  refine (upholds_fanOut _ hsteady hwork hdone h).imp ?_
  rintro _ now - ⟨-, fault?, rfl, hfault⟩
  exact ⟨fault?, rfl, fun fault heq => hfault fault heq fault rfl⟩

/-- A kill stops only what the caller is authorized to stop. If it fails without the runtime having
failed to stop a container, it has stopped none. -/
theorem upholds_kill {id : String} (hother : ∀ now call, call.SparesContainers → rule now call)
    (hpersists : Persists Fact) (hstop : ∀ now container listing, Fact now →
      Authorized caller id container now listing → rule now (.stop container)) (h : Fact past) :
    (m.kill caller id).Upholds rule
      (fun o now => ∀ fault, o = .error fault → stops now = stops past ∨
        StopFault fault now) past := by
  refine upholds_log_bind (hother _ _ trivial) fun before hbefore => ?_
  have hlogged : stops before = stops past := by rw [hbefore]; rfl
  rw [Program.upholds_bind]
  -- Nothing is stopped while the cluster is looked for, so a refusal comes before any stop.
  have hread : Program.Steady Call.Reads rule fun now => stops now = stops past := by
    refine ⟨fun hkind _ => hother _ _ hkind.sparesContainers, fun {now event} hkind hnow => ?_⟩
    obtain ⟨call, reply⟩ := event
    cases call <;> first | exact hnow | exact hkind.elim
  refine ((upholds_cluster (fun now call hkind => hother now call hkind.sparesContainers) id).and
    ((m.asks_cluster caller id).upholds hread hlogged)).imp ?_
  rintro (fault | cluster) now hsuffix ⟨hshown, hnone⟩
  · exact fun _ _ => .inl hnone
  obtain ⟨rfl, listing, hlisting, hshown⟩ := hshown cluster rfl
  rw [Program.Then]
  split
  · next hmay =>
    have hfact : Fact now := hpersists _ _ ((hbefore ▸ List.suffix_cons _ _).trans hsuffix) h
    have hcleared : Cleared Fact caller cluster.id listing cluster.nodes now :=
      ⟨hfact, fun node hnode => hshown.authorized hlisting hmay hnode⟩
    rw [Program.upholds_bind]
    refine (upholds_stopNodes hother hpersists
      (fun now container => hstop now container listing) hcleared).imp ?_
    rintro _ last - ⟨fault?, rfl, hfault⟩
    rw [Program.Then]
    cases fault? with
    | none => exact fun _ h => by cases h
    | some fault =>
      rintro _ ⟨⟩
      exact .inr (hfault fault rfl)
  · rw [Program.upholds_fail]
    exact fun _ _ => .inl hnone

/-- What is left of a failed allocation is killed in the same way, and the outcome of that is logged
at most. -/
theorem upholds_cleanUp {id : String} (hother : ∀ now call, call.SparesContainers → rule now call)
    (hpersists : Persists Fact) (hstop : ∀ now container listing, Fact now →
      Authorized caller id container now listing → rule now (.stop container)) (h : Fact past) :
    (m.cleanUp caller id).Upholds rule (fun _ _ => True) past := by
  rw [cleanUp, Program.upholds_bind, Program.upholds_attempt]
  refine (upholds_kill hother hpersists hstop h).imp ?_
  intro outcome now _ _
  rw [Program.Then]
  split
  · trivial
  · exact ⟨hother _ _ trivial, fun _ => trivial⟩
  · exact ⟨hother _ _ trivial, fun _ => trivial⟩

/-- Killing all clusters stops only what the caller is authorized to stop, cluster by cluster. -/
theorem upholds_killAll (hother : ∀ now call, call.SparesContainers → rule now call)
    (hstop : ∀ now id container listing, Operation.Targets caller id now .killAll →
      Authorized caller id container now listing → rule now (.stop container))
        (h : first listing? past = none) :
    (m.killAll caller).Upholds rule (fun _ _ => True) past := by
  refine upholds_log_bind (hother _ _ trivial) fun before hbefore => ?_
  have hfirst : first listing? before = none := hbefore ▸ first_cons h _
  rw [Program.upholds_bind]
  refine (upholds_clusters fun now call hkind => hother now call hkind.sparesContainers).imp ?_
  rintro (fault | clusters) now - hshown
  · trivial
  obtain ⟨listing, -, hlisting, hshown⟩ := hshown clusters rfl
  rw [Program.Then, Program.upholds_bind]
  -- All ids that are killed were seen in the first listing, which stays the first one.
  have hpersists : Persists fun now => first listing? now = some (.ok listing) :=
    fun _ _ hsuffix h =>
    first_of_suffix hsuffix h
  have hsteady : Program.Steady Call.IsRoutine rule
      fun now => first listing? now = some (.ok listing) :=
    steady_of_persists hpersists fun call hkind now => hother now call hkind.sparesContainers
  -- Every single kill lists anew, and is authorized by what it lists itself.
  have hwork : ∀ id ∈ clusters.map (·.id), ∀ past, first listing? past = some (.ok listing) →
      (m.kill caller id).Upholds rule
        (fun _ now => first listing? now = some (.ok listing) ∧ True) past := by
    intro id hid past hpast
    obtain ⟨cluster, hcluster, rfl⟩ := List.mem_map.1 hid
    obtain ⟨-, -, hmem, hsees, -⟩ := hshown cluster hcluster
    refine (upholds_kill hother hpersists
      (fun now container latest hnow hauthorized => ?_) hpast).imp ?_
    · exact hstop now cluster.id container latest ⟨listing, hnow, hmem, hsees⟩ hauthorized
    · exact fun _ now hsuffix _ => ⟨hpersists _ _ hsuffix hpast, trivial⟩
  refine (upholds_fanOut (fun _ _ => True) hsteady hwork (fun _ _ _ _ _ => trivial)
    (hlisting hfirst)).imp ?_
  rintro _ last - ⟨-, fault?, rfl, -⟩
  rw [Program.Then]
  cases fault? <;> trivial

/-! ### Allocating -/

/-- The allocation of a node is allowed where the creation of its container and all starts are. -/
theorem steady_allocates {labels : Labels}
    (hother : ∀ now call, call.SparesContainers → rule now call) (hpersists : Persists Fact)
    (hcreate : ∀ now spec, Fact now → spec.labels = labels → rule now (.create spec))
    (hstart : ∀ now container, rule now (.start container)) :
    Program.Steady (Call.Allocates labels) rule Fact := by
  refine ⟨fun {now call} hkind hnow => ?_, fun _ hnow => hpersists _ _ (List.suffix_cons _ _) hnow⟩
  cases call with
  | create spec => exact hcreate now spec hnow hkind
  | start container => exact hstart now container
  | log entry => exact hother _ _ trivial
  | put request => exact hother _ _ trivial
  | inspect container => exact hother _ _ trivial
  | _ => exact hkind.elim

/-- An allocation creates containers with the labels of the caller and of the id that was drawn for
it. What it stops is what the caller is authorized to stop of that cluster. -/
theorem upholds_allocate {wanted : ClusterDemand}
    (hother : ∀ now call, call.SparesContainers → rule now call)
    (hcreate : ∀ now id spec node, first drawn? now = some id →
      spec.labels = nodeLabels caller id node →
      rule now (.create spec))
    (hstart : ∀ now container, rule now (.start container))
    (hstop : ∀ now id container listing, first drawn? now = some id →
      Authorized caller id container now listing →
      rule now (.stop container)) (h : first drawn? past = none) :
    (m.allocate caller wanted).Upholds rule (fun _ _ => True) past := by
  refine upholds_log_bind (hother _ _ trivial) fun before hbefore => ?_
  have hnone : first drawn? before = none := hbefore ▸ first_cons h _
  rw [Program.upholds_bind, Program.upholds_ofExcept]
  cases wanted.checked m.limits with
  | error fault => trivial
  | ok nodes => ?_
  refine upholds_ask_bind.2 ⟨hother _ _ trivial, fun fresh => ?_⟩
  -- From here on the id is known, and it stays the first one that was drawn.
  generalize hid : String.ofList (fresh.toList.take idLength) = id
  have hpersists : Persists fun now => first drawn? now = some id :=
    fun _ _ hsuffix h => first_of_suffix hsuffix h
  have hdrawn : first drawn? (⟨.freshId, fresh⟩ :: before) = some id :=
    (first_cons hnone _).trans (congrArg some hid)
  have hsteady : Program.Steady Call.SparesContainers rule fun now => first drawn? now = some id :=
    steady_of_persists hpersists fun call hkind now => hother now call hkind
  refine upholds_ask_bind.2 ⟨hother _ _ trivial, fun clock => ?_⟩
  have htold := hpersists _ _ (List.suffix_cons ⟨.now, clock⟩ _) hdrawn
  rw [Program.upholds_bind, Program.upholds_ofExcept]
  cases m.config.defaultLease with
  | error fault => trivial
  | ok length => ?_
  rw [Program.Then, Program.upholds_bind, Program.upholds_ofExcept]
  cases laterBy clock length with
  | error fault => trivial
  | ok expiry => ?_
  rw [Program.Then, Program.upholds_bind]
  refine ((asks_keepLease id _).upholds hsteady htold).imp ?_
  rintro (fault | _) kept - hkept
  · trivial
  rw [Program.Then, Program.upholds_bind]
  -- Every node is created with the labels of the id that was drawn.
  have hwork : ∀ node ∈ nodes, ∀ past, first drawn? past = some id →
      (do let _ ← m.allocateNode caller id expiry node : ManagerM Unit).Upholds rule
        (fun _ now => first drawn? now = some id ∧ True) past := by
    intro node _ past hpast
    have hasks := (m.asks_allocateNode caller id expiry node).bind fun _ => Program.asks_pure _ ()
    have hnode :=
      steady_allocates hother hpersists (fun now spec => hcreate now id spec node) hstart
    exact (hasks.upholds hnode hpast).imp fun _ now _ hnow => ⟨hnow, trivial⟩
  have hroutine : Program.Steady Call.IsRoutine rule fun now => first drawn? now = some id :=
    steady_of_persists hpersists fun call hkind now => hother now call hkind.sparesContainers
  refine (upholds_fanOut (fun _ _ => True) hroutine hwork (fun _ _ _ _ _ => trivial) hkept).imp ?_
  rintro _ built - ⟨hbuilt, fault?, rfl, -⟩
  rw [Program.Then]
  cases fault? with
  | none => exact ⟨hother _ _ trivial, fun _ => trivial⟩
  | some fault =>
    rw [Program.upholds_bind]
    refine (upholds_cleanUp hother hpersists
      (fun now container listing => hstop now id container listing) hbuilt).imp ?_
    rintro (failed | _) now - -
    · trivial
    · trivial

/-! ### All operations -/

/-- An operation keeps to what it permits. -/
theorem upholds_operation (m : Manager) (caller : Caller) (operation : Operation) :
    (operation.program m caller).Upholds (operation.Permits caller) (fun _ _ => True) [] := by
  have hother (now : List (Event interface)) (call : Call) (h : call.SparesContainers) :
      operation.Permits caller now call := operation.permits_of_sparesContainers caller now h
  have hsteady : Program.Steady Call.SparesContainers (operation.Permits caller) fun _ => True :=
    ⟨fun hkind _ => hother _ _ hkind, fun _ _ => trivial⟩
  have hspares {α : Type} {p : ManagerM α} (h : p.Asks Call.SparesContainers) :
      p.Upholds (operation.Permits caller) (fun _ _ => True) [] := h.upholds hsteady trivial
  -- Only an allocation and the two kinds of kill touch containers at all.
  cases operation with
  | clusters => exact hspares ((m.asks_clusters caller).mono fun _ => Call.Reads.sparesContainers)
  | cluster id =>
    exact hspares ((m.asks_cluster caller id).mono fun _ => Call.Reads.sparesContainers)
  | refresh id extension => exact hspares (m.asks_refresh caller id extension)
  | allocate wanted =>
    refine upholds_allocate hother (fun now id spec node hdrawn hlabels => ?_)
      (fun _ _ => ⟨wanted, rfl⟩)
      (fun now id container listing hdrawn hauthorized => ⟨id, listing, hdrawn, hauthorized⟩) rfl
    exact ⟨wanted, id, rfl, hdrawn, by rw [hlabels]; rfl, by rw [hlabels]; rfl⟩
  | kill id =>
    have hpersists : Persists fun _ => True := fun _ _ _ _ => trivial
    refine (upholds_kill hother hpersists
      (fun now container listing _ hauthorized => ?_) trivial).imp
      fun _ _ _ _ => trivial
    exact ⟨id, listing, rfl, hauthorized⟩
  | killAll =>
    exact upholds_killAll hother (fun now id container listing htargets hauthorized =>
      ⟨id, listing, htargets, hauthorized⟩) rfl

/-- Whoever answers, an operation does to containers only what it permits. A kill that is refused,
as the runtime itself never refuses one, has stopped no container at all. -/
theorem operation_permitted {σ : Type} (m : Manager) (caller : Caller)
    (answer : Answerer interface σ) (s : σ) :
    (∀ operation : Operation,
      Program.Follows (operation.Permits caller) ((operation.program m caller).events answer s)) ∧
    ∀ id fault, ((m.kill caller id).run answer s).1 = .error fault →
      stops ((m.kill caller id).events answer s) = [] ∨
        ∃ container, (⟨.stop container, .error fault⟩ : Event interface) ∈
          (m.kill caller id).events answer s := by
  refine ⟨fun operation => (upholds_operation m caller operation).follows answer s,
    fun id fault hfault => ?_⟩
  have hpersists : Persists fun _ => True := fun _ _ _ _ => trivial
  have hkill : (m.kill caller id).Upholds (fun _ _ => True)
      (fun o now => ∀ fault, o = .error fault → stops now = stops [] ∨ StopFault fault now) [] :=
    upholds_kill (fun _ _ _ => trivial) hpersists (fun _ _ _ _ _ => trivial) trivial
  -- At the start nothing was stopped yet, so that `stops` of all events is empty.
  rcases hkill.outcome answer s fault hfault with hnone | ⟨container, hmem⟩
  · left
    rw [stops, List.filterMap_reverse, stops, List.filterMap_nil, List.reverse_eq_nil_iff] at hnone
    exact hnone
  · exact .inr ⟨container, List.mem_reverse.1 hmem⟩

end Manager

end ClusterLease
