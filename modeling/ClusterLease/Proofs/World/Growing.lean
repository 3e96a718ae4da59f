import ClusterLease.Proofs.World.Allocating
import ClusterLease.Proofs.World.Refreshing

/-!
What operations go through.

Killing makes a world dwindle: containers go away, and nothing else happens. An allocation puts down
its lease and then lets the table grow by the labels of one node after another, in whatever order
the nodes come and whatever goes wrong with them. `Room` says which labels may still be gained, and
`proceeds_allocate` what is true in every state of an allocation and at its end.
-/

namespace ClusterLease.World

open Manager (Call)

/-! ### What operations spare -/

/-- The labels of the containers of a world. -/
def labels (w : World) : List Labels := w.containers.map (·.info.labels)

/-- One world comes from another without new leases or containers; some containers may be gone. -/
structure Dwindles (before after : World) : Prop where
  store : after.store = before.store
  plan : after.plan = before.plan
  containers : after.containers.Sublist before.containers

theorem Dwindles.refl (w : World) : w.Dwindles w := ⟨rfl, rfl, .refl _⟩

theorem Dwindles.trans {u v w : World} (h : u.Dwindles v) (h' : v.Dwindles w) : u.Dwindles w :=
  ⟨h'.store.trans h.store, h'.plan.trans h.plan, h'.containers.trans h.containers⟩

/-- In a dwindling world no container comes or changes its labels. -/
theorem Dwindles.labels {before after : World} (h : before.Dwindles after) :
    after.labels.Sublist before.labels :=
  h.containers.map _

/-- An answer to a call that only kills makes no container. -/
theorem dwindles_answer {call : Call} (h : call.Kills) (w : World) :
    w.Dwindles (answer call w).2 := by
  cases call with
  | stop id =>
    show w.Dwindles ((w.noting (.stop id)).stop id).2
    rw [stop_world]
    split
    · exact ⟨rfl, rfl, List.filter_sublist⟩
    · exact ⟨rfl, rfl, .refl _⟩
  | fetchLease id => exact ⟨Store.fetch_store _ _ _, rfl, .refl _⟩
  | log entry => exact ⟨rfl, rfl, .refl _⟩
  | list => exact ⟨rfl, rfl, .refl _⟩
  | arrange label count => exact ⟨rfl, rfl, .refl _⟩
  | collect label count => exact ⟨rfl, rfl, .refl _⟩
  | _ => exact h.elim

theorem dwindles_run {α : Type} {p : ManagerM α} (hp : p.Asks Call.Kills) (w : World) :
    w.Dwindles (p.run answer w).2 :=
  hp.preserves Dwindles Dwindles.refl Dwindles.trans (fun _ s hcall => dwindles_answer hcall s) w

/-- A program that spares containers leaves the table as it is. -/
theorem run_of_sparesContainers {α : Type} {p : ManagerM α} (hp : p.Asks Call.SparesContainers)
    (w : World) :
    (p.run answer w).2.containers = w.containers := by
  have hstep (call : Call) (s : World) (hcall : call.SparesContainers) :
      (answer call s).2.containers = s.containers := by
    cases call <;> first | rfl | exact hcall.elim
  have htrans {s t u : World} (h : t.containers = s.containers) (h' : u.containers = t.containers) :
      u.containers = s.containers := h'.trans h
  exact hp.preserves (fun before after => after.containers = before.containers)
    (fun _ => rfl) htrans hstep w

variable {w : World}

theorem proceeds_info_bind {β : Type} {allowed : World → Call → Prop}
    {goal : Except Fault β → World → Prop} {source : Log.Source} {text : String}
    {f : Unit → ManagerM β} (hallowed : allowed w (.log (Log.info source text)))
    (hf : ∀ entries, (f ()).Proceeds answer allowed goal (w.logging entries)) :
    (Manager.info source text >>= f).Proceeds answer allowed goal w := ⟨hallowed, hf _⟩

/-! ### Labels that a container brings -/

theorem subperm_map {α β : Type} (f : α → β) {xs ys : List α} (h : xs.Subperm ys) :
    (xs.map f).Subperm (ys.map f) := by
  obtain ⟨zs, hperm, hsublist⟩ := h
  exact ⟨zs.map f, hperm.map f, hsublist.map f⟩

theorem create_store (w : World) (spec : Container.Spec) : (w.create spec).2.store = w.store := by
  rw [create]
  cases w.plan.create spec <;> rfl

/-- A creation brings the labels that were asked for, at most. -/
theorem create_labels (w : World) (spec : Container.Spec) :
    (w.create spec).2.labels.Subperm (spec.labels :: w.labels) := by
  rw [create]
  cases w.plan.create spec with
  | some fault => exact List.Subperm.cons_self
  | none => exact subperm_map (·.info.labels) (put_subperm _ w.containers)

/-- A container that takes the place of another one with the same labels. -/
theorem put_labels {held other : Held} {table : List Held}
    (h : table.find? (fun first => first.info.id == held.info.id) = some other)
    (hlabels : held.info.labels = other.info.labels) :
    (putContainer.put held table).map (·.info.labels) = table.map (·.info.labels) := by
  induction table with
  | nil => cases h
  | cons first rest ih =>
    rw [putContainer.put]
    by_cases hid : first.info.id = held.info.id
    · rw [List.find?_cons_of_pos (by simpa using hid)] at h
      rw [if_pos hid, List.map_cons, List.map_cons, hlabels, Option.some.inj h]
    · rw [List.find?_cons_of_neg (by simpa using hid)] at h
      -- Another container comes first, and stays where it is.
      rw [if_neg hid, List.map_cons, List.map_cons, ih h]

theorem start_store (w : World) (id : String) : (w.start id).2.store = w.store := by
  rw [start]
  cases w.held? id with
  | none => rfl
  | some held =>
    dsimp only
    cases w.plan.start held.info <;> rfl

theorem start_labels (w : World) (id : String) : (w.start id).2.labels = w.labels := by
  rw [start]
  cases hheld : w.held? id with
  | none => rfl
  | some held =>
    dsimp only
    cases w.plan.start held.info with
    | some fault => rfl
    | none =>
      have hid : held.info.id = id := by simpa using List.find?_some hheld
      have hfind : w.containers.find? (fun first => first.info.id == held.info.id) = some held := by
        rw [hid]
        exact hheld
      -- A started container differs from the old one in its state and networks only.
      exact put_labels hfind rfl

/-! ### Room for labels -/

/-- The store is as it was, and there is room for the labels that are left. -/
structure Room (store : Store) (total left : List Labels) (w : World) : Prop where
  store : w.store = store
  labels : (w.labels ++ left).Subperm total

variable {store : Store} {total left : List Labels} {labels : Labels}

theorem Room.tail (h : Room store total (labels :: left) w) : Room store total left w := by
  refine ⟨h.store, List.Subperm.trans ?_ h.labels⟩
  exact ((List.sublist_cons_self labels left).append_left w.labels).subperm

theorem Room.all (h : Room store total left w) : Room store total [] w := by
  refine ⟨h.store, List.Subperm.trans ?_ h.labels⟩
  exact ((List.nil_sublist left).append_left w.labels).subperm

theorem Room.frame {w' : World} (h : Room store total left w) (hstore : w'.store = w.store)
    (hlabels : w'.labels = w.labels) :
    Room store total left w' := ⟨hstore.trans h.store, hlabels ▸ h.labels⟩

theorem Room.logging (h : Room store total left w) (entries : List Log.Entry) :
    Room store total left (w.logging entries) := h.frame rfl rfl

/-- Creating takes up the room for the container, whether it succeeds or not. -/
theorem Room.create {spec : Container.Spec} (h : Room store total (spec.labels :: left) w) :
    Room store total left (answer (.create spec) w).2 := by
  refine ⟨(create_store _ spec).trans h.store, List.Subperm.trans ?_ h.labels⟩
  have hgained := (List.subperm_append_right left).2 (create_labels (w.noting (.create spec)) spec)
  exact hgained.trans List.perm_middle.symm.subperm

/-- A question about a container that is there takes no room. -/
theorem Room.furnish {call : Call} (hcall : call.Furnishes) (h : Room store total left w) :
    Room store total left (answer call w).2 := by
  cases call with
  | start id => exact h.frame (start_store _ id) (start_labels _ id)
  | log entry => exact h.logging _
  | put request => exact h.frame rfl rfl
  | inspect id => exact h.frame rfl rfl
  | _ => exact hcall.elim

/-- Calls that neither create nor write leave the room as it is. -/
theorem Room.routine {call : Call} (hcall : call.IsRoutine) (h : Room store total left w) :
    Room store total left (answer call w).2 := by
  cases call with
  | log entry => exact h.logging _
  | arrange label count => exact h.frame rfl rfl
  | collect label count => exact h.frame rfl rfl
  | _ => exact hcall.elim

theorem Room.kills {call : Call} (hcall : call.Kills) (h : Room store total left w) :
    Room store total left (answer call w).2 := by
  have hdwindles := dwindles_answer hcall w
  refine ⟨hdwindles.store.trans h.store, List.Subperm.trans ?_ h.labels⟩
  exact (hdwindles.labels.append_right left).subperm

/-! ### Nodes -/

/-- The allocation of a node takes the room of its labels, whatever goes wrong. -/
theorem throughout_allocateNode (m : Manager) (caller : Caller) (id : String) (expiry : Moment)
    {node : NodeDemand} (h : Room store total (Manager.nodeLabels caller id node :: left) w) :
    (m.allocateNode caller id expiry node).Throughout answer (Room store total left) w := by
  rw [Manager.allocateNode]
  refine proceeds_info_bind h.tail fun entries => ?_
  have hlogged := h.logging entries
  refine Program.proceeds_ofExcept_bind (fun version _ => ?_) fun _ _ => hlogged.tail
  refine proceeds_info_bind hlogged.tail fun entries => ?_
  have hready := hlogged.logging entries
  refine ⟨hready.tail, ?_⟩
  refine Program.proceeds_ofExcept_bind (fun container _ => ?_) fun _ _ => hready.create
  -- Once the container is there, nothing that follows takes room.
  exact (m.asks_furnish container _).proceeds (fun _ _ hroom _ => hroom)
    (fun _ _ hroom hcall => hroom.furnish hcall) hready.create

/-- So does the allocation of all nodes, one after another, and it ends with their leases and labels
at most. -/
theorem throughout_allocateNodes (m : Manager) (caller : Caller) (id : String) (expiry : Moment)
    (label : String) {nodes : List NodeDemand}
    (h : Room store total (nodes.map (Manager.nodeLabels caller id)) w) :
    (Manager.fanOut label NodeDemand.shown
      (fun node => do let _ ← m.allocateNode caller id expiry node) nodes).Throughout
      answer (Room store total []) w := by
  refine (Manager.proceeds_fanOut
    (fun rest => Room store total (rest.map (Manager.nodeLabels caller id)))
    (fun _ => True) ?_ ?_ ?_).imp fun _ _ hgoal => hgoal.1
  · intro rest call t hcall hroom
    exact ⟨hroom.all, hroom.routine hcall⟩
  · intro node rest t hroom
    have hnode := throughout_allocateNode m caller id expiry hroom
    refine (Program.Proceeds.mono hnode (fun _ _ hroom => hroom.all) fun _ _ hroom => hroom).bind ?_
      fun _ _ hroom =>
      ⟨hroom, trivial⟩
    exact fun _ _ hroom => ⟨hroom, trivial⟩
  · -- The order of the nodes does not matter to the room that they need together.
    intro arranged hperm
    refine ⟨h.store, List.Subperm.trans ?_ h.labels⟩
    exact ((hperm.map _).append_left w.labels).subperm

/-! ### Allocations -/

variable {m : Manager} {caller : Caller} {leases : Leases} {wanted : ClusterDemand}
    {nodes : List NodeDemand}

/-- The end of a new lease, if it is in range. -/
def leaseEnd? (w : World) (m : Manager) : Option Moment :=
  m.config.defaultLease.toOption.bind w.clock.add?

/-- A world that has the same store and the same labels, whatever else happened. -/
def Resembles (w t : World) : Prop := t.store = w.store ∧ t.labels = w.labels

/-- A cluster has its lease until a moment, and its nodes gave the table no more labels than they
have themselves. -/
def Granted (w : World) (caller : Caller) (leases : Leases) (nodes : List NodeDemand)
    (expiry : Moment) : World → Prop :=
  Room (.memory (leases.put w.nextId (Lease.ofUser caller.user expiry)))
    (w.labels ++ nodes.map (Manager.nodeLabels caller w.nextId)) []

/-- So far an allocation has changed nothing, or it has granted a lease. -/
def Midway (m : Manager) (w : World) (caller : Caller) (leases : Leases) (nodes : List NodeDemand)
    (t : World) : Prop :=
  w.Resembles t ∨ ∃ expiry, w.leaseEnd? m = some expiry ∧ w.Granted caller leases nodes expiry t

theorem laterBy_toOption (now : Moment) (length : Duration) :
    (Manager.laterBy now length).toOption = now.add? length := by
  rw [Manager.laterBy]
  cases now.add? length <;> rfl

/-- An allocation that is refused leaves everything as it is. -/
theorem throughout_allocate_of_refused (w : World) (caller : Caller) {fault : Fault}
    (hchecked : wanted.checked m.limits = .error fault) :
    (m.allocate caller wanted).Throughout answer w.Resembles w := by
  rw [Manager.allocate]
  refine proceeds_info_bind ⟨rfl, rfl⟩ fun entries => ?_
  rw [hchecked]
  exact ⟨rfl, rfl⟩

/-- An allocation grants a lease if it has an end. It does so before it asks for the first node, and
nothing that happens afterwards takes the lease back. -/
theorem proceeds_allocate (caller : Caller) (hstore : w.store = .memory leases)
    (hchecked : wanted.checked m.limits = .ok nodes) : (m.allocate caller wanted).Proceeds answer
      (fun t _ => w.Midway m caller leases nodes t)
      (fun _ t => w.leaseEnd? m = none ∧ w.Resembles t ∨
        ∃ expiry, w.leaseEnd? m = some expiry ∧ w.Granted caller leases nodes expiry t) w := by
  rw [Manager.allocate]
  refine proceeds_info_bind (.inl ⟨rfl, rfl⟩) fun entries => ?_
  rw [hchecked]
  refine Program.proceeds_ofExcept_bind (fun checked heq => ?_) fun fault heq => by cases heq
  obtain rfl := Except.ok.inj heq
  rw [Manager.proceeds_ask_bind]
  refine ⟨.inl ⟨rfl, rfl⟩, ?_⟩
  rw [Manager.proceeds_ask_bind]
  refine ⟨.inl ⟨rfl, rfl⟩, ?_⟩
  refine Program.proceeds_ofExcept_bind (fun length hlength => ?_) fun fault hlength => ?_
  swap
  · exact .inl ⟨by rw [leaseEnd?, hlength]; rfl, rfl, rfl⟩
  have hend : w.leaseEnd? m = (Manager.laterBy w.clock length).toOption := by
    rw [laterBy_toOption, leaseEnd?, hlength]
    rfl
  refine Program.proceeds_ofExcept_bind (fun expiry hexpiry => ?_) fun fault hexpiry => ?_
  swap
  · exact .inl ⟨hend.trans (congrArg Except.toOption hexpiry), rfl, rfl⟩
  have hgranted {t : World} (h : w.Granted caller leases nodes expiry t) :
      ∃ expiry, w.leaseEnd? m = some expiry ∧ w.Granted caller leases nodes expiry t :=
    ⟨expiry, hend.trans (congrArg Except.toOption hexpiry), h⟩
  -- From here on the cluster has its lease.
  have hid : String.ofList ((answer .freshId (w.logging entries)).1.toList.take Manager.idLength) =
      w.nextId := rfl
  rw [hid]
  refine ⟨.inl ⟨rfl, rfl⟩, ?_⟩
  have hroom : Room (.memory (leases.put w.nextId (Lease.ofUser caller.user expiry)))
      (w.labels ++ nodes.map (Manager.nodeLabels caller w.nextId))
      (nodes.map (Manager.nodeLabels caller w.nextId))
      (answer (.keepLease w.nextId (Lease.ofUser caller.user expiry))
        (answer .now (answer .freshId (w.logging entries)).2).2).2 := by
    refine ⟨?_, .refl _⟩
    show (w.store.create w.format w.nextId (Lease.ofUser caller.user expiry)).store = _
    rw [hstore, Store.create_memory]
  refine Program.proceeds_ofExcept_bind (fun _ _ => ?_) fun _ _ => .inr (hgranted hroom.all)
  have hnodes := throughout_allocateNodes m caller w.nextId expiry s!"allocate-{w.nextId}" hroom
  refine (Program.Proceeds.mono hnodes (fun t _ h => .inr (hgranted h)) fun _ _ h => h).bind ?_
    fun _ _ h => .inr (hgranted h)
  intro fault? t h
  cases fault? with
  | none =>
    exact proceeds_info_bind (.inr (hgranted h)) fun entries => .inr (hgranted (h.logging entries))
  | some fault =>
    -- The cleanup only kills, and so leaves the lease and brings no labels.
    have hclean :
        (m.cleanUp caller w.nextId).Proceeds answer (fun t _ => w.Midway m caller leases nodes t)
        (fun _ t => w.Granted caller leases nodes expiry t) t :=
      (m.asks_cleanUp caller w.nextId).proceeds (fun _ _ h _ => .inr (hgranted h))
        (fun _ _ h hkills => Room.kills hkills h) h
    exact hclean.bind (fun _ _ h => .inr (hgranted h)) fun _ _ h => .inr (hgranted h)

end ClusterLease.World
