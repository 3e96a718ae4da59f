import ClusterLease.Proofs.Manager.Takeover
import ClusterLease.Proofs.World.Rollback
import ClusterLease.Proofs.World.SideBySide

/-!
An allocation beside refreshes of others.

What the world answers to an allocation is the truth: its containers are there until one is stopped
(`Holding`), and its lease is there once it was put down (`Leased`). Refreshes change the lease at
most, and who owns it. So an allocation that fails stops all that it created, unless another caller
has taken the cluster over before the rollback reads its lease (`rolled_back_or_taken_over`). Then
the rollback is refused, and the containers stay (`rollback_refused_after_takeover`).
-/

namespace ClusterLease.World

open Container (Info)
open Manager (Allots Belongs Call KeptLease Obtains Operation Renews Told Truthful Undone drawn? first
  made stops)
open Pool (pastOf)

variable {w₀ w v : World} {m : Manager} {caller : Caller} {wanted : ClusterDemand} {call : Call}
  {past : List (Event Manager.interface)} {user id : String} {taken taken' : Value → Prop}

/-! ### What is there -/

section Put

variable {held other : Held} {table : List Held}

theorem mem_put_self : held ∈ putContainer.put held table :=
  List.mem_of_find?_eq_some (find_put held table)

theorem eq_or_mem_of_mem_put (h : other ∈ putContainer.put held table) : other = held ∨ other ∈ table :=
  List.mem_cons.1 ((put_subperm held table).subset h)

/-- A container stays where it is, unless it is the one that is replaced. -/
theorem mem_put_or_find (h : other ∈ table) : other ∈ putContainer.put held table ∨
    table.find? (fun first => first.info.id == held.info.id) = some other := by
  induction table with
  | nil => cases h
  | cons first rest ih =>
    rw [putContainer.put]
    by_cases hid : first.info.id = held.info.id
    · rw [if_pos hid, List.find?_cons_of_pos (by simpa using hid)]
      rcases List.mem_cons.1 h with rfl | h
      · exact .inr rfl
      · exact .inl (List.mem_cons_of_mem _ h)
    · rw [if_neg hid, List.find?_cons_of_neg (by simpa using hid)]
      rcases List.mem_cons.1 h with rfl | h
      · exact .inl List.mem_cons_self
      · exact (ih h).imp_left (List.mem_cons_of_mem _)

end Put

/-- All containers of a cluster name the user, and as long as nothing was stopped, all that was created
is there. -/
structure Holding (user id : String) (past : List (Event Manager.interface)) (w : World) : Prop where
  named : ∀ held ∈ w.containers, Cluster.idOf? held.info = some id →
    held.info.labels.getD Container.creatorLabel = user
  complete : stops past = [] → ∀ container ∈ made past,
    ∃ held ∈ w.containers, held.info.id = container ∧ Cluster.idOf? held.info = some id

/-- A container that comes into the table, in place of one of the same cluster or of no container of it. -/
theorem Holding.put (h : Holding user id past w) {held : Held}
    (hnamed : Cluster.idOf? held.info = some id → held.info.labels.getD Container.creatorLabel = user)
    (hcarries : ∀ old ∈ w.held? held.info.id, Cluster.idOf? old.info = some id →
      Cluster.idOf? held.info = some id) :
    Holding user id past (w.putContainer held) := by
  refine ⟨fun other hother hid => ?_, fun hnone container hcontainer => ?_⟩
  · rcases eq_or_mem_of_mem_put hother with rfl | hother
    · exact hnamed hid
    · exact h.named other hother hid
  · obtain ⟨other, hother, rfl, hid⟩ := h.complete hnone container hcontainer
    rcases mem_put_or_find hother with hstays | hfind
    · exact ⟨other, hstays, rfl, hid⟩
    · have heq : other.info.id = held.info.id := by simpa using List.find?_some hfind
      exact ⟨held, mem_put_self, heq.symm, hcarries other hfind hid⟩

/-- An allocation brings containers of its cluster and its caller. -/
theorem Holding.create (h : Holding caller.user id past w) (hid : id ≠ "") {spec : Container.Spec}
    (hcreator : spec.labels.get? Container.creatorLabel = some caller.user)
    (hcluster : spec.labels.get? Container.clusterLabel = some id) :
    Holding caller.user id (⟨.create spec, (answer (.create spec) w).1⟩ :: past)
      (answer (.create spec) w).2 := by
  show Holding _ _ (⟨.create spec, ((w.noting (.create spec)).create spec).1⟩ :: past)
    ((w.noting (.create spec)).create spec).2
  rw [World.create]
  cases (w.noting (.create spec)).plan.create spec with
  | some fault => exact ⟨h.named, h.complete⟩
  | none =>
    let container := (w.plan.made (w.created + 1)).1
    let held : Held :=
      ⟨⟨container, "created", spec.labels, []⟩, (w.plan.made (w.created + 1)).2⟩
    -- The new container may stand in for another one of its id, but it is one of the cluster itself.
    have hcarries : Cluster.idOf? held.info = some id := idOf?_of_get? hid hcluster
    have hnamed : held.info.labels.getD Container.creatorLabel = caller.user := by
      show (spec.labels.get? Container.creatorLabel).getD "" = _
      rw [hcreator, Option.getD_some]
    have hput : Holding caller.user id past (w.putContainer held) :=
      h.put (fun _ => hnamed) fun _ _ _ => hcarries
    refine ⟨hput.named, fun hnone => List.forall_mem_cons.2 ⟨?_, hput.complete hnone⟩⟩
    exact ⟨held, mem_put_self, rfl, hcarries⟩

theorem Holding.start (h : Holding user id past w) (container : String) :
    Holding user id (⟨.start container, (answer (.start container) w).1⟩ :: past)
      (answer (.start container) w).2 := by
  suffices hworld : Holding user id past ((w.noting (.start container)).start container).2 from
    ⟨hworld.named, hworld.complete⟩
  rw [World.start]
  cases hheld : (w.noting (.start container)).held? container with
  | none => exact ⟨h.named, h.complete⟩
  | some held =>
    dsimp only
    cases (w.noting (.start container)).plan.start held.info with
    | some fault => exact ⟨h.named, h.complete⟩
    | none =>
      -- The container that is replaced is the one that was found, and it keeps its labels.
      have hid : held.info.id = container := by simpa using List.find?_some hheld
      have hmem : held ∈ w.containers := List.mem_of_find?_eq_some hheld
      have hput : Holding user id past (w.putContainer
          { held with info := { held.info with state := "running", networks := held.whenStarted } }) := by
        refine h.put (h.named held hmem) fun old hold hcarries => ?_
        have hsame : w.held? held.info.id = some held := by rw [hid]; exact hheld
        obtain rfl : held = old := Option.some.inj (hsame.symm.trans hold)
        exact hcarries
      exact ⟨hput.named, hput.complete⟩

theorem Holding.stop (h : Holding user id past w) (container : String) :
    Holding user id (⟨.stop container, (answer (.stop container) w).1⟩ :: past)
      (answer (.stop container) w).2 := by
  have hkills : (Call.stop container).Kills := trivial
  have hdwindles := dwindles_answer hkills w
  refine ⟨fun held hheld => h.named held (hdwindles.containers.subset hheld), fun hnone => ?_⟩
  -- Once something was stopped, not all that was created needs to be there.
  cases hnone

/-- What an allocation may ask keeps its containers together. -/
theorem Holding.answer (h : Holding caller.user id past w) (hid : id ≠ "")
    (hdrawn : ∀ other, first drawn? past = some other → other = id)
    (hpermits : (Operation.allocate wanted).Permits caller past call) :
    Holding caller.user id (⟨call, (World.answer call w).1⟩ :: past) (World.answer call w).2 := by
  cases call with
  | create spec =>
    obtain ⟨_, other, _, hother, hcreator, hcluster⟩ := hpermits
    obtain rfl := hdrawn other hother
    exact h.create hid hcreator hcluster
  | start container => exact h.start container
  | stop container => exact h.stop container
  | _ => exact ⟨h.named, h.complete⟩

/-- What is asked about containers changes the table, and counts and notes it. -/
theorem answer_frame (h : ¬call.SparesContainers) (w : World) : ∃ containers created,
    (answer call w).2 = { w.noting call with containers := containers, created := created } := by
  -- Creating, starting and stopping change the containers and the count of them, and no more.
  cases call with
  | create spec =>
    show ∃ _ _, ((w.noting (.create spec)).create spec).2 = _
    rw [World.create]
    cases (w.noting (.create spec)).plan.create spec <;> exact ⟨_, _, rfl⟩
  | start container =>
    show ∃ _ _, ((w.noting (.start container)).start container).2 = _
    rw [World.start]
    cases (w.noting (.start container)).held? container with
    | none => exact ⟨_, _, rfl⟩
    | some held =>
      dsimp only
      cases (w.noting (.start container)).plan.start held.info <;> exact ⟨_, _, rfl⟩
  | stop container =>
    show ∃ _ _, ((w.noting (.stop container)).stop container).2 = _
    rw [stop_world]
    split <;> exact ⟨_, _, rfl⟩
  | _ => exact absurd trivial h

/-! ### The id -/

/-- The plan is the same, and the allocation draws the first id that it gives out. -/
structure Drawing (w₀ : World) (past : List (Event Manager.interface)) (w : World) : Prop where
  plan : w.plan = w₀.plan
  undrawn : first drawn? past = none → w.issued = w₀.issued
  drawn : ∀ id, first drawn? past = some id → id = w₀.nextId

/-- An event that draws no id leaves the drawing as it is. -/
theorem Drawing.cons {event : Event Manager.interface} (h : Drawing w₀ past w)
    (hnone : drawn? event = none) (hplan : v.plan = w.plan) (hissued : v.issued = w.issued) :
    Drawing w₀ (event :: past) v := by
  refine ⟨hplan.trans h.plan, fun hundrawn => hissued.trans (h.undrawn ?_), fun id hid => h.drawn id ?_⟩
  all_goals rwa [← Manager.first_cons_of_none hnone]

/-- Each call of an allocation keeps the drawing, the draw itself included. -/
theorem Drawing.answer (h : Drawing w₀ past w) (hallots : Allots user past call) :
    Drawing w₀ (⟨call, (World.answer call w).1⟩ :: past) (World.answer call w).2 := by
  by_cases hspares : call.SparesContainers
  · cases call with
    | freshId =>
      -- Nothing was drawn yet, so the number of the text is the one that comes next at the start.
      have hdraws : first drawn? (⟨.freshId, (World.answer .freshId w).1⟩ :: past) = some w₀.nextId := by
        rw [Manager.first_cons hallots]
        show some (String.ofList ((w.plan.ids (w.issued + 1)).toList.take Manager.idLength)) = _
        rw [h.plan, h.undrawn hallots]
        rfl
      refine ⟨h.plan, fun hnone => ?_, fun id hid => ?_⟩
      · rw [hdraws] at hnone
        cases hnone
      · exact Option.some.inj (hid.symm.trans hdraws)
    | create _ | start _ | stop _ => exact hspares.elim
    | _ => exact h.cons rfl rfl rfl
  · obtain ⟨containers, created, hworld⟩ := answer_frame hspares w
    have hnone : drawn? ⟨call, (World.answer call w).1⟩ = none := by
      cases call <;> first | rfl | exact absurd trivial hspares
    rw [hworld]
    exact h.cons hnone rfl rfl

/-! ### The lease -/

/-- Once the lease of a cluster was put down, it belongs to the user, or to someone who has taken it
over. -/
def Leased (user id : String) (taken : Value → Prop) (past : List (Event Manager.interface))
    (w : World) : Prop :=
  ∃ leases, w.Tells leases ∧
    (KeptLease id past → ∃ lease, leases.get? id = some lease ∧ Belongs user taken lease)

theorem Leased.cons {event : Event Manager.interface} (h : Leased user id taken past w)
    (hkeeps : ¬event.call.KeepsLease) (hformat : v.format = w.format) (hstore : v.store = w.store) :
    Leased user id taken (event :: past) v := by
  obtain ⟨leases, htells, hbelongs⟩ := h
  refine ⟨leases, htells.frame hformat hstore, fun ⟨lease, hmem⟩ => hbelongs ⟨lease, ?_⟩⟩
  rcases List.mem_cons.1 hmem with rfl | hmem
  · exact absurd trivial hkeeps
  · exact hmem

/-- Each call of an allocation keeps what is leased, the writing of the lease included. -/
theorem Leased.answer (h : Leased user id taken past w) (hread : ReadUniversally past)
    (hdrawn : ∀ other, first drawn? past = some other → other = id) (hallots : Allots user past call) :
    Leased user id taken (⟨call, (World.answer call w).1⟩ :: past) (World.answer call w).2 := by
  -- The one call of an allocation that writes a lease writes it as its user's own.
  by_cases hspares : call.SparesContainers
  · cases call with
    | keepLease other lease =>
      obtain ⟨hfirst, length, expiry, hexpects, rfl⟩ := hallots
      obtain rfl := hdrawn other hfirst
      obtain ⟨leases, htells, -⟩ := h
      have hordinary := Lease.ordinary_ofUser user (hread.expects hexpects)
      obtain ⟨-, hafter⟩ := Store.Tells.create htells other hordinary
      refine ⟨_, hafter, fun _ => ⟨Lease.ofUser user expiry, ?_, .inl rfl⟩⟩
      rw [Table.get?_put, if_pos rfl]
    | fetchLease other => exact h.cons (fun hkeeps => hkeeps) rfl (Store.fetch_store w.format w.store other)
    | changeLease other change => exact hallots.elim
    | create _ | start _ | stop _ => exact hspares.elim
    | _ => exact h.cons (fun hkeeps => hkeeps) rfl rfl
  · obtain ⟨containers, created, hworld⟩ := answer_frame hspares w
    have hkeeps : ¬call.KeepsLease := by
      cases call <;> first | exact fun hkeeps => hkeeps | exact absurd trivial hspares
    rw [hworld]
    exact h.cons hkeeps rfl rfl

theorem Leased.mono (himp : ∀ owner, taken owner → taken' owner) (h : Leased user id taken past w) :
    Leased user id taken' past w := by
  obtain ⟨leases, htells, hbelongs⟩ := h
  refine ⟨leases, htells, fun hkept => ?_⟩
  obtain ⟨lease, hlease, howner⟩ := hbelongs hkept
  exact ⟨lease, hlease, howner.imp_right (himp _)⟩

/-- A change by someone else keeps the lease, which may then be theirs. -/
theorem Leased.change {other target : String} {extension : Duration}
    {before : List (Event Manager.interface)} {event : Event Manager.interface}
    {leases leases' : Leases} (htells : v.Tells leases')
    (hbelongs : KeptLease id past → ∃ lease, leases.get? id = some lease ∧ Belongs user taken lease)
    (hchange : Change other target extension before event leases leases')
    (htaken : ∀ owner, taken owner → taken' owner)
    (hobtained : target = id → other ≠ user → ∀ expiry, Obtains other id expiry event →
      taken' (.text other)) : Leased user id taken' past v := by
  refine ⟨leases', htells, fun hkept => ?_⟩
  obtain ⟨lease, hlease, howner⟩ := hbelongs hkept
  -- Someone who obtains the lease of the cluster is the user, or takes it over.
  have hpassed (expiry last : Moment) (heq : target = id) (hobtains : Obtains other id expiry event) :
      Belongs user taken' (Lease.ofUser other last) := by
    by_cases hother : other = user
    · exact .inl (congrArg Value.text hother)
    · exact .inr (hobtained heq hother expiry hobtains)
  cases hchange with
  | nothing => exact ⟨lease, hlease, howner.imp_right (htaken _)⟩
  | @extended _ expiry old new hexpects hold hnew =>
    rw [Table.get?_put]
    split
    · next heq =>
      obtain ⟨last, -, ⟨-, rfl⟩ | ⟨-, rfl⟩⟩ := Lease.extended_eq_ok hnew
      all_goals exact ⟨_, rfl, hpassed expiry _ heq.symm ⟨heq.symm, rfl⟩⟩
    · exact ⟨lease, hlease, howner.imp_right (htaken _)⟩
  | @kept _ expiry hexpects hmissed =>
    rw [Table.get?_put]
    split
    · next heq => exact ⟨_, rfl, hpassed expiry expiry heq.symm ⟨heq.symm, rfl⟩⟩
    · exact ⟨lease, hlease, howner.imp_right (htaken _)⟩

/-! ### All answers -/

/-- Whatever a call is answered, it tells only what is held and leased. -/
theorem told_answer (hlist : w.plan.list = none) (hholding : Holding user id past w)
    (hleased : Leased user id taken past w) (call : Call) :
    Told user id taken past ⟨call, (answer call w).1⟩ := by
  -- Only listings and looked up leases tell anything.
  cases call with
  | list =>
    refine ⟨w.containers.map (·.info), ?_, fun info hinfo hid => ?_, fun hnone container hcontainer => ?_⟩
    · show w.list = _
      rw [list, hlist]
    · obtain ⟨held, hheld, rfl⟩ := List.mem_map.1 hinfo
      exact hholding.named held hheld hid
    · obtain ⟨held, hheld, hfound⟩ := hholding.complete hnone container hcontainer
      exact ⟨held.info, List.mem_map_of_mem hheld, hfound⟩
  | fetchLease other =>
    obtain ⟨leases, htells, hbelongs⟩ := hleased
    have hreply : (answer (.fetchLease other) w).1 = leases.require other := htells.fetch other
    rw [hreply, Leases.require]
    refine ⟨fun fault hfault => ?_, ?_⟩
    · cases hget : leases.get? other with
      | none =>
        rw [hget] at hfault
        exact ⟨other, (Except.error.inj hfault).symm⟩
      | some lease =>
        rw [hget] at hfault
        cases hfault
    · rintro rfl hkept
      obtain ⟨lease, hlease, howner⟩ := hbelongs hkept
      exact ⟨lease, by rw [hlease], howner⟩
  | _ => trivial

/-- Someone who asks for a refresh of some cluster. -/
structure Errand where
  caller : Caller
  id : String
  extension : Duration

/-- An allocation and refreshes that have asked nothing yet. -/
def allocating (m : Manager) (w : World) (caller : Caller) (wanted : ClusterDemand)
    (errands : List Errand) : Pool Manager.interface Unit World :=
  .start ((do let _ ← m.allocate caller wanted) :: errands.map fun errand => do
    let _ ← m.refresh errand.caller errand.id errand.extension) w

/-- Another caller has obtained the cluster of a user. -/
def TookOver (user id : String) (errands : List Errand) (trace : Trace) (owner : Value) : Prop :=
  ∃ i errand expiry event, errands[i]? = some errand ∧ errand.id = id ∧ errand.caller.user ≠ user ∧
    owner = .text errand.caller.user ∧ (i + 1, event) ∈ trace ∧
    Obtains errand.caller.user id expiry event

/-- The invariant of an allocation and of refreshes beside it. -/
structure Beside (w₀ : World) (user : String) (errands : List Errand) (trace : Trace) (w : World) :
    Prop where
  read : ∀ i, ReadUniversally (pastOf trace i)
  drawing : Drawing w₀ (pastOf trace 0) w
  holding : Holding user w₀.nextId (pastOf trace 0) w
  leased : Leased user w₀.nextId (TookOver user w₀.nextId errands trace) (pastOf trace 0) w
  truthful : Truthful user w₀.nextId (TookOver user w₀.nextId errands trace) (pastOf trace 0)

/-- The first program allocates under the operation's own rule, and the others run their errands. -/
def besideRule (caller : Caller) (wanted : ClusterDemand) (errands : List Errand) :
    Nat → List (Event Manager.interface) → Call → Prop
  | 0, past, call => (Operation.allocate wanted).Permits caller past call ∧ Allots caller.user past call
  | i + 1, past, call => ∃ errand, errands[i]? = some errand ∧
      Renews errand.caller.user errand.id errand.extension past call

/-- What the allocation has done if it fails. -/
def besideGoal (caller : Caller) (taken : Value → Prop) :
    Nat → Except Fault Unit → List (Event Manager.interface) → Prop
  | 0, outcome, past => ∀ fault, outcome = .error fault → made past = [] ∨
      ∃ id, first drawn? past = some id ∧
        (Truthful caller.user id taken past → Undone id taken past)
  | _ + 1, _, _ => True

/-- The allocation and the errands uphold their rules, each in its own place. -/
theorem upholds_allocating (m : Manager) (w : World) (huser : caller.user ≠ "") (wanted : ClusterDemand)
    (errands : List Errand) (taken : Value → Prop) :
    (allocating m w caller wanted errands).Upholds (besideRule caller wanted errands)
      (besideGoal caller taken) := by
  refine Pool.upholds_start w fun i p hp => ?_
  -- The first program is the allocation; all others are errands, one place further on.
  cases i with
  | zero =>
    obtain rfl := Option.some.inj hp
    have hallocate := (Manager.upholds_operation m caller (.allocate wanted)).both
      (Manager.upholds_allocate_rollback m caller huser wanted taken)
    rw [Program.upholds_bind]
    refine hallocate.imp ?_
    rintro (fault | id) now - ⟨-, hgoal⟩
    · exact fun _ _ => hgoal _ rfl
    · intro _ h
      cases h
  | succ i =>
    rw [List.getElem?_cons_succ, List.getElem?_map, Option.map_eq_some_iff] at hp
    obtain ⟨errand, herrand, rfl⟩ := hp
    rw [Program.upholds_bind]
    refine (Manager.upholds_refresh m errand.caller errand.id errand.extension []).mono
      (fun _ _ hrule => ⟨errand, herrand, hrule⟩) ?_
    rintro (fault | lease) _ _ -
    all_goals trivial

theorem TookOver.mono {errands : List Errand} {trace : Trace} {owner : Value} {entry}
    (h : TookOver user id errands trace owner) : TookOver user id errands (entry :: trace) owner := by
  obtain ⟨i, errand, expiry, event, herrand, hid, hne, howner, hmem, hobtains⟩ := h
  exact ⟨i, errand, expiry, event, herrand, hid, hne, howner, List.mem_cons_of_mem _ hmem, hobtains⟩

/-- Whoever moves next, the step keeps what holds of an allocation beside errands. -/
theorem beside_kept (hid : w₀.nextId ≠ "") (hlist : w₀.plan.list = none)
    (wanted : ClusterDemand) (errands : List Errand) :
    Pool.Keeps answerAt Moment.Universal (besideRule caller wanted errands)
      (Beside w₀ caller.user errands) := by
  rintro trace w i now call hnow h hrule
  have hread := readUniversally_cons (i := i) hnow w call h.read
  have hmono (owner : Value) (htook : TookOver caller.user w₀.nextId errands trace owner) :
      TookOver caller.user w₀.nextId errands ((i, ⟨call, (answerAt now call w).1⟩) :: trace) owner :=
    htook.mono
  cases i with
  | zero =>
    -- The allocation asks, at a time of day that changes nothing about what is there.
    obtain ⟨hpermits, hallots⟩ := hrule
    have hdrawing : Drawing w₀ (pastOf trace 0) { w with now := now } :=
      ⟨h.drawing.plan, h.drawing.undrawn, h.drawing.drawn⟩
    have hholding : Holding caller.user w₀.nextId (pastOf trace 0) { w with now := now } :=
      ⟨h.holding.named, h.holding.complete⟩
    have hleased : Leased caller.user w₀.nextId (TookOver caller.user w₀.nextId errands trace)
        (pastOf trace 0) { w with now := now } := h.leased
    have hnone : w.plan.list = none := by rw [hdrawing.plan, hlist]
    refine ⟨hread, ?_, ?_, ?_, ?_⟩ <;> rw [Pool.pastOf_cons_self]
    · exact hdrawing.answer hallots
    · exact hholding.answer hid hdrawing.drawn hpermits
    · exact (hleased.answer (h.read 0) hdrawing.drawn hallots).mono hmono
    · exact Truthful.mono hmono ⟨told_answer (w := { w with now := now }) hnone hholding hleased call,
        h.truthful⟩
  | succ i =>
    -- A refresh asks. The events of the allocation stay what they are, and only its lease may change.
    obtain ⟨errand, herrand, hrenews⟩ := hrule
    obtain ⟨leases, htells, hbelongs⟩ := h.leased
    obtain ⟨⟨hplan, -, hcontainers, hissued⟩, leases', htells', hchange⟩ :=
      change_of_renews htells (h.read (i + 1)) now hrenews
    refine ⟨hread, ?_, ?_, ?_, ?_⟩ <;> rw [Pool.pastOf_cons_of_ne (Nat.succ_ne_zero i)]
    · exact ⟨hplan.trans h.drawing.plan, fun hnone => hissued.trans (h.drawing.undrawn hnone),
        h.drawing.drawn⟩
    · refine ⟨fun held hheld => h.holding.named held (hcontainers ▸ hheld), fun hnone container hmade => ?_⟩
      rw [hcontainers]
      exact h.holding.complete hnone container hmade
    · refine Leased.change htells' hbelongs hchange hmono fun heq hne expiry hobtains => ?_
      exact ⟨i, errand, expiry, _, herrand, heq, hne, rfl, List.mem_cons_self, hobtains⟩
    · exact h.truthful.mono hmono

theorem beside_start {leases : Leases} (htells : w.Tells leases) (user : String)
    (hunused : ∀ held ∈ w.containers, Cluster.idOf? held.info ≠ some w.nextId) (errands : List Errand) :
    Beside w user errands [] w where
  read _ _ hmem := by cases hmem
  drawing := ⟨rfl, fun _ => rfl, fun _ h => by cases h⟩
  holding := ⟨fun held hheld hcarries => absurd hcarries (hunused held hheld), fun _ _ h => by cases h⟩
  leased := ⟨leases, htells, fun ⟨_, hmem⟩ => by cases hmem⟩
  truthful := trivial

/--
An allocation runs beside refreshes of others, of whatever clusters, each question at a time of its own.
If it ends in an error, it has stopped all containers that it created. Otherwise it has stopped none, for
another caller's refresh obtained the cluster, and the rollback read the lease as theirs.
-/
theorem rolled_back_or_taken_over (m : Manager) (caller : Caller) (wanted : ClusterDemand)
    (errands : List Errand) {leases : Leases} (huser : caller.user ≠ "") (hlist : w.plan.list = none)
    (hid : w.nextId ≠ "") (hunused : ∀ held ∈ w.containers, Cluster.idOf? held.info ≠ some w.nextId)
    (htells : w.Tells leases) {schedule : List (Nat × Moment)}
    (hutc : ∀ slot ∈ schedule, slot.2.Universal) :
    let last := (allocating m w caller wanted errands).after answerAt schedule
    let asked := pastOf last.trace 0
    ∀ fault, last.outcome? 0 = some (.error fault) →
      (∀ container ∈ made asked, container ∈ stops asked) ∨
      stops asked = [] ∧ ∃ lease : Lease, ⟨.fetchLease w.nextId, .ok lease⟩ ∈ asked ∧
        TookOver caller.user w.nextId errands last.trace lease.owner := by
  intro last asked fault hfault
  -- The goal of the allocation speaks of all who have taken the cluster over by the end.
  have hupholds := upholds_allocating m w huser wanted errands
    (TookOver caller.user w.nextId errands last.trace)
  obtain ⟨hgoals, hinv⟩ := Pool.after_keeps (beside_kept hid hlist wanted errands) hupholds
    (beside_start htells caller.user hunused errands) hutc
  rcases hgoals.goal_of_outcome hfault fault rfl with hnone | ⟨id, hdrawn, hundone⟩
  · refine .inl fun container hcontainer => ?_
    rw [hnone] at hcontainer
    cases hcontainer
  · obtain rfl := hinv.drawing.drawn id hdrawn
    exact hundone hinv.truthful

namespace Sample

/-- Two nodes are allocated, of which the second one does not start. Someone without regard for
ownership refreshes the cluster after so many answers. -/
def failing (answers : Nat) : Pool Manager.interface Unit World :=
  (allocating manager (initial halting .yaml newYear) ann pair [⟨root, "i", minute⟩]).after answerAt
    (List.replicate answers (0, newYear) ++ List.replicate 5 (1, newYear) ++
      List.replicate 6 (0, newYear))

end Sample

open Sample in
/-- The cluster is refreshed after the rollback has read its lease, which is too late to matter. -/
theorem rolled_back_or_taken_over_of_late :
    (∃ fault, (failing 19).outcome? 0 = some (.error fault)) ∧ (failing 19).value? 1 = some () ∧
    made (pastOf (failing 19).trace 0) = ["cc", "c"] ∧
    ∀ container ∈ made (pastOf (failing 19).trace 0), container ∈ stops (pastOf (failing 19).trace 0) := by
  have hid : (initial halting .yaml newYear).nextId ≠ "" := by decide +kernel
  have hutc : ∀ slot ∈ List.replicate 19 (0, newYear) ++ List.replicate 5 (1, newYear) ++
      List.replicate 6 (0, newYear), slot.2.Universal := by decide +kernel
  obtain ⟨fault, hfault⟩ : ∃ fault, (failing 19).outcome? 0 = some (.error fault) :=
    Pool.outcome?_of_value?_eq_none (by decide +kernel) (by decide +kernel)
  refine ⟨⟨fault, hfault⟩, by decide +kernel, by decide +kernel, ?_⟩
  rcases rolled_back_or_taken_over manager ann pair [⟨root, "i", minute⟩] (by decide) rfl hid
    (fun _ h => by cases h) (.inl rfl) hutc fault hfault with hall | ⟨hquiet, -⟩
  · exact hall
  · have hsome : stops (pastOf (failing 19).trace 0) ≠ [] := by decide +kernel
    exact absurd hquiet hsome

open Sample in
/-- The cluster is refreshed while its nodes start. Then its rollback is refused, and both containers
stay. -/
theorem rollback_refused_after_takeover :
    (∃ fault, (failing 14).outcome? 0 = some (.error fault)) ∧ (failing 14).value? 1 = some () ∧
    made (pastOf (failing 14).trace 0) = ["cc", "c"] ∧ stops (pastOf (failing 14).trace 0) = [] ∧
    (failing 14).state.containers.map (·.info.id) = ["c", "cc"] := by
  refine ⟨Pool.outcome?_of_value?_eq_none ?_ ?_, ?_, ?_, ?_, ?_⟩
  all_goals decide +kernel

end ClusterLease.World
