import Mathlib.Data.List.Perm.Subperm
import ClusterLease.Proofs.Demand
import ClusterLease.Proofs.World.Stopping

/-!
Allocating in a world.

The plan of a world decides what becomes of a node before it is asked for: whether its container is
there afterwards, what went wrong, and what was asked (`Plan.course`). The nodes of an allocation
take their courses one after another (`run_allocateNodes`), and the fault of the first course that
has one becomes the fault of the whole allocation, once the cluster was killed (`run_allocate`).
-/

namespace ClusterLease.World

open Container (Info Networks Spec)
open Manager (Call Finished)

/-! ### The table of containers -/

section Table

variable {held other : Held} {table : List Held}

theorem put_of_fresh (h : ∀ other ∈ table, other.info.id ≠ held.info.id) :
    putContainer.put held table = table ++ [held] := by
  induction table with
  | nil => rfl
  | cons first rest ih =>
    rw [putContainer.put, if_neg (h first (by simp)), ih fun other hother =>
      h other (by simp [hother])]
    rfl

theorem find_put (held : Held) (table : List Held) :
    (putContainer.put held table).find? (fun other => other.info.id == held.info.id) =
      some held := by
  induction table with
  | nil => simp [putContainer.put]
  | cons first rest ih =>
    rw [putContainer.put]
    split
    · simp
    · next hne => rw [List.find?_cons_of_neg (by simpa using hne), ih]

/-- Putting a container twice leaves it as it was put last. -/
theorem put_put (h : other.info.id = held.info.id) (table : List Held) :
    putContainer.put other (putContainer.put held table) = putContainer.put other table := by
  induction table with
  | nil => simp [putContainer.put, h]
  | cons first rest ih =>
    by_cases hid : first.info.id = held.info.id
    · simp [putContainer.put, h, hid]
    · simp [putContainer.put, h, hid, ih]

/-- Putting a container adds it at most, and may take the place of one with its id. -/
theorem put_subperm (held : Held) (table : List Held) :
    (putContainer.put held table).Subperm (held :: table) := by
  induction table with
  | nil => exact List.Subperm.refl _
  | cons first rest ih =>
    rw [putContainer.put]
    split
    · exact ((List.sublist_cons_self first rest).cons_cons held).subperm
    · exact ((List.subperm_cons first).2 ih).trans (List.Perm.swap held first rest).subperm

end Table

/-! ### Courses -/

/-- What becomes of one node: the container that is there afterwards, what went wrong, and what was
asked. -/
structure Course where
  held : Option Held
  fault : Option Fault
  calls : List Call

/-- What a course comes to for the one who waits for it. -/
def Course.outcome (course : Course) : Except Fault Unit :=
  match course.fault with
  | none => .ok ()
  | some fault => .error fault

/-- What goes wrong with a registration, unless it is only that the service refuses it. -/
def putFault? : Except Dns.PutError Dns.Response → Option Fault
  | .error (.other (.registration ..)) => none
  | .error (.other fault) => some fault
  | _ => none

namespace Plan

/-- The fault of writing addresses one after another, and what was asked. Empty ones are passed
over. -/
def registering (plan : Plan) (registrar : Dns.Registrar) (hostname : String) :
    List Value → Option Fault × List Call
  | [] => (none, [])
  | ip :: rest =>
    if ip.isTruthy then
      let request := registrar.request hostname ip
      match putFault? (plan.dns request) with
      | some fault => (some fault, [.put request])
      | none =>
        let others := plan.registering registrar hostname rest
        (others.1, .put request :: others.2)
    else plan.registering registrar hostname rest

/-- The fault of registering the addresses of a node, and what was asked. -/
def registeringNode (plan : Plan) (m : Manager) (containerName : String) (networks : Networks) :
    Option Fault × List Call :=
  match m.registrar, networks.address? m.config.networkName with
  | some registrar, some address =>
    plan.registering registrar s!"{containerName}.{m.config.dnsDomainSuffix}"
      [address.ipv4, address.ipv6]
  | _, _ => (none, [])

/-- The course of the node that gets the container with a number. -/
def course (plan : Plan) (m : Manager) (number : Nat) (spec : Spec) : Course :=
  let (id, networks) := plan.made number
  let created : Info := ⟨id, "created", spec.labels, []⟩
  let running : Info := ⟨id, "running", spec.labels, networks⟩
  match plan.create spec, plan.start created, plan.inspect running with
  | some fault, _, _ => ⟨none, some fault, [.create spec]⟩
  | none, some fault, _ => ⟨some ⟨created, networks⟩, some fault, [.create spec, .start id]⟩
  | none, none, some fault =>
      ⟨some ⟨running, networks⟩, some fault, [.create spec, .start id, .inspect id]⟩
  | none, none, none =>
    let (fault, puts) := plan.registeringNode m spec.name (plan.found.getD networks)
    ⟨some ⟨running, networks⟩, fault, [.create spec, .start id, .inspect id] ++ puts⟩

/-- The courses of nodes, one after another, when so many containers were created before. -/
def courses (plan : Plan) (m : Manager) : Nat → List Spec → List Course
  | _, [] => []
  | created, spec :: rest =>
    let course := plan.course m (created + 1) spec
    course :: plan.courses m (created + course.held.toList.length) rest

end Plan

/-- The world after one course: its container, if it left one, and its calls. -/
def afterCourse (w : World) (course : Course) : World :=
  { w with
    containers := match course.held with
      | some held => putContainer.put held w.containers
      | none => w.containers
    created := w.created + course.held.toList.length
    calls := w.calls ++ course.calls }

/-! ### One node -/

variable {w : World} {m : Manager} {caller : Caller} {registrar : Dns.Registrar} {hostname : String}
    {ip : Value}

/-- What registering came to, and the world with the calls of it noted. -/
def registered (w : World) (registering : Option Fault × List Call) : Except Fault Unit × World :=
  (match registering.1 with
    | some fault => .error fault
    | none => .ok (),
    { w with calls := w.calls ++ registering.2 })

theorem run_registerAddress (w : World) :
    (Manager.registerAddress registrar hostname ip).run answerQuietly w =
      w.registered (w.plan.registering registrar hostname [ip]) := by
  rw [Manager.registerAddress, Plan.registering, Plan.registering]
  split
  · have hrun :
      ((registrar.register hostname ip).through Manager.answerRegistrar).run answerQuietly w =
        (Dns.accepted hostname ip (w.plan.dns (registrar.request hostname ip)),
          w.noting (.put (registrar.request hostname ip))) := rfl
    rw [Program.run_bind, Program.run_attempt, hrun]
    dsimp only
    cases w.plan.dns (registrar.request hostname ip) with
    | ok response =>
      by_cases hstatus : response.status = 200
      · rw [Dns.accepted, if_pos hstatus]
        rfl
      · rw [Dns.accepted, if_neg hstatus]
        rfl
    | error problem =>
      -- A service that cannot be reached is logged, and any other fault ends the registration.
      cases problem with
      | unreachable reason => rfl
      | other fault => cases fault <;> rfl
  · simp [registered]

/-- The addresses after the first one are written if it does not fail. -/
theorem run_registerAddress_bind {rest : ManagerM Unit} {ips : List Value}
    (h : ∀ now : World, now.plan = w.plan →
      rest.run answerQuietly now = now.registered (w.plan.registering registrar hostname ips)) :
    (Manager.registerAddress registrar hostname ip >>= fun _ => rest).run answerQuietly w =
      w.registered (w.plan.registering registrar hostname (ip :: ips)) := by
  rw [Program.run_bind, run_registerAddress, Plan.registering, Plan.registering, Plan.registering]
  -- An empty address makes no request; the others go on only if theirs had no fault.
  cases ip.isTruthy with
  | false =>
    rw [if_neg Bool.false_ne_true, if_neg Bool.false_ne_true]
    simp only [registered, List.append_nil]
    exact h w rfl
  | true =>
    rw [if_pos rfl, if_pos rfl]
    dsimp only
    cases putFault? (w.plan.dns (registrar.request hostname ip)) with
    | some fault => rfl
    | none =>
      have hrest := h (w.noting (.put (registrar.request hostname ip))) rfl
      simp only [registered, noting] at hrest ⊢
      rw [hrest, List.append_assoc]
      rfl

/-- Registering a node makes the requests of the plan, and stops at the first that fails. -/
theorem run_registerNode (w : World) (containerName : String) (networks : Networks) :
    (m.registerNode containerName networks).run answerQuietly w =
      w.registered (w.plan.registeringNode m containerName networks) := by
  rw [Manager.registerNode, Plan.registeringNode]
  cases m.registrar with
  | none => simp [registered]
  | some registrar =>
    cases networks.address? m.config.networkName with
    | none => simp [registered]
    | some address =>
      exact run_registerAddress_bind fun now hplan => hplan ▸ run_registerAddress now

/-- The world while a node takes its course: its container, and what was asked so far. -/
def holding (w : World) (held : Held) (calls : List Call) : World :=
  w.afterCourse ⟨some held, none, calls⟩

theorem holding_held? (w : World) (held : Held) (calls : List Call) :
    (w.holding held calls).held? held.info.id = some held := find_put held w.containers

/-- Creating either fails and leaves a note of the call, or leaves a container that is not running. -/
theorem run_create (w : World) (spec : Spec) :
    (Manager.create spec).run answerQuietly w =
      match w.plan.create spec with
      | some fault => (.error fault, w.noting (.create spec))
      | none =>
        let (id, networks) := w.plan.made (w.created + 1)
        (.ok id, w.holding ⟨⟨id, "created", spec.labels, []⟩, networks⟩ [.create spec]) := by
  show (((w.noting (.create spec)).create spec).1,
    ((w.noting (.create spec)).create spec).2.withLogs w.logs) = _
  simp only [create, noting]
  cases w.plan.create spec <;> rfl

/-- Starting either fails, or turns the container's state and shows the networks that it gets. -/
theorem run_start (w : World) (held : Held) (calls : List Call) :
    (Manager.start held.info.id).run answerQuietly (w.holding held calls) =
      match w.plan.start held.info with
      | some fault => (.error fault, w.holding held (calls ++ [.start held.info.id]))
      | none =>
        (.ok (), w.holding
          { held with info := { held.info with state := "running", networks := held.whenStarted } }
          (calls ++ [.start held.info.id])) := by
  have hnoting : (w.holding held calls).noting (.start held.info.id) =
      w.holding held (calls ++ [.start held.info.id]) := by simp [holding, afterCourse, noting]
  show (((w.holding held calls).noting (.start held.info.id)).start held.info.id |>.1,
    (((w.holding held calls).noting (.start held.info.id)).start held.info.id).2.withLogs
      w.logs) = _
  rw [hnoting, start, holding_held?]
  dsimp only
  have hplan : (w.holding held (calls ++ [.start held.info.id])).plan = w.plan := rfl
  rw [hplan]
  cases w.plan.start held.info with
  | some fault => rfl
  | none => simp [holding, afterCourse, putContainer, withLogs, put_put]

theorem run_inspect (w : World) (held : Held) (calls : List Call) :
    (Manager.inspect held.info.id).run answerQuietly (w.holding held calls) =
      (match w.plan.inspect held.info with
        | some fault => .error fault
        | none => .ok (w.plan.found.getD held.info.networks),
          w.holding held (calls ++ [.inspect held.info.id])) := by
  have hnoting : (w.holding held calls).noting (.inspect held.info.id) =
      w.holding held (calls ++ [.inspect held.info.id]) := by simp [holding, afterCourse, noting]
  show ((w.holding held calls).inspect held.info.id,
    (w.holding held calls).noting (.inspect held.info.id)) = _
  have hplan : (w.holding held calls).plan = w.plan := rfl
  rw [hnoting, inspect, holding_held?]
  cases hinspect : w.plan.inspect held.info with
  | some fault => simp only [hplan, hinspect]
  | none => simp only [hplan, hinspect]

/-- A node takes the course that the plan has for it. -/
theorem run_allocateNode (m : Manager) (caller : Caller) (w : World) (id : String) (expiry : Moment)
    {node : NodeDemand} {version : Version} (hversion : node.version = some version) :
    (do let _ ← m.allocateNode caller id expiry node : ManagerM Unit).run answerQuietly w =
      ((w.plan.course m (w.created + 1) (m.nodeSpec caller id node version)).outcome,
        w.afterCourse (w.plan.course m (w.created + 1) (m.nodeSpec caller id node version))) := by
  have hresolved : node.resolvedVersion = .ok version := by
    rw [NodeDemand.resolvedVersion, hversion]
  rw [Program.run_bind, Manager.allocateNode, hresolved]
  simp only [run_info_bind]
  rw [Program.run_bind, run_ofExcept]
  dsimp only
  rw [run_info_bind, Program.run_bind, run_create, Plan.course]
  generalize m.nodeSpec caller id node version = spec
  -- Each of the steps may fail, and the course says what is there then.
  cases hmade : w.plan.made (w.created + 1) with
  | mk container networks =>
  cases hcreate : w.plan.create spec with
  | some fault => simp [afterCourse, Course.outcome, noting]
  | none =>
    -- The container is there from here on, and a fault ends the course with it.
    have hstart := run_start w ⟨⟨container, "created", spec.labels, []⟩, networks⟩ [.create spec]
    dsimp only at hstart ⊢
    rw [Program.run_bind, hstart]
    cases w.plan.start ⟨container, "created", spec.labels, []⟩ with
    | some fault => rfl
    | none =>
      have hinspect := run_inspect w ⟨⟨container, "running", spec.labels, networks⟩, networks⟩
        [.create spec, .start container]
      dsimp only [List.cons_append, List.nil_append] at hinspect ⊢
      rw [Program.run_bind, hinspect]
      cases w.plan.inspect ⟨container, "running", spec.labels, networks⟩ with
      | some fault => rfl
      | none =>
        dsimp only
        rw [Program.run_bind, run_registerNode]
        have hplan (held : Held) (calls : List Call) : (w.holding held calls).plan = w.plan := rfl
        rw [hplan]
        cases w.plan.registeringNode m spec.name (w.plan.found.getD networks) with
        | mk fault puts =>
        cases fault <;> simp [registered, holding, afterCourse, Course.outcome]

/-! ### All nodes -/

/-- The container of a node, where its version is known. -/
def specOf? (m : Manager) (caller : Caller) (id : String) (node : NodeDemand) : Option Spec :=
  node.version.map (m.nodeSpec caller id node)

def afterCourses (w : World) (courses : List Course) : World := courses.foldl afterCourse w

/-- Courses change containers and nothing else but what was asked. -/
theorem afterCourses_frame (w : World) (courses : List Course) : ∃ containers created calls,
    w.afterCourses courses =
      { w with containers := containers, created := created, calls := calls } := by
  induction courses generalizing w with
  | nil => exact ⟨_, _, _, rfl⟩
  | cons course rest ih =>
    obtain ⟨containers, created, calls, h⟩ := ih (w.afterCourse course)
    exact ⟨containers, created, calls, h⟩

/-- Nodes take their courses one after another, whatever becomes of the others. -/
theorem run_allocateNodes (m : Manager) (caller : Caller) (id : String) (expiry : Moment)
    {nodes : List NodeDemand} (hversions : ∀ node ∈ nodes, node.version.isSome) (w : World) :
    ∃ finished,
      (Manager.runAll (fun node => do let _ ← m.allocateNode caller id expiry node) nodes).run
        answerQuietly w = (.ok finished,
          w.afterCourses (w.plan.courses m w.created (nodes.filterMap (specOf? m caller id)))) ∧
      finished.map Finished.fault? =
        (w.plan.courses m w.created (nodes.filterMap (specOf? m caller id))).map (·.fault) := by
  induction nodes generalizing w with
  | nil => exact ⟨[], rfl, rfl⟩
  | cons node rest ih =>
    obtain ⟨version, hversion⟩ := Option.isSome_iff_exists.1 (hversions node (by simp))
    have hspecs : (node :: rest).filterMap (specOf? m caller id) =
        m.nodeSpec caller id node version :: rest.filterMap (specOf? m caller id) := by
      rw [List.filterMap_cons, specOf?, hversion]
      rfl
    rw [hspecs, Plan.courses]
    -- One node takes its course, and the others start where it ended.
    have hrun := run_allocateNode m caller w id expiry hversion
    generalize w.plan.course m (w.created + 1) (m.nodeSpec caller id node version) = course
      at hrun ⊢
    obtain ⟨finished, hrest, hfaults⟩ := ih (fun other hother => hversions other (by simp [hother]))
      (w.afterCourse course)
    refine ⟨⟨node, course.outcome⟩ :: finished, ?_, ?_⟩
    · rw [Manager.runAll, Program.run_bind, Program.run_attempt, hrun]
      dsimp only
      rw [Program.run_bind, hrest]
      rfl
    · rw [List.map_cons, List.map_cons, hfaults]
      congr 1
      rw [Finished.fault?, Course.outcome]
      cases course.fault <;> rfl

/-- The cluster id that is made from the text that is drawn next. -/
def nextId (w : World) : String :=
  String.ofList ((w.plan.ids (w.issued + 1)).toList.take Manager.idLength)

/-- The world in which an id was drawn. -/
def drawing (w : World) : World := { w with issued := w.issued + 1 }

/-- The world in which an id was drawn and its lease was put down. -/
def keeping (w : World) (lease : Lease) : World :=
  { w with issued := w.issued + 1, store := (w.store.create w.format w.nextId lease).store }

/-- The courses of the nodes of an allocation, in the order in which they run. -/
def coursesOf (w : World) (m : Manager) (caller : Caller) (nodes : List NodeDemand) : List Course :=
  w.plan.courses m w.created
    ((w.arranged s!"allocate-{w.nextId}" nodes).filterMap (specOf? m caller w.nextId))

/-- The courses of the nodes of an allocation, in their completion order. -/
def completedCourses (w : World) (m : Manager) (caller : Caller) (nodes : List NodeDemand) : List Course :=
  w.completed s!"allocate-{w.nextId}" (w.coursesOf m caller nodes)

def firstFault (courses : List Course) : Option Fault := courses.findSome? (·.fault)

/-- The nodes of an allocation take their courses in the order of the plan. The first fault in completion order
is reported. -/
theorem run_fanOut_nodes (w : World) (m : Manager) (caller : Caller) {nodes : List NodeDemand}
    (lease : Lease) (expiry : Moment) (hversions : ∀ node ∈ nodes, node.version.isSome) :
    (Manager.fanOut s!"allocate-{w.nextId}" NodeDemand.shown
      (fun node => do let _ ← m.allocateNode caller w.nextId expiry node) nodes).run
      answerQuietly (w.keeping lease) =
      (.ok (firstFault (w.completedCourses m caller nodes)),
        (w.keeping lease).afterCourses (w.coursesOf m caller nodes)) := by
  have harranged : ∀ node ∈ (w.keeping lease).arranged s!"allocate-{w.nextId}" nodes,
      node.version.isSome :=
    fun node hnode => hversions node ((arranged_perm _ _ nodes).mem_iff.1 hnode)
  obtain ⟨finished, hrun, hfaults⟩ :=
    run_allocateNodes m caller w.nextId expiry harranged (w.keeping lease)
  -- Courses leave the plan as it is, and so the completion order.
  obtain ⟨containers, created, calls, hlast⟩ :=
    (w.keeping lease).afterCourses_frame (w.coursesOf m caller nodes)
  have hfirst : (((w.keeping lease).afterCourses (w.coursesOf m caller nodes)).completed
      s!"allocate-{w.nextId}" finished).findSome? Finished.fault? =
        firstFault (w.completedCourses m caller nodes) := by
    rw [findSome?_completed _ _ hfaults, hlast]
    rfl
  rw [run_fanOut _ NodeDemand.shown hrun]
  exact Prod.ext (congrArg Except.ok hfirst) rfl

/-- Whatever comes of the kill, the cleanup goes on as if nothing had failed. -/
theorem run_cleanUp (w : World) (id : String) : (m.cleanUp caller id).run answerQuietly w =
    (.ok (), ((m.kill caller id).run answerQuietly w).2) := by
  rw [Manager.cleanUp, Program.run_bind, Program.run_attempt]
  dsimp only
  cases (m.kill caller id).run answerQuietly w with
  | mk outcome last =>
  cases outcome with
  | ok _ => rfl
  | error failed => cases failed <;> rfl

/-- An allocation puts the lease down and lets the nodes take their courses. If one of them has a
fault the cluster is killed, and the first fault in completion order is the outcome, whatever comes of
the kill. -/
theorem run_allocate (w : World) {wanted : ClusterDemand} {nodes : List NodeDemand}
    {length : Duration} {expiry : Moment} (hchecked : wanted.checked m.limits = .ok nodes)
    (hlength : m.config.defaultLease = .ok length) (hexpiry : w.clock.add? length = some expiry)
    (hkept : (w.store.create w.format w.nextId (Lease.ofUser caller.user expiry)).answer = .ok ()) :
    (m.allocate caller wanted).run answerQuietly w =
      match firstFault (w.completedCourses m caller nodes) with
      | none => (.ok w.nextId,
          (w.keeping (Lease.ofUser caller.user expiry)).afterCourses (w.coursesOf m caller nodes))
      | some fault => (.error fault, ((m.kill caller w.nextId).run answerQuietly
          ((w.keeping (Lease.ofUser caller.user expiry)).afterCourses
            (w.coursesOf m caller nodes))).2) := by
  have hlater : Manager.laterBy w.clock length = .ok expiry := by
    rw [Manager.laterBy, hexpiry]
    rfl
  have hkeep :
      (Manager.keepLease w.nextId (Lease.ofUser caller.user expiry)).run answerQuietly w.drawing =
      (.ok (), w.keeping (Lease.ofUser caller.user expiry)) := Prod.ext hkept rfl
  have hnodes := run_fanOut_nodes w m caller (Lease.ofUser caller.user expiry) expiry
    (ClusterDemand.checked_ok hchecked).versions
  -- The operation is run call by call down to its tasks, whose courses are known as a whole.
  rw [Manager.allocate, run_info_bind, Program.run_bind, run_ofExcept, hchecked]
  dsimp only
  rw [run_ask_bind, run_ask_bind, Program.run_bind, run_ofExcept, hlength]
  dsimp only
  have hid : String.ofList ((w.plan.ids (w.issued + 1)).toList.take Manager.idLength) = w.nextId :=
    rfl
  have hdraw : answerQuietly .freshId w = (w.plan.ids (w.issued + 1), w.drawing) := rfl
  have hclock : answerQuietly .now w.drawing = (w.clock, w.drawing) := rfl
  rw [hdraw]
  dsimp only
  rw [hclock, hid]
  dsimp only
  rw [Program.run_bind, run_ofExcept, hlater]
  dsimp only
  rw [Program.run_bind, hkeep]
  dsimp only
  rw [Program.run_bind, hnodes]
  dsimp only
  cases firstFault (w.completedCourses m caller nodes) with
  | none => rfl
  | some fault =>
    rw [Program.run_bind, run_cleanUp]
    rfl

end ClusterLease.World
