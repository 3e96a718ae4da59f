import ClusterLease.Manager
import ClusterLease.Proofs.Demand

/-!
Which demands are met, and what is said of the others.

A demand is `Legal` if its timeout and the number of its nodes are within the limits, its nodes go by
distinct host names, and all of their versions are known. Any other demand is `Refused`: for the first
limit that it breaks, or else for the first of its nodes that has a `Problem`. These are exactly the
demands that pass their checks and those that do not (`checked_exactly`).

The limit of timeouts is a setting, which may itself be too long for a duration. Then no timeout can be
compared with it, and every demand fails as the limit does (`overflow_of_lavish`).
-/

namespace ClusterLease

namespace ClusterDemand

/-- Nodes from some place on, under the names that they go by. -/
def namedFrom (index : Nat) (demands : List NodeDemand) : List NodeDemand :=
  (demands.zipIdx index).map fun (demand, place) => demand.named place

/-- The nodes of a demand, under the names that they go by. -/
def named (demand : ClusterDemand) : List NodeDemand := namedFrom 0 demand.nodes

/-- The timeout is positive, and not longer than the limit. -/
def TimeoutLegal (demand : ClusterDemand) (limits : Limits) : Prop :=
  .zero < demand.timeout ∧ ∃ longest, limits.timeout = .ok longest ∧ demand.timeout ≤ longest

/-- There is a node, and there are not too many. -/
def CountLegal (demand : ClusterDemand) (limits : Limits) : Prop :=
  1 ≤ demand.nodes.length ∧ (demand.nodes.length : Int) ≤ limits.nodes

instance (demand : ClusterDemand) (limits : Limits) : Decidable (demand.CountLegal limits) :=
  inferInstanceAs (Decidable (_ ∧ _))

/-- What has to be so for a demand to pass. -/
structure Legal (demand : ClusterDemand) (limits : Limits) : Prop where
  timeout : demand.TimeoutLegal limits
  count : demand.CountLegal limits
  hostNames : (demand.named.map (·.hostName)).Nodup
  versions : ∀ node ∈ demand.nodes, ∃ version, Version.resolve node.serverVersion = .ok version

/-- What is wrong with the node at a place: a node before it has its host name, or else its version is
not known. -/
inductive Problem (nodes : List NodeDemand) : (place : Nat) → Fault → Prop where
  | taken {first place : Nat} {one other : NodeDemand} (hbefore : first < place)
      (hone : nodes[first]? = some one) (hother : nodes[place]? = some other)
      (hsame : one.hostName = other.hostName) :
      Problem nodes place (.rejected (.sameHostName one.name other.name))
  | unknown {place : Nat} {node : NodeDemand} {fault : Fault} (hnode : nodes[place]? = some node)
      (hfree : ∀ first < place, ∀ one, nodes[first]? = some one → one.hostName ≠ node.hostName)
      (hversion : Version.resolve node.serverVersion = .error fault) : Problem nodes place fault

/-- No node before the place has a problem. -/
def FineBefore (nodes : List NodeDemand) (place : Nat) : Prop :=
  ∀ earlier < place, ∀ fault, ¬Problem nodes earlier fault

/-- What is wrong with the first node that has a problem. -/
def FirstProblem (nodes : List NodeDemand) (fault : Fault) : Prop :=
  ∃ place, Problem nodes place fault ∧ FineBefore nodes place

/-- The fault of a demand that is not legal: limits come first, one after another, and then nodes. -/
inductive Refused (demand : ClusterDemand) (limits : Limits) : Fault → Prop where
  | notPositive (h : demand.timeout ≤ .zero) : Refused demand limits (.rejected .timeoutNotPositive)
  | unbounded {fault : Fault} (hpositive : .zero < demand.timeout) (h : limits.timeout = .error fault) :
      Refused demand limits fault
  | tooLong {longest : Duration} (hpositive : .zero < demand.timeout)
      (hlimit : limits.timeout = .ok longest) (h : longest < demand.timeout) :
      Refused demand limits (.rejected (.timeoutTooLong longest))
  | noNodes (htimeout : demand.TimeoutLegal limits) (h : demand.nodes = []) :
      Refused demand limits (.rejected .noNodes)
  | tooMany (htimeout : demand.TimeoutLegal limits) (hsome : demand.nodes ≠ [])
      (h : limits.nodes < demand.nodes.length) :
      Refused demand limits (.rejected (.tooManyNodes limits.nodes))
  | node {fault : Fault} (htimeout : demand.TimeoutLegal limits) (hcount : demand.CountLegal limits)
      (h : FirstProblem demand.named fault) : Refused demand limits fault

variable {demand : ClusterDemand} {limits : Limits} {nodes demands before : List NodeDemand}
  {fault other : Fault} {place : Nat} {taken : Table String}

theorem namedFrom_cons (index : Nat) (demand : NodeDemand) (rest : List NodeDemand) :
    namedFrom index (demand :: rest) = demand.named index :: namedFrom (index + 1) rest := rfl

/-- A name that is made up does not touch the version. -/
theorem serverVersion_named (demand : NodeDemand) (index : Nat) :
    (demand.named index).serverVersion = demand.serverVersion := by
  rw [NodeDemand.named]
  split <;> rfl

/-- The version of a node is resolved from its text if none was given. -/
theorem resolvedVersion_of_unset {demand : NodeDemand} (h : demand.version = none) :
    demand.resolvedVersion = Version.resolve demand.serverVersion := by
  rw [NodeDemand.resolvedVersion, h]

theorem resolvedVersion_named {demand : NodeDemand} {index : Nat} (h : demand.version = none) :
    (demand.named index).resolvedVersion = Version.resolve demand.serverVersion := by
  have hunset : (demand.named index).version = none := by
    rw [NodeDemand.named]
    split <;> exact h
  rw [resolvedVersion_of_unset hunset, serverVersion_named]

/-! ### Problems -/

/-- Two nodes with the same host name are a problem of the later one. -/
theorem eq_of_hostName_eq (hfine : FineBefore nodes place) {first second : Nat} {one other : NodeDemand}
    (hfirst : first < place) (hsecond : second < place) (hone : nodes[first]? = some one)
    (hother : nodes[second]? = some other) (hsame : one.hostName = other.hostName) : first = second := by
  rcases Nat.lt_trichotomy first second with hlt | heq | hgt
  · exact absurd (.taken hlt hone hother hsame) (hfine second hsecond _)
  · exact heq
  · exact absurd (.taken hgt hother hone hsame.symm) (hfine first hfirst _)

/-- There is one fault at most in a place before which all is well. -/
theorem Problem.unique (h : Problem nodes place fault) (h' : Problem nodes place other)
    (hfine : FineBefore nodes place) : fault = other := by
  cases h with
  | taken hbefore hone hnode hsame =>
    cases h' with
    | taken hbefore' hone' hnode' hsame' =>
      rw [hnode] at hnode'
      cases hnode'
      -- Only one of the nodes before has this host name.
      obtain rfl := eq_of_hostName_eq hfine hbefore hbefore' hone hone' (hsame.trans hsame'.symm)
      rw [hone] at hone'
      cases hone'
      rfl
    | unknown hnode' hfree _ =>
      rw [hnode] at hnode'
      cases hnode'
      exact absurd hsame (hfree _ hbefore _ hone)
  | unknown hnode hfree hversion =>
    cases h' with
    | taken hbefore' hone' hnode' hsame' =>
      rw [hnode] at hnode'
      cases hnode'
      exact absurd hsame' (hfree _ hbefore' _ hone')
    | unknown hnode' _ hversion' =>
      rw [hnode] at hnode'
      cases hnode'
      exact Except.error.inj (hversion.symm.trans hversion')

/-- The fault that is met first is one fault. -/
theorem FirstProblem.unique (h : FirstProblem nodes fault) (h' : FirstProblem nodes other) :
    fault = other := by
  obtain ⟨place, hproblem, hfine⟩ := h
  obtain ⟨place', hproblem', hfine'⟩ := h'
  rcases Nat.lt_trichotomy place place' with hlt | rfl | hgt
  · exact absurd hproblem (hfine' place hlt _)
  · exact hproblem.unique hproblem' hfine
  · exact absurd hproblem' (hfine place' hgt _)

/-- A node whose host name is new and whose version is known has no problem. -/
theorem FineBefore.succ {node : NodeDemand} {version : Version} (h : FineBefore nodes place)
    (hnode : nodes[place]? = some node)
    (hfree : ∀ first < place, ∀ one, nodes[first]? = some one → one.hostName ≠ node.hostName)
    (hversion : Version.resolve node.serverVersion = .ok version) : FineBefore nodes (place + 1) := by
  intro earlier hearlier fault hproblem
  -- Before the place nothing is new; at the place the node is neither taken nor unknown.
  rcases Nat.lt_succ_iff_lt_or_eq.1 hearlier with hlt | rfl
  · exact h earlier hlt fault hproblem
  · cases hproblem with
    | taken hfirst hone hother hsame =>
      rw [hnode] at hother
      cases hother
      exact hfree _ hfirst _ hone hsame
    | unknown hother _ hunknown =>
      rw [hnode] at hother
      cases hother
      rw [hversion] at hunknown
      cases hunknown

/-- Nodes with distinct host names and known versions have no problem. -/
theorem not_problem (hdistinct : (nodes.map (·.hostName)).Nodup)
    (hversions : ∀ node ∈ nodes, ∃ version, Version.resolve node.serverVersion = .ok version) :
    ¬Problem nodes place fault := by
  intro h
  cases h with
  | @taken first _ one other hbefore hone hother hsame =>
    have hlength : first < (nodes.map (·.hostName)).length := by
      rw [List.length_map]
      exact (List.getElem?_eq_some_iff.1 hone).1
    have hsame' : (nodes.map (·.hostName))[first]? = (nodes.map (·.hostName))[place]? := by
      rw [List.getElem?_map, List.getElem?_map, hone, hother, Option.map_some, Option.map_some, hsame]
    exact absurd ((List.getElem?_inj hlength hdistinct).1 hsame') (Nat.ne_of_lt hbefore)
  | unknown hnode _ hversion =>
    obtain ⟨version, hknown⟩ := hversions _ (List.mem_of_getElem? hnode)
    rw [hversion] at hknown
    cases hknown

/-! ### Nodes one after another -/

/-- A table that holds the host names of nodes, and the names that they belong to. -/
def Holds (taken : Table String) (before : List NodeDemand) : Prop :=
  ∀ key name, taken.get? key = some name ↔ ∃ node ∈ before, node.hostName = key ∧ node.name = name

/-- A host name that was free is taken by the node that has it. -/
theorem Holds.put {node : NodeDemand} (h : Holds taken before) (hfree : taken.get? node.hostName = none) :
    Holds (taken.put node.hostName node.name) (before ++ [node]) := by
  intro key name
  rw [Table.get?_put]
  simp only [List.mem_append, List.mem_singleton, or_and_right, exists_or, exists_eq_left]
  split
  · next heq =>
    -- The node that is put is the only one with its host name.
    have hnone : ¬∃ other ∈ before, other.hostName = key ∧ other.name = name := by
      rw [← h key name, heq, hfree]
      exact fun hsome => by cases hsome
    rw [or_iff_right hnone, and_iff_right heq.symm, Option.some.injEq]
  · next hne =>
    rw [h key name]
    exact (or_iff_left fun hother => hne hother.1.symm).symm

/-- If the checks stop at a node, it is the first one that has a problem. -/
theorem firstProblem_of_error (hunset : ∀ node ∈ demands, node.version = none)
    (htaken : Holds taken before)
    (hfine : FineBefore (before ++ namedFrom before.length demands) before.length)
    (h : checkNodes taken before.length demands = .error fault) :
    FirstProblem (before ++ namedFrom before.length demands) fault := by
  induction demands generalizing taken before with
  | nil => cases h
  | cons demand rest ih =>
    obtain ⟨hthis, hrest⟩ := List.forall_mem_cons.1 hunset
    have hnode : (before ++ namedFrom before.length (demand :: rest))[before.length]? =
        some (demand.named before.length) := by simp [namedFrom_cons]
    have hbefore {first : Nat} (hfirst : first < before.length) :
        (before ++ namedFrom before.length (demand :: rest))[first]? = before[first]? :=
      List.getElem?_append_left hfirst
    rw [checkNodes] at h
    cases hget : taken.get? (demand.named before.length).hostName with
    | some name =>
      simp only [hget] at h
      cases h
      obtain ⟨one, hone, hsame, rfl⟩ := (htaken _ _).1 hget
      obtain ⟨first, hfirst, hone⟩ := List.mem_iff_getElem.1 hone
      refine ⟨before.length, .taken hfirst ?_ hnode hsame, hfine⟩
      rw [hbefore hfirst, List.getElem?_eq_getElem hfirst, hone]
    | none =>
      simp only [hget] at h
      have hfree : ∀ first < before.length, ∀ one,
          (before ++ namedFrom before.length (demand :: rest))[first]? = some one →
          one.hostName ≠ (demand.named before.length).hostName := by
        intro first hfirst one hone hsame
        rw [hbefore hfirst] at hone
        have hget' := (htaken _ one.name).2 ⟨one, List.mem_of_getElem? hone, hsame, rfl⟩
        rw [hget] at hget'
        cases hget'
      rw [resolvedVersion_named hthis, ← serverVersion_named demand before.length] at h
      obtain hversion | ⟨version, hversion, h⟩ := Except.bind_eq_error h
      · exact ⟨before.length, .unknown hnode hfree hversion, hfine⟩
      · obtain hothers | ⟨others, -, h⟩ := Except.bind_eq_error h
        · -- This node is fine, and the others are checked with it among those before.
          have hfine := hfine.succ hnode hfree hversion
          have hsplit : before ++ namedFrom before.length (demand :: rest) =
              (before ++ [demand.named before.length]) ++
                namedFrom (before ++ [demand.named before.length]).length rest := by
            simp [namedFrom_cons]
          have hlength : (before ++ [demand.named before.length]).length = before.length + 1 :=
            List.length_append
          rw [hsplit] at hfine ⊢
          rw [← hlength] at hfine hothers
          exact ih hrest (htaken.put hget) hfine hothers
        · cases h

/-- The checks stop at the first problem of the nodes as they are named. -/
theorem firstProblem_of_checkNodes (hunset : ∀ node ∈ demand.nodes, node.version = none)
    (h : checkNodes [] 0 demand.nodes = .error fault) : FirstProblem demand.named fault := by
  have hnothing : Holds [] [] := fun key name => by simp [Table.get?]
  exact firstProblem_of_error hunset hnothing (fun _ hearlier => absurd hearlier (Nat.not_lt_zero _)) h

/-! ### Demands -/

/-- Versions that can be resolved still can under made-up names. -/
theorem versions_named
    (h : ∀ node ∈ demand.nodes, ∃ version, Version.resolve node.serverVersion = .ok version) :
    ∀ node ∈ demand.named, ∃ version, Version.resolve node.serverVersion = .ok version := by
  intro node hnode
  obtain ⟨⟨asked, place⟩, hmem, rfl⟩ := List.mem_map.1 hnode
  rw [serverVersion_named]
  exact h asked (List.fst_mem_of_mem_zipIdx hmem)

/-- A node has the host name of its demand. -/
theorem Placed.hostName_node (placed : Placed) :
    placed.node.hostName = (placed.demand.named placed.place).hostName := by
  rw [NodeDemand.hostName, NodeDemand.hostName, Placed.node, Placed.name, NodeDemand.named]
  split <;> rfl

/-- Nodes that pass have distinct host names and known versions. -/
theorem legal_nodes_of_checkNodes (hunset : ∀ node ∈ demand.nodes, node.version = none)
    (h : checkNodes [] 0 demand.nodes = .ok nodes) :
    (demand.named.map (·.hostName)).Nodup ∧
      ∀ node ∈ demand.nodes, ∃ version, Version.resolve node.serverVersion = .ok version := by
  -- The checked nodes are the demands in their places, so that names and versions can be read off them.
  obtain ⟨placed, hplaced, rfl⟩ := checkNodes_placed h
  obtain ⟨-, -, hdistinct, -⟩ := checkNodes_ok h
  constructor
  · have hnames : (placed.map Placed.node).map (·.hostName) = demand.named.map (·.hostName) := by
      rw [named, namedFrom, ← hplaced.places, List.map_map, List.map_map, List.map_map]
      exact List.map_congr_left fun one _ => one.hostName_node
    rwa [← hnames]
  · intro node hnode
    have hdemands : placed.map (·.demand) = demand.nodes := by
      rw [← List.zipIdx_map_fst 0 demand.nodes, ← hplaced.places, List.map_map]
      rfl
    obtain ⟨one, hone, heq⟩ := List.mem_map.1 (hdemands ▸ hnode)
    refine ⟨one.version, ?_⟩
    rw [← hplaced.versions one hone, heq, resolvedVersion_of_unset (hunset node hnode)]

theorem lt_of_not_le {short long : Duration} (h : ¬long ≤ short) : short < long := Int.not_le.1 h

theorem not_le_of_lt {short long : Duration} (h : short < long) : ¬long ≤ short := Int.not_le.2 h

/-- A demand that breaks no limit passes if its nodes do. -/
theorem checked_of_within (htimeout : demand.TimeoutLegal limits) (hcount : demand.CountLegal limits) :
    demand.checked limits = checkNodes [] 0 demand.nodes := by
  obtain ⟨hpositive, longest, hlimit, hshort⟩ := htimeout
  obtain ⟨hsome, hfew⟩ := hcount
  have hnotlong : ¬longest < demand.timeout := fun hlong => not_le_of_lt hlong hshort
  have hnotempty : ¬demand.nodes.isEmpty = true := by
    rw [List.isEmpty_iff, ← List.length_eq_zero_iff]
    exact Nat.ne_of_gt hsome
  rw [checked, if_neg (not_le_of_lt hpositive), hlimit]
  show (if longest < demand.timeout then _ else _) = _
  rw [if_neg hnotlong, if_neg hnotempty, if_neg (Int.not_lt.2 hfew)]

/-- A demand fails as it does only if that is how it is refused. -/
theorem refused_of_checked (hunset : ∀ node ∈ demand.nodes, node.version = none)
    (h : demand.checked limits = .error fault) : Refused demand limits fault := by
  rw [checked] at h
  split at h
  · next hnot =>
    cases h
    exact .notPositive hnot
  next hpositive =>
  have hpositive := lt_of_not_le hpositive
  obtain hlimit | ⟨longest, hlimit, h⟩ := Except.bind_eq_error h
  · exact .unbounded hpositive hlimit
  split at h
  · next hlong =>
    cases h
    exact .tooLong hpositive hlimit hlong
  next hshort =>
  have htimeout : demand.TimeoutLegal limits := ⟨hpositive, longest, hlimit, Int.not_lt.1 hshort⟩
  split at h
  · next hempty =>
    cases h
    exact .noNodes htimeout (List.isEmpty_iff.1 hempty)
  next hsome =>
  have hsome : demand.nodes ≠ [] := fun hempty => hsome (List.isEmpty_iff.2 hempty)
  split at h
  · next hmany =>
    cases h
    exact .tooMany htimeout hsome hmany
  next hfew =>
  have hcount : demand.CountLegal limits :=
    ⟨List.length_pos_iff.2 hsome, Int.not_lt.1 hfew⟩
  exact .node htimeout hcount (firstProblem_of_checkNodes hunset h)

/-- Each reason to refuse a demand makes the checks fail with its own fault. -/
theorem checked_of_refused (hunset : ∀ node ∈ demand.nodes, node.version = none)
    (h : Refused demand limits fault) : demand.checked limits = .error fault := by
  have htimely {limits : Limits} (htimeout : demand.TimeoutLegal limits) : ∃ longest,
      limits.timeout = .ok longest ∧ ¬demand.timeout ≤ .zero ∧ ¬longest < demand.timeout := by
    obtain ⟨hpositive, longest, hlimit, hshort⟩ := htimeout
    exact ⟨longest, hlimit, not_le_of_lt hpositive, fun hlong => not_le_of_lt hlong hshort⟩
  cases h with
  | notPositive hnot => rw [checked, if_pos hnot]
  | unbounded hpositive hlimit =>
    rw [checked, if_neg (not_le_of_lt hpositive), hlimit]
    rfl
  | tooLong hpositive hlimit hlong =>
    rw [checked, if_neg (not_le_of_lt hpositive), hlimit]
    exact if_pos hlong
  | noNodes htimeout hempty =>
    obtain ⟨longest, hlimit, hpositive, hshort⟩ := htimely htimeout
    rw [checked, if_neg hpositive, hlimit, hempty]
    exact if_neg hshort
  | tooMany htimeout hsome hmany =>
    obtain ⟨longest, hlimit, hpositive, hshort⟩ := htimely htimeout
    rw [checked, if_neg hpositive, hlimit]
    show (if longest < demand.timeout then _ else _) = _
    rw [if_neg hshort, if_neg fun hempty => hsome (List.isEmpty_iff.1 hempty), if_pos hmany]
  | node htimeout hcount hfirst =>
    rw [checked_of_within htimeout hcount]
    cases hchecked : checkNodes [] 0 demand.nodes with
    | ok nodes =>
      -- Nodes that pass have no problem at all.
      obtain ⟨hdistinct, hversions⟩ := legal_nodes_of_checkNodes hunset hchecked
      obtain ⟨place, hproblem, -⟩ := hfirst
      exact absurd hproblem (not_problem hdistinct (versions_named hversions))
    | error other =>
      exact congrArg Except.error ((firstProblem_of_checkNodes hunset hchecked).unique hfirst)

/-- A demand that passes is legal in its timeout and its number of nodes. -/
theorem within_of_checked (hunset : ∀ node ∈ demand.nodes, node.version = none)
    (h : demand.checked limits = .ok nodes) :
    demand.TimeoutLegal limits ∧ demand.CountLegal limits := by
  have hnot (fault : Fault) : ¬Refused demand limits fault := fun hrefused => by
    rw [checked_of_refused hunset hrefused] at h
    cases h
  have hpositive : .zero < demand.timeout := lt_of_not_le fun hle => hnot _ (.notPositive hle)
  constructor
  · cases hlimit : limits.timeout with
    | error fault => exact absurd (.unbounded hpositive hlimit) (hnot fault)
    | ok longest =>
      have hshort : ¬longest < demand.timeout := fun hlong => hnot _ (.tooLong hpositive hlimit hlong)
      exact ⟨hpositive, longest, hlimit, Int.not_lt.1 hshort⟩
  · obtain ⟨-, hsome, hfew⟩ := checkNodes_of_checked h
    exact ⟨List.length_pos_iff.2 hsome, hfew⟩

/-- A limit that is no duration is out of range. -/
theorem overflow_of_maxLease {c : Config} (h : c.maxLease = .error fault) :
    Duration.ofSeconds? c.maxLeaseSeconds = none ∧ fault = .mishap .overflow := by
  rw [Config.maxLease] at h
  cases hlimit : Duration.ofSeconds? c.maxLeaseSeconds with
  | none =>
    rw [hlimit] at h
    exact ⟨rfl, (Except.error.inj h).symm⟩
  | some longest =>
    rw [hlimit] at h
    cases h

/-- The demands that pass their checks are the legal ones, and the nodes that come out are those that were
asked for, with names and versions. All others fail as they are refused: they are rejected, unless the
limit of timeouts is too long for a duration. -/
theorem checked_exactly (m : Manager) (hunset : ∀ node ∈ demand.nodes, node.version = none) :
    ((∃ nodes, demand.checked m.limits = .ok nodes) ↔ demand.Legal m.limits) ∧
    (∀ nodes, demand.checked m.limits = .ok nodes → ∃ placed : List Placed,
      placed.map (fun one => (one.demand, one.place)) = demand.nodes.zipIdx ∧
      (∀ one ∈ placed, Version.resolve one.demand.serverVersion = .ok one.version) ∧
      nodes = placed.map Placed.node) ∧
    (∀ fault, demand.checked m.limits = .error fault ↔ Refused demand m.limits fault) ∧
    ∀ fault, demand.checked m.limits = .error fault → (∃ why, fault = .rejected why) ∨
      (Duration.ofSeconds? m.config.maxLeaseSeconds = none ∧ fault = .mishap .overflow) := by
  refine ⟨⟨?_, fun h => ?_⟩, fun nodes h => ?_, fun fault => ⟨refused_of_checked hunset,
    checked_of_refused hunset⟩, fun fault h => (checked_error h).imp_right overflow_of_maxLease⟩
  · rintro ⟨nodes, h⟩
    obtain ⟨htimeout, hcount⟩ := within_of_checked hunset h
    rw [checked_of_within htimeout hcount] at h
    obtain ⟨hdistinct, hversions⟩ := legal_nodes_of_checkNodes hunset h
    exact ⟨htimeout, hcount, hdistinct, hversions⟩
  · cases hchecked : demand.checked m.limits with
    | ok nodes => exact ⟨nodes, rfl⟩
    | error fault =>
      -- Within the limits only a node can be at fault, and no node is.
      rw [checked_of_within h.timeout h.count] at hchecked
      obtain ⟨place, hproblem, -⟩ := firstProblem_of_checkNodes hunset hchecked
      exact absurd hproblem (not_problem h.hostNames (versions_named h.versions))
  · obtain ⟨placed, hplaced, hnodes⟩ := checked_placed h
    refine ⟨placed, hplaced.places, fun one hone => ?_, hnodes⟩
    rw [← hplaced.versions one hone, resolvedVersion_of_unset (hunset _ ?_)]
    have hmem : (one.demand, one.place) ∈ demand.nodes.zipIdx :=
      hplaced.places ▸ List.mem_map_of_mem hone
    exact List.fst_mem_of_mem_zipIdx hmem

namespace Sample

/-- The limit of the sample demands. -/
def hour : Duration := ⟨3600 * Duration.second, by decide⟩

/-- A node that is asked for by name and version. -/
def nodeOf (name serverVersion : String) : NodeDemand := ⟨name, "centos7", serverVersion, none⟩

/-- The second node has no name, and the third one has a version that nobody knows. -/
def three : ClusterDemand := ⟨hour, [nodeOf "NODE.3" "6.6.1-2134", nodeOf "" "7.0.1", nodeOf "" "9.0.0"]⟩

/-- Two nodes, the second of which is named by its place. -/
def pair : ClusterDemand := ⟨hour, [nodeOf "KV" "6.6.1-2134", nodeOf "" "7.0.1"]⟩

def manager : Manager := ⟨{}, none⟩

/-- The longest timeout is one that no duration can have. -/
def lavish : Manager := ⟨{ maxLeaseSeconds := 100000000000000 }, none⟩

end Sample

open Sample in
/-- The name that the third node gets is taken as a host name, and this is said before its version is
looked at. -/
theorem checked_exactly_of_three :
    (∀ node ∈ three.nodes, node.version = none) ∧ ¬three.Legal manager.limits ∧
    Refused three manager.limits (.rejected (.sameHostName "NODE.3" "node_3")) := by
  have hunset : ∀ node ∈ three.nodes, node.version = none := by decide
  have hchecked : three.checked manager.limits = .error (.rejected (.sameHostName "NODE.3" "node_3")) := by
    decide +kernel
  obtain ⟨hlegal, -, hrefused, -⟩ := checked_exactly manager hunset
  refine ⟨hunset, fun h => ?_, (hrefused _).1 hchecked⟩
  obtain ⟨nodes, hnodes⟩ := hlegal.2 h
  rw [hchecked] at hnodes
  cases hnodes

open Sample in
/-- A demand that breaks no limit, with distinct host names and known versions, neither passes nor is
rejected where the limit of timeouts is itself out of range. -/
theorem overflow_of_lavish :
    (∀ node ∈ pair.nodes, node.version = none) ∧ .zero < pair.timeout ∧
    pair.timeout.micros ≤ lavish.config.maxLeaseSeconds * Duration.second ∧ pair.CountLegal lavish.limits ∧
    (pair.named.map (·.hostName)).Nodup ∧
    (∀ node ∈ pair.nodes, ∃ version, Version.resolve node.serverVersion = .ok version) ∧
    pair.checked lavish.limits = .error (.mishap .overflow) ∧
    ∀ why, Fault.mishap .overflow ≠ .rejected why := by
  refine ⟨by decide, by decide, by decide, by decide, by decide +kernel, ?_, by decide +kernel,
    fun _ h => by cases h⟩
  simp only [pair, List.forall_mem_cons]
  exact ⟨⟨⟨"6.6.1", "mad-hatter", "2134"⟩, by decide +kernel⟩,
    ⟨⟨"7.0.1", "cheshire-cat", ""⟩, by decide +kernel⟩,
    fun _ h => by cases h⟩

end ClusterDemand

end ClusterLease
