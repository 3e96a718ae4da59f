import Mathlib.Data.List.Nodup
import ClusterLease.Demand

/-!
Demands that are met.

The nodes of a demand that passed its checks have versions and distinct host names, and there are as
many as were asked for, which is within the limit (`checked_ok`). They are the nodes that were asked
for, each with the name and the version of its place (`checked_placed`). A demand that does not pass is
rejected, unless the limit of its timeout is out of range itself (`checked_error`).
-/

namespace ClusterLease

/-- A sequence succeeds if both parts do. -/
theorem Except.bind_eq_ok_iff {ε α β : Type} {x : Except ε α} {f : α → Except ε β} {b : β} :
    (x >>= f) = .ok b ↔ ∃ a, x = .ok a ∧ f a = .ok b := by
  cases x with
  | error e =>
    constructor
    · intro h
      cases h
    · rintro ⟨a, h, -⟩
      cases h
  | ok a =>
    constructor
    · exact fun h => ⟨a, rfl, h⟩
    · rintro ⟨_, ⟨⟩, h⟩
      exact h

/-- A sequence fails as one of its parts does. -/
theorem Except.bind_eq_error {ε α β : Type} {x : Except ε α} {f : α → Except ε β} {e : ε}
    (h : (x >>= f) = .error e) : x = .error e ∨ ∃ a, x = .ok a ∧ f a = .error e := by
  cases x with
  | error other => exact .inl (congrArg Except.error (Except.error.inj h))
  | ok a => exact .inr ⟨a, rfl, h⟩

namespace ClusterDemand

/-- What the checks of a demand ensure of its nodes. -/
structure Sound (limits : Limits) (nodes : List NodeDemand) : Prop where
  versions : ∀ node ∈ nodes, node.version.isSome
  hostNames : (nodes.map (·.hostName)).Nodup
  bounded : (nodes.length : Int) ≤ limits.nodes

/-- The nodes that pass have versions, and distinct host names that were not taken before. -/
theorem checkNodes_ok {taken : Table String} {index : Nat} {demands nodes : List NodeDemand}
    (h : checkNodes taken index demands = .ok nodes) :
    nodes.length = demands.length ∧ (∀ node ∈ nodes, node.version.isSome) ∧
      (nodes.map (·.hostName)).Nodup ∧
      ∀ node ∈ nodes, taken.get? node.hostName = none := by
  induction demands generalizing taken index nodes with
  | nil =>
    rw [checkNodes] at h
    cases h
    simp
  | cons demand rest ih =>
    rw [checkNodes] at h
    cases htaken : taken.get? (demand.named index).hostName with
    | some name =>
      simp only [htaken] at h
      cases h
    | none =>
      simp only [htaken] at h
      obtain ⟨version, -, h⟩ := Except.bind_eq_ok_iff.1 h
      obtain ⟨others, hothers, h⟩ := Except.bind_eq_ok_iff.1 h
      cases h
      obtain ⟨hlength, hversions, hnodup, hfree⟩ := ih hothers
      -- A host name that is free after this node is another one than the node's.
      have hother (node : NodeDemand) (hnode : node ∈ others) :
          node.hostName ≠ (demand.named index).hostName ∧ taken.get? node.hostName = none := by
        have hput := hfree node hnode
        rw [Table.get?_put] at hput
        split at hput
        · cases hput
        · next hne => exact ⟨hne, hput⟩
      refine ⟨congrArg (· + 1) hlength, ?_, ?_, ?_⟩
      · intro node hnode
        rcases List.mem_cons.1 hnode with rfl | hnode
        · rfl
        · exact hversions node hnode
      · rw [List.map_cons, List.nodup_cons]
        refine ⟨fun hmem => ?_, hnodup⟩
        obtain ⟨node, hnode, heq⟩ := List.mem_map.1 hmem
        exact (hother node hnode).1 heq
      · intro node hnode
        rcases List.mem_cons.1 hnode with rfl | hnode
        · exact htaken
        · exact (hother node hnode).2

/-- A demand passes if its nodes do, and if there are some but not too many. -/
theorem checkNodes_of_checked {demand : ClusterDemand} {limits : Limits} {nodes : List NodeDemand}
    (h : demand.checked limits = .ok nodes) :
    checkNodes [] 0 demand.nodes = .ok nodes ∧ demand.nodes ≠ [] ∧
      (demand.nodes.length : Int) ≤ limits.nodes := by
  rw [checked] at h
  split at h
  · cases h
  obtain ⟨longest, -, h⟩ := Except.bind_eq_ok_iff.1 h
  split at h
  · cases h
  split at h
  · cases h
  next hsome =>
  split at h
  · cases h
  next hbounded => exact ⟨h, fun hnil => hsome (by rw [hnil]; rfl), Int.not_lt.1 hbounded⟩

/-- The nodes that come out of the checks are as they have to be. -/
theorem checked_ok {demand : ClusterDemand} {limits : Limits} {nodes : List NodeDemand}
    (h : demand.checked limits = .ok nodes) : Sound limits nodes := by
  obtain ⟨hnodes, -, hbounded⟩ := checkNodes_of_checked h
  obtain ⟨hlength, hversions, hnodup, -⟩ := checkNodes_ok hnodes
  exact ⟨hversions, hnodup, hlength ▸ hbounded⟩

/-! ### Places -/

/-- A node that was asked for, its place among the others, and the version that its text stands for. -/
structure Placed where
  demand : NodeDemand
  place : Nat
  version : Version

namespace Placed

/-- The name of a node: the one it was given, or that of its place, counted from one. -/
def name (placed : Placed) : String :=
  if placed.demand.name = "" then s!"node_{placed.place + 1}" else placed.demand.name

/-- The node that is made for a demand. -/
def node (placed : Placed) : NodeDemand :=
  { placed.demand with name := placed.name, version := some placed.version }

end Placed

/-- Nodes for demands: one for each, with the version that it stands for. -/
structure PlacedFor (demands : List (NodeDemand × Nat)) (placed : List Placed) : Prop where
  places : placed.map (fun one => (one.demand, one.place)) = demands
  versions : ∀ one ∈ placed, one.demand.resolvedVersion = .ok one.version

/-- The nodes that pass are those that were asked for, named and with versions. -/
theorem checkNodes_placed {taken : Table String} {index : Nat} {demands nodes : List NodeDemand}
    (h : checkNodes taken index demands = .ok nodes) :
    ∃ placed, PlacedFor (demands.zipIdx index) placed ∧ nodes = placed.map Placed.node := by
  induction demands generalizing taken index nodes with
  | nil =>
    rw [checkNodes] at h
    cases h
    exact ⟨[], ⟨rfl, fun one hone => by cases hone⟩, rfl⟩
  | cons demand rest ih =>
    rw [checkNodes] at h
    cases htaken : taken.get? (demand.named index).hostName with
    | some name =>
      simp only [htaken] at h
      cases h
    | none =>
      simp only [htaken] at h
      obtain ⟨version, hversion, h⟩ := Except.bind_eq_ok_iff.1 h
      obtain ⟨others, hothers, h⟩ := Except.bind_eq_ok_iff.1 h
      cases h
      obtain ⟨placed, hplaced, rfl⟩ := ih hothers
      -- Neither the version nor anything else but the name depends on the name.
      have hnamed : demand.named index = { demand with name := (demand.named index).name } ∧
          (demand.named index).name = (Placed.mk demand index version).name := by
        rw [NodeDemand.named, Placed.name]
        split <;> exact ⟨rfl, rfl⟩
      have hresolved : demand.resolvedVersion = .ok version := by
        rw [hnamed.1] at hversion
        exact hversion
      refine ⟨⟨demand, index, version⟩ :: placed, ⟨?_, ?_⟩, ?_⟩
      · rw [List.zipIdx_cons, List.map_cons, hplaced.places]
      · intro one hone
        rcases List.mem_cons.1 hone with rfl | hone
        · exact hresolved
        · exact hplaced.versions one hone
      · rw [List.map_cons, Placed.node, ← hnamed.2]
        congr 1
        conv_lhs => rw [hnamed.1]

/-- Each of them was asked for in the same place. -/
theorem checked_placed {demand : ClusterDemand} {limits : Limits} {nodes : List NodeDemand}
    (h : demand.checked limits = .ok nodes) :
    ∃ placed, PlacedFor demand.nodes.zipIdx placed ∧ nodes = placed.map Placed.node :=
  checkNodes_placed (checkNodes_of_checked h).1

end ClusterDemand

/-! ### Demands that are refused -/

/-- A version that is not known is rejected, whatever stands in its place. -/
theorem Version.resolve_error {text : String} {fault : Fault} (h : resolve text = .error fault) :
    ∃ why, fault = .rejected why := by
  -- Only the number can be refused, in each of four ways; the build is never looked at.
  have hflavor {number : String} (h : flavorOf number = .error fault) : ∃ why, fault = .rejected why := by
    unfold flavorOf at h
    split at h
    · split at h
      · exact ⟨_, (Except.error.inj h).symm⟩
      · split at h
        · exact ⟨_, (Except.error.inj h).symm⟩
        · split at h
          · cases h
          · exact ⟨_, (Except.error.inj h).symm⟩
    · exact ⟨_, (Except.error.inj h).symm⟩
  unfold resolve at h
  dsimp only at h
  cases hnumber : flavorOf (String.ofList (splitAtFirst '-' text.toList).1) with
  | ok flavor =>
    rw [hnumber] at h
    cases h
  | error other =>
    rw [hnumber] at h
    cases h
    exact hflavor hnumber

namespace ClusterDemand

/-- A node fails its checks only by being rejected. -/
theorem checkNodes_error {taken : Table String} {index : Nat} {demands : List NodeDemand} {fault : Fault}
    (h : checkNodes taken index demands = .error fault) : ∃ why, fault = .rejected why := by
  -- By induction on the demands, for any names taken before them.
  induction demands generalizing taken index with
  | nil => cases h
  | cons demand rest ih =>
    rw [checkNodes] at h
    cases htaken : taken.get? (demand.named index).hostName with
    | some name =>
      simp only [htaken] at h
      exact ⟨_, (Except.error.inj h).symm⟩
    | none =>
      simp only [htaken] at h
      obtain hversion | ⟨version, -, h⟩ := Except.bind_eq_error h
      · unfold NodeDemand.resolvedVersion at hversion
        split at hversion
        · cases hversion
        · exact Version.resolve_error hversion
      · obtain hothers | ⟨others, -, h⟩ := Except.bind_eq_error h
        · exact ih hothers
        · cases h

/-- A demand is rejected, or the limit of its timeout is out of range itself. -/
theorem checked_error {demand : ClusterDemand} {limits : Limits} {fault : Fault}
    (h : demand.checked limits = .error fault) :
    (∃ why, fault = .rejected why) ∨ limits.timeout = .error fault := by
  rw [checked] at h
  split at h
  · exact .inl ⟨_, (Except.error.inj h).symm⟩
  obtain hlimit | ⟨longest, -, h⟩ := Except.bind_eq_error h
  · exact .inr hlimit
  left
  split at h
  · exact ⟨_, (Except.error.inj h).symm⟩
  split at h
  · exact ⟨_, (Except.error.inj h).symm⟩
  split at h
  · exact ⟨_, (Except.error.inj h).symm⟩
  · exact checkNodes_error h

end ClusterDemand

end ClusterLease
