import ClusterLease.Yaml.Scalar

/-!
The values of documents.

Collections are filled level by level: first the root gets its entries, then each collection among them, and
so on. So of several failures in one document the shallowest is met first, and of equally deep ones the
leftmost. `Built` keeps the failures of a node by depth, and `faultByDepth` picks that one.

A mapping may take over the entries of others under the key for merging; its own entries win over those, and
of the others an earlier one wins over a later one.
-/

namespace ClusterLease.Yaml

namespace Node

/-- The number of nodes in a node. -/
def size : Node → Nat
  | .scalar _ _ => 1
  | .sequence _ items => 1 + sizes items
  | .mapping _ entries => 1 + entrySizes entries
where
  /-- The number of nodes in the items of a sequence. -/
  sizes : List Node → Nat
    | [] => 0
    | node :: rest => size node + sizes rest
  /-- The number of nodes in the entries of a mapping. -/
  entrySizes : List (Node × Node) → Nat
    | [] => 0
    | (key, value) :: rest => size key + size value + entrySizes rest

/-- The text of a node that has to be a scalar; a mapping may hold it under the key for its value. -/
def scalarText? : Node → Option String
  | .scalar _ text => some text
  | .sequence _ _ => none
  | .mapping _ entries => underValueKey entries
where
  /-- The text under the key for the value of a mapping. -/
  underValueKey : List (Node × Node) → Option String
    | [] => none
    | (key, value) :: rest => if key.tag = .value then scalarText? value else underValueKey rest

/-- A key as it counts in a mapping: the key for the value of a mapping is a text. -/
def plainKey : Node → Node
  | .scalar .value text => .scalar .str text
  | .sequence .value items => .sequence .str items
  | .mapping .value entries => .mapping .str entries
  | key => key

/-- The entries of a mapping from those that it takes over, which come first, and its own. -/
def joined (parts : List (Node × Node) × List (Node × Node)) : List (Node × Node) := parts.1 ++ parts.2

mutual

/-- The entries that a mapping takes over, and its own. -/
def split : List (Node × Node) → Option (List (Node × Node) × List (Node × Node))
  | [] => some ([], [])
  | (key, value) :: rest => do
    if key.tag = .merge then
      let here ← takenFrom value
      let (taken, own) ← split rest
      some (here ++ taken, own)
    else
      let (taken, own) ← split rest
      some (taken, (plainKey key, value) :: own)

/-- The entries of a mapping, or of each mapping in a sequence, the last one first. -/
def takenFrom : Node → Option (List (Node × Node))
  | .mapping _ entries => (split entries).map joined
  | .sequence _ items => takenFromAll items
  | .scalar _ _ => none

/-- The entries of several mappings, the last one first. -/
def takenFromAll : List Node → Option (List (Node × Node))
  | [] => some []
  | .mapping _ entries :: rest => do
    let here ← split entries
    let later ← takenFromAll rest
    some (later ++ joined here)
  | _ :: _ => none

end

/-- The entries of a mapping together with those that it takes over. -/
def merged (entries : List (Node × Node)) : Option (List (Node × Node)) := (split entries).map joined

end Node

/-- The value of a node, and its failures by depth, at most one for each. -/
structure Built where
  value : Value
  faults : List (Option Problem)

namespace Built

/-- The failures of two nodes side by side; at each depth the first one counts. -/
def beside : List (Option Problem) → List (Option Problem) → List (Option Problem)
  | [], others => others
  | faults, [] => faults
  | a :: faults, b :: others => a.or b :: beside faults others

/-- The failures of several nodes side by side. -/
def besideAll (all : List (List (Option Problem))) : List (Option Problem) := all.foldl beside []

/-- A node that can be made at once, or cannot. -/
def ofScalar (outcome : Except Problem Value) : Built :=
  match outcome with
  | .ok value => ⟨value, []⟩
  | .error problem => ⟨.null, [some problem]⟩

/-- A collection with a failure that is met when it is filled. -/
def broken : Built := ⟨.null, [none, some .malformed]⟩

/-- A collection, with the failures of what it holds. -/
def collection (value : Value) (inside : List (List (Option Problem))) : Built := ⟨value, none :: besideAll inside⟩

/-- The failures of a key, which must be a scalar. -/
def keyFaults (key : Built) : List (Option Problem) :=
  beside key.faults [if key.value.isKey then none else some .malformed]

/-- The failures of the entries of a mapping. -/
def entryFaults (entries : List (Built × Built)) : List (List (Option Problem)) :=
  entries.flatMap fun (key, value) => [keyFaults key, value.faults]

def mapping (entries : List (Built × Built)) : Built :=
  collection (.map (Entries.ofPairs (entries.map fun (key, value) => (key.value, value.value))))
    (entryFaults entries)

/-- A set, from the keys of a mapping. -/
def set (entries : List (Built × Built)) : Built :=
  let keys := (Entries.ofPairs (entries.map fun (key, value) => (key.value, value.value))).map (·.1)
  collection (.set keys) (entryFaults entries)

def list (items : List Built) : Built := collection (.list (items.map (·.value))) (items.map (·.faults))

/-- A list of pairs; an item that is no pair is a failure at its place. -/
def pairs (items : List (Option (Built × Built))) : Built :=
  let value (item : Option (Built × Built)) : Value := match item with
    | some (first, second) => .pair first.value second.value
    | none => .null
  let faults (item : Option (Built × Built)) : List (List (Option Problem)) := match item with
    | some (first, second) => [first.faults, second.faults]
    | none => [[some .malformed]]
  collection (.list (items.map value)) (items.flatMap faults)

/-- The failure that is met first. -/
def faultByDepth (built : Built) : Option Problem := built.faults.findSome? id

end Built

/-- A node made into a value, down to some depth. -/
def Node.build : (left : Nat) → Node → Built
  | 0, _ => Built.broken
  | left + 1, node =>
    let entries (found : Option (List (Node × Node))) : Option (List (Built × Built)) :=
      found.map fun all => all.map fun (key, value) => (build left key, build left value)
    -- Only a node of the shape that its tag asks for can be made into a collection.
    match node.tag, node with
    | .seq, .sequence _ items => Built.list (items.map (build left))
    | .map, .mapping _ all => ((entries (merged all)).map Built.mapping).getD Built.broken
    | .set, .mapping _ all => ((entries (merged all)).map Built.set).getD Built.broken
    | .omap, .sequence _ items | .pairs, .sequence _ items =>
      Built.pairs (items.map fun item =>
        match item with
        | .mapping _ [(key, value)] => some (build left key, build left value)
        | _ => none)
    | .seq, _ | .map, _ | .set, _ | .omap, _ | .pairs, _ => Built.broken
    | tag, node =>
      match node.scalarText? with
      | some text => Built.ofScalar (Scalar.value tag text)
      | none => Built.ofScalar (.error .malformed)

def Node.toValue (node : Node) : Except Problem Value :=
  let built := node.build node.size
  match built.faultByDepth with
  | some problem => .error problem
  | none => .ok built.value

/-- The value of the one document of a text; nothing if it has no document. -/
def read (cs : List Char) : Except Problem Value := do
  match ← Node.ofText? cs with
  | some node => node.toValue
  | none => .ok .null

end ClusterLease.Yaml
