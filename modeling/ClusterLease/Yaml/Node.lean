import ClusterLease.Yaml.Tag
import ClusterLease.Yaml.Token

/-!
Nodes of YAML documents, and reading the one document of a text.

The tokens are fed to a machine with a stack of the collections that are still open. A token that a
collection does not expect may first complete something that was left out: an empty node, the value of a
key, or a sequence that has no end mark because it is not indented. Such steps take no token, and each of
them closes something, so their number is bounded by what is open.

An alias is replaced by a copy of the node that it names. Inside that node itself it stands for nothing.
-/

namespace ClusterLease.Yaml

/-- A node with its tag. -/
inductive Node where
  | scalar (tag : Tag) (text : String)
  | sequence (tag : Tag) (items : List Node)
  | mapping (tag : Tag) (entries : List (Node × Node))

def Node.tag : Node → Tag
  | .scalar tag _ => tag
  | .sequence tag _ => tag
  | .mapping tag _ => tag

namespace Assembly

/-- What may stand before a node: an anchor, and a tag written out, which may be the bare mark. -/
structure Properties where
  anchor : Option String
  tag : Option String

def Properties.none : Properties := ⟨.none, .none⟩

def Properties.isNone (p : Properties) : Bool := p.anchor.isNone && p.tag.isNone

def Properties.collectionTag (p : Properties) (default : Tag) : Tag :=
  match p.tag with
  | .none => default
  | some "!" => default
  | some uri => Tag.ofUri uri

/-- A scalar; its text may imply its tag if it is plain or carries the bare mark. -/
def Properties.scalar (p : Properties) (plain : Bool) (text : String) : Node :=
  match p.tag with
  | .none => .scalar (if plain then Tag.implied text else .str) text
  | some "!" => .scalar (Tag.implied text) text
  | some uri => .scalar (Tag.ofUri uri) text

/-- A collection that is still open, with its entries so far in reverse, and a key that waits for its value. -/
inductive Frame where
  | blockSequence (properties : Properties) (items : List Node)
  | indentless (properties : Properties) (items : List Node)
  | blockMapping (properties : Properties) (entries : List (Node × Node)) (key : Option Node)
  | flowSequence (properties : Properties) (items : List Node)
  | flowMapping (properties : Properties) (entries : List (Node × Node)) (key : Option Node)
  /-- A key of a flow mapping that stands alone. -/
  | loneKey
  /-- A key and its value as an item of a flow sequence. -/
  | flowPair (key : Option Node)

/-- Where a node stands: the collections it may be. -/
inductive Place where
  | flow
  | block
  /-- In a block mapping, where a sequence need not be indented. -/
  | blockValue
  deriving DecidableEq

/-- What may come next. -/
inductive Expected where
  /-- A node, unless a token comes that leaves it empty. -/
  | optional (place : Place) (endsAt : Token → Bool)
  /-- A node, after its properties so far. -/
  | node (place : Place) (properties : Properties)
  /-- In a flow collection: its first entry or one after a comma, if there is one. -/
  | entry
  /-- After a node: what the innermost collection says. -/
  | after
  /-- After the content of the document. -/
  | documentEnd
  /-- Before a document: directives and its start. -/
  | start
  | finished

/-- The state of reading a document. -/
structure Machine where
  frames : List Frame
  expected : Expected
  handles : List (String × String)
  version : Bool
  /-- Whether directives came, so that the start of the document must be marked. -/
  directives : Bool
  /-- Named nodes; a node that is still open has no value yet. -/
  anchors : List (String × Option Node)
  /-- The content of the document, once it is complete. -/
  root : Option Node

def defaultHandles : List (String × String) := [("!", "!"), ("!!", Tag.yamlStart)]

def Machine.initial : Machine := ⟨[], .start, [], false, false, [], .none⟩

namespace Machine

/-- What a handle stands for: directives come before the defaults. -/
def handle? (m : Machine) (handle : String) : Option String :=
  (m.handles.lookup handle).or (defaultHandles.lookup handle)

/-- The tag that a tag token writes out. -/
def tagUri (m : Machine) (tag : Lexeme.TagText) : Except Problem String :=
  match tag.handle with
  | .none => .ok tag.suffix
  | some handle => match m.handle? handle with
    | some start => .ok (start ++ tag.suffix)
    | .none => .error .malformed

/-- Names the node that follows; a name may be given only once. -/
def openAnchor (m : Machine) (p : Properties) : Except Problem Machine :=
  match p.anchor with
  | .none => .ok m
  | some name =>
    if (m.anchors.lookup name).isSome then .error .malformed
    else .ok { m with anchors := (name, .none) :: m.anchors }

def closeAnchor (m : Machine) (p : Properties) (node : Node) : Machine :=
  match p.anchor with
  | .none => m
  | some name => { m with anchors := (name, some node) :: m.anchors.filter fun (other, _) => other != name }

def emptyNode : Node := .scalar .null ""

/-- The open collections, after the innermost one got a node. -/
def added (node : Node) : List Frame → List Frame
  | .blockSequence p items :: frames => .blockSequence p (node :: items) :: frames
  | .indentless p items :: frames => .indentless p (node :: items) :: frames
  | .blockMapping p entries .none :: frames => .blockMapping p entries (some node) :: frames
  | .blockMapping p entries (some key) :: frames => .blockMapping p ((key, node) :: entries) .none :: frames
  | .flowSequence p items :: frames => .flowSequence p (node :: items) :: frames
  | .flowMapping p entries .none :: frames => .flowMapping p entries (some node) :: frames
  | .flowMapping p entries (some key) :: frames => .flowMapping p ((key, node) :: entries) .none :: frames
  | .loneKey :: .flowMapping p entries _ :: frames => .flowMapping p ((node, emptyNode) :: entries) .none :: frames
  | .flowPair .none :: frames => .flowPair (some node) :: frames
  | .flowPair (some key) :: .flowSequence p items :: frames =>
    .flowSequence p (.mapping .map [(key, node)] :: items) :: frames
  | frames => frames

/-- A complete node goes to the collection it is in, or is the content of the document. -/
def deliver (m : Machine) (node : Node) : Machine :=
  if m.frames.isEmpty then { m with root := some node, expected := .documentEnd }
  else { m with frames := added node m.frames, expected := .after }

def close (m : Machine) (p : Properties) (node : Node) : Machine :=
  { m with frames := m.frames.drop 1 }.closeAnchor p node |>.deliver node

def openFrame (m : Machine) (p : Properties) (frame : Frame) (expected : Expected) : Except Problem Machine :=
  (m.openAnchor p).map fun m => { m with frames := frame :: m.frames, expected }

def deliverScalar (m : Machine) (p : Properties) (node : Node) : Except Problem Machine :=
  (m.openAnchor p).map fun m => (m.closeAnchor p node).deliver node

/-! ### Tokens that leave a node out -/

/-- After the hyphen of a block sequence. -/
def endsBlockItem : Token → Bool
  | .blockEntry | .blockEnd => true
  | _ => false

/-- After the hyphen of a sequence that is not indented. -/
def endsIndentlessItem : Token → Bool
  | .blockEntry | .key | .value | .blockEnd => true
  | _ => false

/-- After the mark of a key or value of a block mapping. -/
def endsBlockValue : Token → Bool
  | .key | .value | .blockEnd => true
  | _ => false

/-- After the mark of a key of a flow collection. -/
def endsFlowKey : Token → Bool
  | .value | .flowEntry | .flowSequenceEnd | .flowMappingEnd => true
  | _ => false

/-- After the mark of a value of a flow collection. -/
def endsFlowValue : Token → Bool
  | .flowEntry | .flowSequenceEnd | .flowMappingEnd => true
  | _ => false

/-- Where the document ends before it has content. -/
def endsContent : Token → Bool
  | .directive _ | .documentStart | .documentEnd | .streamEnd => true
  | _ => false

/-! ### Steps -/

/-- What a step did with the token. -/
inductive Step where
  | taken (m : Machine)
  | kept (m : Machine)

/-- The step that takes the token and expects something else. -/
def take (m : Machine) (expected : Expected) : Except Problem Step := .ok (.taken { m with expected })

/-- The step that keeps the token and expects something else. -/
def keep (m : Machine) (expected : Expected) : Except Problem Step := .ok (.kept { m with expected })

def refuse : Except Problem Step := .error .malformed

/-- A token where a node may start, or go on after its properties. -/
def nodeStep (m : Machine) (place : Place) (p : Properties) (token : Token) : Except Problem Step :=
  let opened (m : Except Problem Machine) : Except Problem Step := m.map .taken
  match token with
  | .alias name =>
    if !p.isNone then (m.deliverScalar p (p.scalar true "")).map .kept
    else match m.anchors.lookup name with
      | some node => .ok (.taken (m.deliver (node.getD emptyNode)))
      | .none => refuse
  | .anchor name =>
    if p.anchor.isSome then (m.deliverScalar p (p.scalar true "")).map .kept
    else m.take (.node place { p with anchor := some name })
  | .tag tag =>
    if p.tag.isSome then (m.deliverScalar p (p.scalar true "")).map .kept
    else (m.tagUri tag).bind fun uri => m.take (.node place { p with tag := some uri })
  | .scalar plain text => (m.deliverScalar p (p.scalar plain text)).map .taken
  | .flowSequenceStart => opened (m.openFrame p (.flowSequence p []) .entry)
  | .flowMappingStart => opened (m.openFrame p (.flowMapping p [] .none) .entry)
  | .blockSequenceStart => if place = .flow then refuse else opened (m.openFrame p (.blockSequence p []) .after)
  | .blockMappingStart =>
    if place = .flow then refuse else opened (m.openFrame p (.blockMapping p [] .none) .after)
  | .blockEntry =>
    if place = .blockValue then (m.openFrame p (.indentless p []) .after).map .kept
    else if p.isNone then refuse
    else (m.deliverScalar p (p.scalar true "")).map .kept
  | .broken problem => .error problem
  | _ => if p.isNone then refuse else (m.deliverScalar p (p.scalar true "")).map .kept

/-- A token after a node, in the innermost collection. -/
def afterStep (m : Machine) (token : Token) : Except Problem Step :=
  match m.frames, token with
  | _, .broken problem => .error problem
  | .blockSequence _ _ :: _, .blockEntry => m.take (.optional .block endsBlockItem)
  | .blockSequence p items :: _, .blockEnd =>
    .ok (.taken (m.close p (.sequence (p.collectionTag .seq) items.reverse)))
  | .indentless _ _ :: _, .blockEntry => m.take (.optional .block endsIndentlessItem)
  | .indentless p items :: _, _ => .ok (.kept (m.close p (.sequence (p.collectionTag .seq) items.reverse)))
  | .blockMapping _ _ .none :: _, .key => m.take (.optional .blockValue endsBlockValue)
  | .blockMapping p entries .none :: _, .blockEnd =>
    .ok (.taken (m.close p (.mapping (p.collectionTag .map) entries.reverse)))
  | .blockMapping _ _ (some _) :: _, .value => m.take (.optional .blockValue endsBlockValue)
  | .blockMapping _ _ (some _) :: _, _ => .ok (.kept (m.deliver emptyNode))
  | .flowSequence _ _ :: _, .flowEntry => m.take .entry
  | .flowSequence p items :: _, .flowSequenceEnd =>
    .ok (.taken (m.close p (.sequence (p.collectionTag .seq) items.reverse)))
  | .flowMapping _ _ .none :: _, .flowEntry => m.take .entry
  | .flowMapping p entries .none :: _, .flowMappingEnd =>
    .ok (.taken (m.close p (.mapping (p.collectionTag .map) entries.reverse)))
  | .flowMapping _ _ (some _) :: _, .value => m.take (.optional .flow endsFlowValue)
  | .flowMapping _ _ (some _) :: _, _ => .ok (.kept (m.deliver emptyNode))
  | .flowPair (some _) :: _, .value => m.take (.optional .flow endsFlowValue)
  | .flowPair (some _) :: _, _ => .ok (.kept (m.deliver emptyNode))
  | _, _ => refuse

/-- A token where an entry of the innermost flow collection may start. -/
def entryStep (m : Machine) (token : Token) : Except Problem Step :=
  match m.frames, token with
  | .flowSequence _ _ :: _, .flowSequenceEnd => m.keep .after
  | .flowMapping _ _ _ :: _, .flowMappingEnd => m.keep .after
  | .flowSequence _ _ :: _, .key =>
    { m with frames := .flowPair .none :: m.frames }.take (.optional .flow endsFlowKey)
  | .flowMapping _ _ _ :: _, .key => m.take (.optional .flow endsFlowKey)
  | .flowMapping _ _ _ :: _, _ => { m with frames := .loneKey :: m.frames }.keep (.node .flow .none)
  | _, _ => m.keep (.node .flow .none)

def directiveStep (m : Machine) (directive : Lexeme.Directive) : Except Problem Step :=
  let m := { m with directives := true }
  match directive with
  | .version major =>
    if m.version || major != 1 then refuse else .ok (.taken { m with version := true })
  | .handle handle tagStart =>
    if (m.handles.lookup handle).isSome then refuse
    else .ok (.taken { m with handles := (handle, tagStart) :: m.handles })
  | .unknown => .ok (.taken m)

def startStep (m : Machine) (token : Token) : Except Problem Step :=
  match token with
  | .directive directive => m.directiveStep directive
  | .documentStart => m.take (.optional .block endsContent)
  | .streamEnd => if m.directives then refuse else m.take .finished
  | .broken problem => .error problem
  | _ => if m.directives then refuse else m.keep (.node .block .none)

def step (m : Machine) (token : Token) : Except Problem Step :=
  match m.expected with
  | .optional place endsAt =>
    if endsAt token then .ok (.kept (m.deliver emptyNode)) else m.keep (.node place .none)
  | .node place properties => m.nodeStep place properties token
  | .entry => m.entryStep token
  | .after => m.afterStep token
  | .start => m.startStep token
  | .documentEnd =>
    match token with
    | .documentEnd => m.take .documentEnd
    | .streamEnd => m.take .finished
    | .broken problem => .error problem
    | _ => refuse
  | .finished => refuse

/-- One token: steps until it is taken, and no more than what is open allows. -/
def feed (token : Token) : (left : Nat) → Machine → Except Problem Machine
  | 0, _ => .error .malformed
  | left + 1, m =>
    match m.step token with
    | .ok (.taken m) => .ok m
    | .ok (.kept m) => feed token left m
    | .error problem => .error problem

end Machine

end Assembly

/-- The one document of a token sequence; none if it has no document. -/
def Node.ofTokens? (tokens : List Token) : Except Problem (Option Node) :=
  (tokens.foldlM (fun m token => Assembly.Machine.feed token (4 * (m.frames.length + 2)) m)
    Assembly.Machine.initial).map (·.root)

/-- The one document of a text; none if it has no document. -/
def Node.ofText? (cs : List Char) : Except Problem (Option Node) :=
  if cs.all isAllowed then Node.ofTokens? (Token.ofText cs) else .error .malformed

end ClusterLease.Yaml
