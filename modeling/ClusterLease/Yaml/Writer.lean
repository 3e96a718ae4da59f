import ClusterLease.Text.Base64
import ClusterLease.Value.Order
import ClusterLease.Yaml.Page
import ClusterLease.Yaml.Tag

/-!
Writing a mapping as a YAML document.

Collections are written as blocks, with their keys in order and two more spaces for each level; only empty
ones are written with brackets. A scalar is written plainly if its text alone says what it is, else in
quotes; where even those do not say it, its tag comes first. A key that is empty, long or of several lines
gets a question mark.
-/

namespace ClusterLease

/-- A value with the keys of all its mappings, and the members of all its sets, in order. -/
def Value.inKeyOrder : Value → Value
  | .list items => .list (inItems items)
  | .pair a b => .pair (inKeyOrder a) (inKeyOrder b)
  | .map entries => .map (Entries.sorted (inEntries entries))
  | .set members => .set ((Entries.sorted (members.map fun member => (member, .null))).map (·.1))
  | value => value
where
  /-- The items of a list, each with its keys in order. -/
  inItems : List Value → List Value
    | [] => []
    | value :: rest => inKeyOrder value :: inItems rest
  /-- The entries of a mapping, their values with their keys in order. -/
  inEntries : List (Value × Value) → List (Value × Value)
    | [] => []
    | (key, value) :: rest => (key, inKeyOrder value) :: inEntries rest

namespace Yaml

/-- The text that stands for a scalar, what it stands for, and whether it is to be a block of lines. -/
structure ScalarText where
  tag : Tag
  text : String
  inLines : Bool

namespace ScalarText

/-- Numbers are written as in messages, but so that they read back as decimals. -/
def numberStyle : Double.Style := ⟨-4, 15, true, ".nan", ".inf"⟩

/-- The text of a scalar; collections have none. -/
def ofValue? : Value → Option ScalarText
  | .null => some ⟨.null, "null", false⟩
  | .bool b => some ⟨.bool, if b then "true" else "false", false⟩
  | .int n => some ⟨.int, toString n, false⟩
  | .real x => some ⟨.float, x.render numberStyle, false⟩
  | .text s => some ⟨.str, s, false⟩
  | .bytes bytes => some ⟨.binary, String.ofList (Text.Base64.encode bytes), true⟩
  | .date day => some ⟨.timestamp, day.text, false⟩
  | .moment m => some ⟨.timestamp, m.textWith " ", false⟩
  | .list _ | .pair _ _ | .map _ | .set _ => none

def analysis (s : ScalarText) : Analysis := Analysis.ofText s.text.toList

/-- Whether a scalar fits before a colon: it is neither empty nor long, and has one line. -/
def isSimpleKey (s : ScalarText) : Bool :=
  let analysis := s.analysis
  s.tag.shortName.length + s.text.length < 128 && !analysis.isEmpty && !analysis.isMultiline

/-- Whether a scalar is written as it is. -/
def isPlain (s : ScalarText) (asKey : Bool) : Bool :=
  let analysis := s.analysis
  !s.inLines && Tag.implied s.text == s.tag && analysis.plain &&
    !(asKey && (analysis.isEmpty || analysis.isMultiline))

/-- A scalar in quotes or as a block of lines. -/
def writeMarked (s : ScalarText) (asKey : Bool) (indent : Nat) (p : Page) : Page :=
  let analysis := s.analysis
  let cs := s.text.toList
  if s.inLines then
    if analysis.block && !asKey then p.block cs indent else p.double cs (!asKey) indent
  else if analysis.single && !(asKey && analysis.isMultiline) then p.single cs (!asKey) indent
  else p.double cs (!asKey) indent

/-- A scalar, after its tag if its text does not say what it is. Keys are never split. -/
def write (s : ScalarText) (asKey : Bool) (indent : Nat) (p : Page) : Page :=
  if s.isPlain asKey then p.plain s.text.toList (!asKey) indent
  else
    let p := if s.tag = .str then p else p.mark s.tag.shortName true false
    s.writeMarked asKey indent p

end ScalarText

namespace Page

/-- A scalar at an indentation; it would go on two columns further. -/
def scalar (p : Page) (indent : Nat) (value : Value) : Page :=
  match ScalarText.ofValue? value with
  | some s => s.write false (indent + 2) p
  | none => p

/-- A key and its colon, on a line of its own. -/
def key (p : Page) (indent : Nat) (value : Value) : Page :=
  let p := p.indentTo indent
  match ScalarText.ofValue? value with
  | some s =>
    if s.isSimpleKey then (s.write true (indent + 2) p).mark ":" false false
    else
      let p := s.write false (indent + 2) (p.mark "?" true true)
      (p.indentTo indent).mark ":" true true
  | none => p

/-- The dash before an item, on a line of its own. -/
def dash (p : Page) (indent : Nat) : Page := (p.indentTo indent).mark "-" true true

def brackets (p : Page) (left right : String) : Page :=
  { p.mark left true false with afterBlank := true }.mark right false false

/-- The indentation of the items of a list: after a key they need no more than the key has. -/
def itemIndent (p : Page) (indent : Nat) (afterKey : Bool) : Nat :=
  if afterKey && !p.onlyMarks then indent else indent + 2

/-- A set after its tag; its members are keys without values. -/
def set (p : Page) (indent : Nat) (members : List Value) : Page :=
  let p := p.mark (Tag.set.shortName) true false
  if members.isEmpty then p.brackets "\x7b" "\x7d"
  else members.foldl (fun p member => (p.key (indent + 2) member).scalar (indent + 2) .null) p

mutual

/-- A value after a key, or after a dash, that stands at an indentation. -/
def node (indent : Nat) (afterKey : Bool) : Value → Page → Page
  | .list [], p => p.brackets "[" "]"
  | .list items, p => nodes (p.itemIndent indent afterKey) items p
  | .pair a b, p =>
    let inner := p.itemIndent indent afterKey
    node inner false b (dash (node inner false a (dash p inner)) inner)
  | .map [], p => p.brackets "\x7b" "\x7d"
  | .map entries, p => entryNodes (indent + 2) entries p
  | .set members, p => p.set indent members
  | value, p => p.scalar indent value

def nodes (indent : Nat) : List Value → Page → Page
  | [], p => p
  | value :: rest, p => nodes indent rest (node indent false value (p.dash indent))

def entryNodes (indent : Nat) : List (Value × Value) → Page → Page
  | [], p => p
  | (key, value) :: rest, p => entryNodes indent rest (node indent true value (p.key indent key))

end

end Page

def write (entries : Entries) : String :=
  match Value.inKeyOrder (.map entries) with
  | .map (first :: rest) => ((Page.empty.entryNodes 0 (first :: rest)).indentTo 0).text
  | _ => ((Page.empty.brackets "\x7b" "\x7d").indentTo 0).text

end Yaml

end ClusterLease
