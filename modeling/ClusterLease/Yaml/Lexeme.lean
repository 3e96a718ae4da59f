import ClusterLease.Number.Numeral
import ClusterLease.Text.Encoding
import ClusterLease.Text.Hex
import ClusterLease.Yaml.Cursor

/-!
The lexemes of YAML that span more than a character: names, tags, directives, and scalars in their styles.

Each function starts at the lexeme's first character and returns what it read and the place after it. A
scalar that goes over several lines is folded while it is read: a single line break becomes a space, and of
several the first is dropped. Loops over lines are bounded by the number of characters left.
-/

namespace ClusterLease.Yaml.Lexeme

/-! ### Names and tags -/

/-- A character of an anchor, a directive name or a tag handle. -/
def isNameChar (c : Char) : Bool :=
  ('0' ≤ c && c ≤ '9') || ('A' ≤ c && c ≤ 'Z') || ('a' ≤ c && c ≤ 'z') || c == '-' || c == '_'

/-- A character of the rest of a tag. -/
def isUriChar (c : Char) : Bool := isNameChar c || ";/?:@&=+$,.!~*'()[]%".toList.contains c

/-- A name of at least one character, given what may follow it. -/
def name (c : Cursor) (mayFollow : Char → Bool) : Except Problem (String × Cursor) :=
  let (cs, c) := c.takeWhile isNameChar
  if cs.isEmpty || !mayFollow c.next then .error .malformed else .ok (String.ofList cs, c)

/-- The name of an anchor or alias, after its sign. -/
def anchor (c : Cursor) : Except Problem (String × Cursor) :=
  name c.forward fun d => isBlankOrEnd d || "?:,]\x7d%@\x60".toList.contains d

/-- A run of escaped bytes; together they must be UTF-8. -/
def uriEscapes (c : Cursor) : (left : Nat) → (bytes : List UInt8) → Except Problem (List Char × Cursor)
  | 0, _ => .error .malformed
  | left + 1, bytes =>
    if c.next = '%' then
      match Text.hexNumber? [c.peek 1, c.peek 2] with
      | some n => uriEscapes (c.advance 3) left (UInt8.ofNat n :: bytes)
      | none => .error .malformed
    else match Text.Utf8.decode bytes.reverse with
      | some cs => .ok (cs, c)
      | none => .error .malformed

/-- The characters of a tag after its handle. -/
def uriFrom (c : Cursor) : (left : Nat) → (collected : List Char) → Except Problem (String × Cursor)
  | 0, _ => .error .malformed
  | left + 1, collected =>
    let (plain, c) := c.takeWhile fun d => isUriChar d && d != '%'
    let collected := collected ++ plain
    if c.next = '%' then do
      let (cs, c) ← uriEscapes c (c.rest.length + 1) []
      uriFrom c left (collected ++ cs)
    else .ok (String.ofList collected, c)

/-- The rest of a tag; it must not be empty. -/
def uri (c : Cursor) : Except Problem (String × Cursor) :=
  if isUriChar c.next then uriFrom c (c.rest.length + 1) [] else .error .malformed

/-- A tag handle: an exclamation mark, or a name between two of them. -/
def handle (c : Cursor) : Except Problem (String × Cursor) :=
  if c.next ≠ '!' then .error .malformed
  else if c.peek 1 = ' ' then .ok ("!", c.forward)
  else
    let (cs, after) := c.forward.takeWhile isNameChar
    if after.next = '!' then .ok (String.ofList ('!' :: cs ++ ['!']), after.forward) else .error .malformed

/-- A tag: a handle, unless it is written in full, and the rest. -/
structure TagText where
  handle : Option String
  suffix : String

/-- Whether a further exclamation mark comes before the next space. -/
def hasHandle (c : Cursor) : Bool := (c.rest.drop 1).takeWhile (!isSpaceOrEnd ·) |>.contains '!'

def tag (c : Cursor) : Except Problem (TagText × Cursor) := do
  let (found, c) ←
    if c.peek 1 = '<' then do
      let (suffix, c) ← uri (c.advance 2)
      if c.next = '>' then Except.ok (TagText.mk none suffix, c.forward) else .error .malformed
    else if isBlankOrEnd (c.peek 1) then .ok (TagText.mk none "!", c.forward)
    else do
      let (handle, c) ← if hasHandle c then handle c else .ok ("!", c.forward)
      let (suffix, c) ← uri c
      .ok (TagText.mk (some handle) suffix, c)
  if isSpaceOrEnd c.next then .ok (found, c) else .error .malformed

/-! ### Directives -/

/-- A directive: the version of YAML, a tag handle with what it stands for, or one that is ignored. -/
inductive Directive where
  | version (major : Nat)
  | handle (handle tagStart : String)
  | unknown

def versionNumber (c : Cursor) : Except Problem (Nat × Cursor) :=
  let (cs, c) := c.takeWhile Text.isAsciiDigit
  if cs.isEmpty then .error .malformed
  else match Numeral.int? (String.ofList cs) with
    | some n => .ok (n.toNat, c)
    | none => .error (.mishap .badValue)

/-- A directive with its sign, up to the start of the next line. -/
def directive (c : Cursor) : Except Problem (Directive × Cursor) := do
  let (name, c) ← name c.forward isSpaceOrEnd
  let (found, c) ←
    if name = "YAML" then do
      let (major, c) ← versionNumber (c.skipWhile (· == ' '))
      if c.next ≠ '.' then .error .malformed
      else
        let (_, c) ← versionNumber c.forward
        if isSpaceOrEnd c.next then .ok (Directive.version major, c) else .error .malformed
    else if name = "TAG" then do
      let (handle, c) ← handle (c.skipWhile (· == ' '))
      if c.next ≠ ' ' then .error .malformed
      else
        let (tagStart, c) ← uri (c.skipWhile (· == ' '))
        if isSpaceOrEnd c.next then .ok (Directive.handle handle tagStart, c) else .error .malformed
    else .ok (Directive.unknown, c.skipWhile (!isBreakOrEnd ·))
  .ok (found, ← c.ignoredLine)

/-! ### Scalars in quotes -/

/-- The further line breaks after a first one, with the blanks around them dropped. -/
def quotedBreaks (c : Cursor) : (left : Nat) → (breaks : List Char) → Except Problem (List Char × Cursor)
  | 0, _ => .error .malformed
  | left + 1, breaks =>
    if c.isDocumentMarker then .error .malformed
    else
      let c := c.skipWhile fun d => d == ' ' || d == '\t'
      match c.lineBreak? with
      | some (br, c) => quotedBreaks c left (breaks ++ [br])
      | none => .ok (breaks, c)

/-- A line break folded with those after it. -/
def folded (first : Char) (further : List Char) : List Char :=
  if first ≠ '\n' then first :: further else if further.isEmpty then [' '] else further

/-- Blanks inside quotes, and the line breaks after them. -/
def quotedSpaces (c : Cursor) : Except Problem (List Char × Cursor) :=
  let (blanks, c) := c.takeWhile fun d => d == ' ' || d == '\t'
  if c.next = endMark then .error .malformed
  else match c.lineBreak? with
    | some (first, c) => do
      let (further, c) ← quotedBreaks c (c.rest.length + 1) []
      .ok (folded first further, c)
    | none => .ok (blanks, c)

/-- The character that a letter after a backslash stands for. -/
def escaped? (c : Char) : Option Char :=
  match c with
  | '0' => some '\x00'
  | 'a' => some '\x07'
  | 'b' => some '\x08'
  | 't' => some '\t'
  | '\t' => some '\t'
  | 'n' => some '\n'
  | 'v' => some '\x0b'
  | 'f' => some '\x0c'
  | 'r' => some '\r'
  | 'e' => some '\x1b'
  | ' ' => some ' '
  | '"' => some '"'
  | '\\' => some '\\'
  | '/' => some '/'
  | 'N' => some (Char.ofNat 0x85)
  | '_' => some (Char.ofNat 0xA0)
  | 'L' => some (Char.ofNat 0x2028)
  | 'P' => some (Char.ofNat 0x2029)
  | _ => none

/-- How many hexadecimal digits follow a letter after a backslash. -/
def codeLength? (c : Char) : Option Nat :=
  match c with
  | 'x' => some 2
  | 'u' => some 4
  | 'U' => some 8
  | _ => none

/-- What a backslash and the characters after it stand for. A number may be no code point. -/
def escape (c : Cursor) : Except Problem (List Char × Cursor) :=
  let d := c.peek 1
  match escaped? d, codeLength? d with
  | some plain, _ => .ok ([plain], c.advance 2)
  | none, some count =>
    let digits := (c.rest.drop 2).take count
    match Text.hexNumber? digits with
    | some code =>
      if digits.length < count then .error .malformed
      else if 0x7FFFFFFF < code then .error (.mishap .overflow)
      else if 0x10FFFF < code then .error (.mishap .badValue)
      else .ok ([Text.charOfCode code], c.advance (2 + count))
    | none => .error .malformed
  | none, none =>
    match c.forward.lineBreak? with
    | some (_, c) => quotedBreaks c (c.rest.length + 1) []
    | none => .error .malformed

/-- Whether a character inside quotes stands for itself in both styles. -/
def isQuotedPlain (c : Char) : Bool := !(c == '\'' || c == '"' || c == '\\' || isBlankOrEnd c)

/-- A scalar in quotes, after the opening one. -/
def quotedFrom (double : Bool) (c : Cursor) : (left : Nat) → (collected : List Char) → Except Problem (List Char × Cursor)
  | 0, _ => .error .malformed
  | left + 1, collected =>
    let quote := if double then '"' else '\''
    let d := c.next
    if isQuotedPlain d then
      let (cs, c) := c.takeWhile isQuotedPlain
      quotedFrom double c left (collected ++ cs)
    else if !double && d == '\'' && c.peek 1 == '\'' then quotedFrom double (c.advance 2) left (collected ++ ['\''])
    else if d = quote then .ok (collected, c.forward)
    else if double && d == '\\' then do
      let (cs, c) ← escape c
      quotedFrom double c left (collected ++ cs)
    else if isBlankOrEnd d then do
      let (cs, c) ← quotedSpaces c
      quotedFrom double c left (collected ++ cs)
    else quotedFrom double c.forward left (collected ++ [d])

def quoted (double : Bool) (c : Cursor) : Except Problem (String × Cursor) := do
  let (cs, c) ← quotedFrom double c.forward (c.rest.length + 1) []
  .ok (String.ofList cs, c)

/-! ### Plain scalars -/

/-- What a scalar is, and whether a key may start after it: one may where a line break was passed. -/
structure Plain where
  text : String
  keyAllowed : Bool

/-- Whether a plain scalar ends before a character, given the one after it. -/
def endsPlain (inFlow : Bool) (d after : Char) : Bool :=
  isBlankOrEnd d || (d == ':' && (isBlankOrEnd after || (inFlow && ",[]\x7b\x7d".toList.contains after))) ||
    (inFlow && ",?[]\x7b\x7d".toList.contains d)

/-- The characters of a plain scalar up to the next blank or its end. -/
def plainRun (inFlow : Bool) : List Char → List Char
  | [] => []
  | d :: rest => if endsPlain inFlow d (rest.headD endMark) then [] else d :: plainRun inFlow rest

/-- The further line breaks in a plain scalar; none if a document starts or ends after one of them. -/
def plainBreaks (c : Cursor) : (left : Nat) → (breaks : List Char) → Option (List Char) × Cursor
  | 0, breaks => (some breaks, c)
  | left + 1, breaks =>
    let c := c.skipWhile (· == ' ')
    match c.lineBreak? with
    | some (br, c) => if c.isDocumentMarker then (none, c) else plainBreaks c left (breaks ++ [br])
    | none => (some breaks, c)

/-- What stands between two runs of a plain scalar, and whether a line break was passed. -/
def plainSpaces (c : Cursor) : List Char × Bool × Cursor :=
  let (blanks, c) := c.takeWhile (· == ' ')
  match c.lineBreak? with
  | some (first, c) =>
    if c.isDocumentMarker then ([], true, c)
    else match plainBreaks c (c.rest.length + 1) [] with
      | (some further, c) => (folded first further, true, c)
      | (none, c) => ([], true, c)
  | none => (blanks, false, c)

/-- A plain scalar from a run on. Outside of flows it ends where a line is not indented enough. -/
def plainFrom (inFlow : Bool) (indent : Nat) (c : Cursor) :
    (left : Nat) → (collected spaces : List Char) → (keyAllowed : Bool) → Plain × Cursor
  | 0, collected, _, keyAllowed => (⟨String.ofList collected, keyAllowed⟩, c)
  | left + 1, collected, spaces, keyAllowed =>
    let run := if c.next = '#' then [] else plainRun inFlow c.rest
    if run.isEmpty then (⟨String.ofList collected, keyAllowed⟩, c)
    else
      let collected := collected ++ spaces ++ run
      let (spaces, passed, c) := plainSpaces (c.advance run.length)
      -- A comment can only follow a blank, and only a line that is indented enough goes on with the scalar.
      if spaces.isEmpty || c.next == '#' || (!inFlow && c.column < indent) then
        (⟨String.ofList collected, passed⟩, c)
      else plainFrom inFlow indent c left collected spaces passed

def plain (inFlow : Bool) (indent : Nat) (c : Cursor) : Plain × Cursor :=
  plainFrom inFlow indent c (c.rest.length + 1) [] [] false

/-! ### Block scalars -/

/-- What becomes of the line breaks at the end of a block scalar. -/
inductive Chomping where
  | strip
  | clip
  | keep
  deriving DecidableEq

/-- The head of a block scalar: its chomping and, if given, its indentation. -/
structure BlockHead where
  chomping : Chomping
  indent : Option Nat

def chomping? : Char → Option Chomping
  | '+' => some .keep
  | '-' => some .strip
  | _ => none

/-- A digit for the indentation, which is not zero. -/
def indentDigit (c : Cursor) : Except Problem (Option Nat × Cursor) :=
  if Text.isAsciiDigit c.next then
    let n := c.next.toNat - '0'.toNat
    if n = 0 then .error .malformed else .ok (some n, c.forward)
  else .ok (none, c)

/-- The head of a block scalar: a sign and a digit in either order, both optional. -/
def blockHead (c : Cursor) : Except Problem (BlockHead × Cursor) := do
  let (head, c) ← match chomping? c.next with
    | some chomping => do
      let (indent, c) ← indentDigit c.forward
      Except.ok (BlockHead.mk chomping indent, c)
    | none => do
      let (indent, c) ← indentDigit c
      match indent, chomping? c.next with
      | some _, some chomping => .ok (BlockHead.mk chomping indent, c.forward)
      | _, _ => .ok (BlockHead.mk .clip indent, c)
  if isSpaceOrEnd c.next then .ok (head, c) else .error .malformed

/-- The empty lines before a block scalar, and the widest indentation seen among them. -/
def blockLead (c : Cursor) : (left : Nat) → (breaks : List Char) → (widest : Nat) → List Char × Nat × Cursor
  | 0, breaks, widest => (breaks, widest, c)
  | left + 1, breaks, widest =>
    if c.next = ' ' then
      let c := c.skipWhile (· == ' ')
      blockLead c left breaks (max widest c.column)
    else match c.lineBreak? with
      | some (br, c) => blockLead c left (breaks ++ [br]) widest
      | none => (breaks, widest, c)

/-- The empty lines inside a block scalar. -/
def blockBreaks (indent : Nat) (c : Cursor) : (left : Nat) → (breaks : List Char) → List Char × Cursor
  | 0, breaks => (breaks, c)
  | left + 1, breaks =>
    let c := c.skipSpacesTo indent
    match c.lineBreak? with
    | some (br, c) => blockBreaks indent c left (breaks ++ [br])
    | none => (breaks, c)

/-- The lines of a block scalar, the break after the last of them, and the empty lines at the end. -/
def blockLines (isFolded : Bool) (indent : Nat) (c : Cursor) :
    (left : Nat) → (collected breaks : List Char) → (lastBreak : List Char) →
      List Char × List Char × List Char × Cursor
  | 0, collected, breaks, lastBreak => (collected, lastBreak, breaks, c)
  | left + 1, collected, breaks, lastBreak =>
    if c.column = indent && c.next != endMark then
      let startsInk := c.next != ' ' && c.next != '\t'
      let (line, c) := c.takeWhile (!isBreakOrEnd ·)
      let collected := collected ++ breaks ++ line
      let (lastBreak, c) := match c.lineBreak? with
        | some (br, c) => ([br], c)
        | none => ([], c)
      let (breaks, c) := blockBreaks indent c (c.rest.length + 1) []
      if c.column = indent && c.next != endMark then
        -- Only lines that start with neither a space nor a tab are folded into one.
        let joins := isFolded && lastBreak == ['\n'] && startsInk && c.next != ' ' && c.next != '\t'
        let between := if joins then (if breaks.isEmpty then [' '] else []) else lastBreak
        blockLines isFolded indent c left (collected ++ between) breaks lastBreak
      else (collected, lastBreak, breaks, c)
    else (collected, lastBreak, breaks, c)

/-- A block scalar, with the indentation of what it stands in. -/
def block (isFolded : Bool) (outer : Int) (c : Cursor) : Except Problem (String × Cursor) := do
  let (head, c) ← blockHead c.forward
  let c ← c.ignoredLine
  -- A digit in the head counts from the indentation around the scalar; without one the first line decides.
  let least := max 1 (outer + 1).toNat
  let (indent, breaks, c) := match head.indent with
    | some indent =>
      let indent := least + indent - 1
      let (breaks, c) := blockBreaks indent c (c.rest.length + 1) []
      (indent, breaks, c)
    | none =>
      let (breaks, widest, c) := blockLead c (c.rest.length + 1) [] 0
      (max least widest, breaks, c)
  let (collected, lastBreak, breaks, c) := blockLines isFolded indent c (c.rest.length + 1) [] breaks []
  let ending := match head.chomping with
    | .strip => []
    | .clip => lastBreak
    | .keep => lastBreak ++ breaks
  .ok (String.ofList (collected ++ ending), c)

end ClusterLease.Yaml.Lexeme
