import ClusterLease.Yaml.Lexeme

/-!
The tokens of a YAML text.

Indentation is made explicit: where a block collection starts and where a line is indented less, tokens for
the start and end of the collection are put in. Whether a node is the key of a mapping is known only when
the colon after it comes, so every node that may be one is remembered, and the token that announces a key is
put in front of it later. Such a node must lie on one line and within 1024 characters.

Reading tokens never fails: where the text cannot be read, `broken` is the last token.
-/

namespace ClusterLease.Yaml

/-- A token. -/
inductive Token where
  | directive (directive : Lexeme.Directive)
  | documentStart
  | documentEnd
  | blockSequenceStart
  | blockMappingStart
  | blockEnd
  | flowSequenceStart
  | flowSequenceEnd
  | flowMappingStart
  | flowMappingEnd
  | flowEntry
  | blockEntry
  | key
  | value
  | alias (name : String)
  | anchor (name : String)
  | tag (tag : Lexeme.TagText)
  | scalar (plain : Bool) (text : String)
  | streamEnd
  | broken (problem : Problem)

/-- A node that may turn out to be a key: the number of its first token, and where it stands. -/
structure KeyCandidate where
  number : Nat
  required : Bool
  index : Nat
  line : Nat
  column : Nat

/-- The state of reading tokens. The tokens read so far are in reverse. -/
structure Lexer where
  cursor : Cursor
  flowLevel : Nat
  indent : Int
  indents : List Int
  keyAllowed : Bool
  candidates : List (Nat × KeyCandidate)
  tokens : List Token
  count : Nat

namespace Lexer

def ofText (cs : List Char) : Lexer := ⟨.ofText cs, 0, -1, [], true, [], [], 0⟩

def emit (l : Lexer) (token : Token) : Lexer := { l with tokens := token :: l.tokens, count := l.count + 1 }

/-- One more token, of some characters. -/
def emitAfter (l : Lexer) (length : Nat) (token : Token) : Lexer :=
  { l.emit token with cursor := l.cursor.advance length }

/-- Tokens put in front of the one with a number. -/
def insert (l : Lexer) (number : Nat) (inserted : List Token) : Lexer :=
  let newer := l.count - number
  { l with
    tokens := l.tokens.take newer ++ inserted.reverse ++ l.tokens.drop newer
    count := l.count + inserted.length }

/-- Whether reading stands inside a flow collection. -/
def inFlow (l : Lexer) : Bool := l.flowLevel != 0

/-! ### Indentation -/

/-- The indentation left after ending the block collections that are indented more, and how many end. -/
def unwound (column : Int) : Int → List Int → Int × List Int × Nat
  | indent, [] => (indent, [], 0)
  | indent, outer :: indents =>
    if column < indent then
      let (indent, indents, ended) := unwound column outer indents
      (indent, indents, ended + 1)
    else (indent, outer :: indents, 0)

/-- Ends the block collections that are indented more than a column. -/
def unwind (l : Lexer) (column : Int) : Lexer :=
  if l.inFlow then l
  else
    let (indent, indents, ended) := unwound column l.indent l.indents
    { l with
      indent, indents
      tokens := List.replicate ended Token.blockEnd ++ l.tokens
      count := l.count + ended }

/-- Indents to a column if it is further right; whether it is. -/
def indentTo (l : Lexer) (column : Nat) : Bool × Lexer :=
  if l.indent < column then (true, { l with indent := column, indents := l.indent :: l.indents }) else (false, l)

/-- Starts a block collection at a column if it is further right than the present one. -/
def startBlock (l : Lexer) (column : Nat) (token : Token) : Lexer :=
  match l.indentTo column with
  | (true, l) => l.emit token
  | (false, l) => l

/-! ### Candidates for keys -/

/-- Forgets the candidate of the present level; one that had to become a key is an error. -/
def dropCandidate (l : Lexer) : Except Problem Lexer :=
  match l.candidates.lookup l.flowLevel with
  | some candidate =>
    if candidate.required then .error .malformed
    else .ok { l with candidates := l.candidates.filter fun (level, _) => level != l.flowLevel }
  | none => .ok l

/-- Whether a candidate can no longer become a key. -/
def isStale (l : Lexer) (candidate : KeyCandidate) : Bool :=
  candidate.line != l.cursor.line || 1024 < l.cursor.index - candidate.index

/-- Forgets the candidates that can no longer become keys. -/
def dropStale (l : Lexer) : Except Problem Lexer :=
  if l.candidates.any fun (_, candidate) => l.isStale candidate && candidate.required then .error .malformed
  else .ok { l with candidates := l.candidates.filter fun (_, candidate) => !l.isStale candidate }

/-- Remembers the next token as a candidate, if a key may start here. -/
def saveCandidate (l : Lexer) : Except Problem Lexer :=
  if l.keyAllowed then do
    let l ← l.dropCandidate
    let required := !l.inFlow && l.indent == l.cursor.column
    let candidate := ⟨l.count, required, l.cursor.index, l.cursor.line, l.cursor.column⟩
    .ok { l with candidates := (l.flowLevel, candidate) :: l.candidates }
  else .ok l

/-! ### Tokens -/

/-- Skips blanks, comments and line breaks. Outside of flows a key may start on a new line. -/
def skipToToken (l : Lexer) : (left : Nat) → Lexer
  | 0 => l
  | left + 1 =>
    let cursor := (l.cursor.skipWhile (· == ' ')).skipComment
    match cursor.lineBreak? with
    | some (_, cursor) => skipToToken { l with cursor, keyAllowed := l.keyAllowed || !l.inFlow } left
    | none => { l with cursor }

def readEnd (l : Lexer) : Except Problem Lexer := do
  let l := l.unwind (-1)
  let l ← l.dropCandidate
  .ok (l.emit .streamEnd)

/-- A directive or a mark between documents, before which all collections end. -/
def betweenDocuments (l : Lexer) : Except Problem Lexer := do
  let l := l.unwind (-1)
  let l ← l.dropCandidate
  .ok { l with keyAllowed := false }

def readDirective (l : Lexer) : Except Problem Lexer := do
  let l ← l.betweenDocuments
  let (directive, cursor) ← Lexeme.directive l.cursor
  .ok { l.emit (.directive directive) with cursor }

def readMarker (l : Lexer) (token : Token) : Except Problem Lexer := do
  .ok ((← l.betweenDocuments).emitAfter 3 token)

/-- The start of a flow collection, which may itself be a key. -/
def readFlowStart (l : Lexer) (token : Token) : Except Problem Lexer := do
  let l ← l.saveCandidate
  .ok ({ l with flowLevel := l.flowLevel + 1, keyAllowed := true }.emitAfter 1 token)

def readFlowEnd (l : Lexer) (token : Token) : Except Problem Lexer := do
  if l.inFlow then
    let l ← l.dropCandidate
    .ok ({ l with flowLevel := l.flowLevel - 1, keyAllowed := false }.emitAfter 1 token)
  else .error .malformed

/-- A comma between the entries of a flow collection. -/
def readFlowEntry (l : Lexer) : Except Problem Lexer := do
  let l ← l.dropCandidate
  .ok ({ l with keyAllowed := true }.emitAfter 1 .flowEntry)

/-- The hyphen of an entry of a block sequence. -/
def readBlockEntry (l : Lexer) : Except Problem Lexer := do
  if !l.inFlow && !l.keyAllowed then .error .malformed
  else
    let l := if l.inFlow then l else l.startBlock l.cursor.column .blockSequenceStart
    let l ← { l with keyAllowed := true }.dropCandidate
    .ok (l.emitAfter 1 .blockEntry)

def readKey (l : Lexer) : Except Problem Lexer := do
  if !l.inFlow && !l.keyAllowed then .error .malformed
  else
    let l := if l.inFlow then l else l.startBlock l.cursor.column .blockMappingStart
    let l ← { l with keyAllowed := !l.inFlow }.dropCandidate
    .ok (l.emitAfter 1 .key)

/-- The colon of a value: either it makes a candidate a key, or it follows a marked key or none. -/
def readValue (l : Lexer) : Except Problem Lexer :=
  match l.candidates.lookup l.flowLevel with
  | some candidate =>
    let l := { l with
      candidates := l.candidates.filter fun (level, _) => level != l.flowLevel
      keyAllowed := false }
    -- The mapping starts where its first key does, which was known only when the colon came.
    let (starts, l) := if l.inFlow then (false, l) else l.indentTo candidate.column
    let l := l.insert candidate.number (if starts then [.blockMappingStart, .key] else [.key])
    .ok (l.emitAfter 1 .value)
  | none => do
    if !l.inFlow && !l.keyAllowed then .error .malformed
    else
      let l := if l.inFlow then l else l.startBlock l.cursor.column .blockMappingStart
      let l ← { l with keyAllowed := !l.inFlow }.dropCandidate
      .ok (l.emitAfter 1 .value)

/-- A lexeme that may start a key. -/
def readLexeme (l : Lexer) (read : Cursor → Except Problem (Token × Cursor)) : Except Problem Lexer := do
  let l ← l.saveCandidate
  let (token, cursor) ← read l.cursor
  .ok { { l with keyAllowed := false }.emit token with cursor }

/-- A block scalar, after which a key may start. -/
def readBlockScalar (l : Lexer) (isFolded : Bool) : Except Problem Lexer := do
  let l ← { l with keyAllowed := true }.dropCandidate
  let (text, cursor) ← Lexeme.block isFolded l.indent l.cursor
  .ok { l.emit (.scalar false text) with cursor }

/-- A plain scalar, which may start a key. -/
def readPlain (l : Lexer) : Except Problem Lexer := do
  let l ← l.saveCandidate
  let (plain, cursor) := Lexeme.plain l.inFlow (l.indent + 1).toNat l.cursor
  .ok { l.emit (.scalar true plain.text) with cursor, keyAllowed := plain.keyAllowed }

/-- Whether a plain scalar may start with a character, given the one after it. -/
def startsPlain (inFlow : Bool) (c after : Char) : Bool :=
  !(isBlankOrEnd c || "-?:,[]\x7b\x7d#&*!|>'\"%@\x60".toList.contains c) ||
    (!isBlankOrEnd after && (c == '-' || (!inFlow && (c == '?' || c == ':'))))

/-- The next token, with the tokens that have to come before it. -/
def readToken (l : Lexer) : Except Problem Lexer := do
  let l ← (l.skipToToken (l.cursor.rest.length + 1)).dropStale
  -- Before the token itself, the collections that it stands outside of have to end.
  let l := l.unwind l.cursor.column
  let c := l.cursor.next
  let after := l.cursor.peek 1
  let startsLine := l.cursor.column == 0
  let stands := l.inFlow || isBlankOrEnd after
  if c == endMark then l.readEnd
  else if c == '%' && startsLine then l.readDirective
  else if startsLine && l.cursor.isMarker '-' then l.readMarker .documentStart
  else if startsLine && l.cursor.isMarker '.' then l.readMarker .documentEnd
  else if c == '[' then l.readFlowStart .flowSequenceStart
  else if c == '{' then l.readFlowStart .flowMappingStart
  else if c == ']' then l.readFlowEnd .flowSequenceEnd
  else if c == '}' then l.readFlowEnd .flowMappingEnd
  else if c == ',' then l.readFlowEntry
  else if c == '-' && isBlankOrEnd after then l.readBlockEntry
  else if c == '?' && stands then l.readKey
  else if c == ':' && stands then l.readValue
  else if c == '*' then l.readLexeme fun c => (Lexeme.anchor c).map fun (name, c) => (.alias name, c)
  else if c == '&' then l.readLexeme fun c => (Lexeme.anchor c).map fun (name, c) => (.anchor name, c)
  else if c == '!' then l.readLexeme fun c => (Lexeme.tag c).map fun (tag, c) => (.tag tag, c)
  else if c == '|' && !l.inFlow then l.readBlockScalar false
  else if c == '>' && !l.inFlow then l.readBlockScalar true
  else if c == '\'' || c == '"' then
    l.readLexeme fun cursor => (Lexeme.quoted (c == '"') cursor).map fun (text, c) => (.scalar false text, c)
  else if startsPlain l.inFlow c after then l.readPlain
  else .error .malformed

def isDone (l : Lexer) : Bool :=
  match l.tokens with
  | .streamEnd :: _ => true
  | _ => false

/-- All tokens in order. Every round but the last takes at least one character. -/
def readAll (l : Lexer) : (left : Nat) → List Token
  | 0 => (Token.broken .malformed :: l.tokens).reverse
  | left + 1 =>
    match l.readToken with
    | .ok l => if l.isDone then l.tokens.reverse else readAll l left
    | .error problem => (Token.broken problem :: l.tokens).reverse

end Lexer

/-- The tokens of a text. A byte order mark at the start is skipped. -/
def Token.ofText (cs : List Char) : List Token :=
  let l := Lexer.ofText cs
  let l := if l.cursor.next = byteOrderMark then { l with cursor := l.cursor.forward } else l
  l.readAll (cs.length + 1)

end ClusterLease.Yaml
