import ClusterLease.Fault

/-!
Reading a YAML text from left to right.

A `Cursor` knows what is left of the text and where it stands. Past the end it sees the zero character, which
no YAML text holds. A byte order mark takes up no column.
-/

namespace ClusterLease.Yaml

/-- Why a text is no document: it breaks the rules of YAML, or a value in it cannot be made. -/
inductive Problem where
  | malformed
  | mishap (what : Mishap)
  deriving DecidableEq, Repr

/-- The character seen past the end of a text. -/
def endMark : Char := '\x00'

def isBreak (c : Char) : Bool :=
  c == '\n' || c == '\r' || c.toNat == 0x85 || c.toNat == 0x2028 || c.toNat == 0x2029

/-- A line break or the end of the text. -/
def isBreakOrEnd (c : Char) : Bool := isBreak c || c == endMark

/-- A space, a line break or the end of the text. -/
def isSpaceOrEnd (c : Char) : Bool := c == ' ' || isBreakOrEnd c

/-- A space, a tab, a line break or the end of the text. -/
def isBlankOrEnd (c : Char) : Bool := c == '\t' || isSpaceOrEnd c

/-- A character that may stand in a YAML text. -/
def isAllowed (c : Char) : Bool :=
  let n := c.toNat
  n == 0x09 || n == 0x0A || n == 0x0D || (0x20 ≤ n && n ≤ 0x7E) || n == 0x85 || (0xA0 ≤ n && n ≤ 0xD7FF) ||
    (0xE000 ≤ n && n ≤ 0xFFFD) || 0x10000 ≤ n

def byteOrderMark : Char := Char.ofNat 0xFEFF

/-- A place in a text: what is left, and the index, line and column reached. -/
structure Cursor where
  rest : List Char
  index : Nat
  line : Nat
  column : Nat

namespace Cursor

def ofText (cs : List Char) : Cursor := ⟨cs, 0, 0, 0⟩

def peek (c : Cursor) (ahead : Nat) : Char := c.rest.getD ahead endMark

def next (c : Cursor) : Char := c.peek 0

def forward (c : Cursor) : Cursor :=
  match c.rest with
  | [] => c
  | '\r' :: '\n' :: rest => ⟨'\n' :: rest, c.index + 1, c.line, c.column + 1⟩
  | d :: rest =>
    if isBreak d then ⟨rest, c.index + 1, c.line + 1, 0⟩
    else ⟨rest, c.index + 1, c.line, if d = byteOrderMark then c.column else c.column + 1⟩

def advance (c : Cursor) : (count : Nat) → Cursor
  | 0 => c
  | count + 1 => c.forward.advance count

/-- The characters of a class that come next, and the place after them. -/
def takeWhile (c : Cursor) (p : Char → Bool) : List Char × Cursor :=
  let taken := c.rest.takeWhile p
  (taken, c.advance taken.length)

/-- The place after the characters of a class that come next. -/
def skipWhile (c : Cursor) (p : Char → Bool) : Cursor := (c.takeWhile p).2

/-- The place after the spaces that come next, but not beyond a column. -/
def skipSpacesTo (c : Cursor) (column : Nat) : Cursor :=
  c.advance ((c.rest.take (column - c.column)).takeWhile (· == ' ')).length

/--
The line break that comes next and the place after it. The breaks of all systems read as a line feed; the
line and paragraph separators stay as they are.
-/
def lineBreak? (c : Cursor) : Option (Char × Cursor) :=
  match c.rest with
  | '\r' :: '\n' :: _ => some ('\n', c.advance 2)
  | d :: _ =>
    if d == '\n' || d == '\r' || d.toNat == 0x85 then some ('\n', c.forward)
    else if isBreak d then some (d, c.forward)
    else none
  | [] => none

/-- The place after a comment, if one comes next. -/
def skipComment (c : Cursor) : Cursor := if c.next = '#' then c.skipWhile (!isBreakOrEnd ·) else c

/-- Whether a marker of three equal characters stands here, with a blank after it. -/
def isMarker (c : Cursor) (mark : Char) : Bool :=
  c.peek 0 == mark && c.peek 1 == mark && c.peek 2 == mark && isBlankOrEnd (c.peek 3)

/-- Whether a document starts or ends here, given that a line does. -/
def isDocumentMarker (c : Cursor) : Bool := c.isMarker '-' || c.isMarker '.'

/-- The rest of a line on which nothing but a comment may stand. -/
def ignoredLine (c : Cursor) : Except Problem Cursor :=
  let c := (c.skipWhile (· == ' ')).skipComment
  if isBreakOrEnd c.next then
    match c.lineBreak? with
    | some (_, c) => .ok c
    | none => .ok c
  else .error .malformed

end Cursor

end ClusterLease.Yaml
