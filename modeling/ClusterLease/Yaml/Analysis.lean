import ClusterLease.Yaml.Cursor

/-!
What the text of a scalar allows: in which styles it can be written so that it reads back as it is.
-/

namespace ClusterLease.Yaml

/-- What a text allows. -/
structure Analysis where
  isEmpty : Bool
  isMultiline : Bool
  /-- It may be written as it is. -/
  plain : Bool
  /-- It may be written in single quotes. -/
  single : Bool
  /-- It may be written as a block of lines. -/
  block : Bool

namespace Analysis

/-- A character that needs no escape: printable ASCII. -/
def isAscii (c : Char) : Bool := ' ' ≤ c && c ≤ '~'

/-- A character that may not start a plain scalar. -/
def isIndicator (c : Char) : Bool := "#,[]\x7b\x7d&*!|>'\"%@\x60".toList.contains c

/-- Whether a character, first in its text, keeps the text from being plain. -/
def blocksAtStart (c after : Char) : Bool :=
  isIndicator c || ((c == '?' || c == ':' || c == '-') && isBlankOrEnd after)

/-- Whether a later character keeps the text from being plain. -/
def blocksInside (before c after : Char) : Bool :=
  (c == ':' && isBlankOrEnd after) || (c == '#' && isBlankOrEnd before)

/-- Whether a later character keeps the text from being plain, the first one apart. -/
def anyBlocksInside : List Char → Bool
  | before :: c :: rest => blocksInside before c (rest.headD endMark) || anyBlocksInside (c :: rest)
  | _ => false

/-- Whether a character of one class is followed by one of another. -/
def follows (p q : Char → Bool) : List Char → Bool
  | a :: b :: rest => (p a && q b) || follows p q (b :: rest)
  | _ => false

/-- A line break that a text may hold. -/
def isTextBreak (c : Char) : Bool := isBreak c && c != '\r'

def ofText (cs : List Char) : Analysis :=
  match cs with
  | [] => ⟨true, false, true, true, false⟩
  | first :: rest =>
    let isSpace (c : Char) : Bool := c == ' '
    let last := cs.getLastD first
    let marker := (Cursor.ofText (cs.take 3)).isDocumentMarker
    let multiline := cs.any isTextBreak
    let special := !cs.all fun c => c == '\n' || isAscii c
    let spaceBeforeBreak := follows isSpace isTextBreak cs
    let spaceAfterBreak := follows isTextBreak isSpace cs
    let outerBlank := isSpace first || isTextBreak first || isSpace last || isTextBreak last
    let indicated := marker || blocksAtStart first (rest.headD endMark) || anyBlocksInside cs
    let escapes := special || spaceBeforeBreak
    { isEmpty := false
      isMultiline := multiline
      plain := !outerBlank && !spaceAfterBreak && !escapes && !multiline && !indicated
      single := !spaceAfterBreak && !escapes
      block := !isSpace last && !escapes }

end Analysis

end ClusterLease.Yaml
