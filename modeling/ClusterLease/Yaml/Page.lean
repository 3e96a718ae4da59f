import ClusterLease.Text.Hex
import ClusterLease.Yaml.Analysis

/-!
Writing YAML text piece by piece.

A `Page` knows the column and whether a blank, or nothing but marks of indentation, stands before it, so
that marks and scalars get the blanks and line breaks they need. A scalar that may be split goes on in the
next line at the first single space after column 80.
-/

namespace ClusterLease.Yaml

/-- Text written so far, in reverse, and the state of its last line. -/
structure Page where
  written : List Char
  column : Nat
  afterBlank : Bool
  onlyMarks : Bool

namespace Page

def empty : Page := ⟨[], 0, true, true⟩

def text (p : Page) : String := String.ofList p.written.reverse

/-- Lines are split after this many characters. -/
def bestWidth : Nat := 80

/-- A piece of text in the present line. -/
def put (p : Page) (cs : List Char) : Page :=
  { p with written := cs.reverse ++ p.written, column := p.column + cs.length }

def lineBreak (p : Page) : Page := ⟨'\n' :: p.written, 0, true, true⟩

/-- The start of a line with an indentation: the present one, if nothing but marks stands in it. -/
def indentTo (p : Page) (indent : Nat) : Page :=
  let p := if !p.onlyMarks || indent < p.column || (p.column == indent && !p.afterBlank) then p.lineBreak else p
  if p.column < indent then { p.put (List.replicate (indent - p.column) ' ') with afterBlank := true } else p

/-- A mark, with a blank before it if one is needed. -/
def mark (p : Page) (mark : String) (needsBlank indents : Bool) : Page :=
  let cs := if p.afterBlank || !needsBlank then mark.toList else ' ' :: mark.toList
  { p.put cs with afterBlank := false, onlyMarks := p.onlyMarks && indents }

def inText (p : Page) : Page := { p with afterBlank := false, onlyMarks := false }

/-- Runs of spaces, runs of line breaks, and what stands between them. -/
def runs (cs : List Char) : List (List Char) :=
  let kind (c : Char) : Nat := if c == ' ' then 0 else if Analysis.isTextBreak c then 1 else 2
  cs.splitBy fun a b => kind a == kind b

def plainRun (split : Bool) (indent : Nat) (p : Page) (run : List Char) : Page :=
  if run == [' '] && split && bestWidth < p.column then (p.indentTo indent).inText else p.put run

def plain (p : Page) (cs : List Char) (split : Bool) (indent : Nat) : Page :=
  if cs.isEmpty then p
  else
    let p := if p.afterBlank then p else p.put [' ']
    (runs cs).foldl (plainRun split indent) p.inText

/-- Line breaks inside a scalar: a line feed is written twice, for a single one would read as a space. -/
def breaks (p : Page) (run : List Char) (indent : Nat) : Page :=
  let p := if run.head? == some '\n' then p.lineBreak else p
  (run.foldl (fun p _ => p.lineBreak) p).indentTo indent

/-- A run of a scalar in single quotes. Spaces at either end are not split. -/
def singleRun (split : Bool) (indent count : Nat) (p : Page) : List Char × Nat → Page
  | (run, index) =>
    match run with
    | [' '] =>
      if split && bestWidth < p.column && index != 0 && index + 1 != count then p.indentTo indent else p.put run
    | c :: _ =>
      if Analysis.isTextBreak c then p.breaks run indent
      else p.put (run.flatMap fun c => if c == '\'' then ['\'', '\''] else [c])
    | [] => p

def single (p : Page) (cs : List Char) (split : Bool) (indent : Nat) : Page :=
  let parts := runs cs
  let p := p.mark "'" true false
  ((parts.zip (List.range parts.length)).foldl (singleRun split indent parts.length) p).mark "'" false false

/-- The letter that stands for a character after a backslash. -/
def escapeLetter? (c : Char) : Option Char :=
  match c.toNat with
  | 0x00 => some '0'
  | 0x07 => some 'a'
  | 0x08 => some 'b'
  | 0x09 => some 't'
  | 0x0A => some 'n'
  | 0x0B => some 'v'
  | 0x0C => some 'f'
  | 0x0D => some 'r'
  | 0x1B => some 'e'
  | 0x22 => some '"'
  | 0x5C => some '\\'
  | 0x85 => some 'N'
  | 0xA0 => some '_'
  | 0x2028 => some 'L'
  | 0x2029 => some 'P'
  | _ => none

/-- A character in double quotes that cannot stand for itself. -/
def escape (c : Char) : List Char :=
  let upper (width : Nat) : List Char := (Text.hexPadded width c.toNat).map Char.toUpper
  match escapeLetter? c with
  | some letter => ['\\', letter]
  | none =>
    if c.toNat < 0x100 then '\\' :: 'x' :: upper 2
    else if c.toNat < 0x10000 then '\\' :: 'u' :: upper 4
    else '\\' :: 'U' :: upper 8

/-- Whether a character stands for itself in double quotes. -/
def isDoublePlain (c : Char) : Bool := Analysis.isAscii c && c != '"' && c != '\\'

/--
A scalar in double quotes after its first `index` characters. `pending` holds characters that are not yet
written, in reverse. A line is split before a space or after an escape; the split is escaped, and so is a
space at the start of the next line.
-/
def doubleFrom (split : Bool) (indent : Nat) (p : Page) : (index : Nat) → (pending : List Char) → List Char → Page
  | _, pending, [] => p.put pending.reverse
  | index, pending, c :: rest =>
    let plain := isDoublePlain c
    let p := if plain then p else (p.put pending.reverse).put (escape c)
    let pending := if plain then pending else []
    -- What is pending counts for the width, unless an escape was written at once.
    let width := if plain then p.column + pending.length else p.column - 1
    if split && index != 0 && 2 ≤ rest.length + 1 && (c == ' ' || pending.isEmpty) && bestWidth < width then
      let p := ((p.put (pending.reverse ++ ['\\'])).indentTo indent).inText
      -- A space at the start of the next line would be dropped in reading, so it is escaped.
      let following := if plain then c else rest.headD endMark
      let p := if following == ' ' then p.put ['\\'] else p
      doubleFrom split indent p (index + 1) (if plain then [c] else []) rest
    else doubleFrom split indent p (index + 1) (if plain then c :: pending else []) rest

def double (p : Page) (cs : List Char) (split : Bool) (indent : Nat) : Page :=
  (doubleFrom split indent (p.mark "\"" true false) 0 [] cs).mark "\"" false false

/-- A line of a block of lines; an empty one is not indented. -/
def blockLine (indent : Nat) (p : Page) (line : List Char) : Page :=
  if line.isEmpty then p.lineBreak
  else
    let p := p.indentTo indent
    { p with written := line.reverse ++ p.written }.lineBreak

/-- A block of lines, each of which ends with a line feed. -/
def block (p : Page) (cs : List Char) (indent : Nat) : Page :=
  (cs.splitOn '\n').dropLast.foldl (blockLine indent) (p.mark "|" true false).lineBreak

end Page

end ClusterLease.Yaml
