import ClusterLease.Text.Digit

/-!
Tags: the kind of value that a node stands for.

A node that carries no tag gets one by its shape. For a plain scalar the text decides: `implied` knows the
texts of null, the truth values, whole numbers in several bases, decimals, times, and the two special keys.
-/

namespace ClusterLease.Yaml

/-- The kinds of values that can be made, and all others. -/
inductive Tag where
  | null
  | bool
  | int
  | float
  | binary
  | timestamp
  | omap
  | pairs
  | set
  | str
  | seq
  | map
  | merge
  | value
  | unknown
  deriving DecidableEq, Repr

namespace Tag

/-- The common start of the tags of YAML itself. -/
def yamlStart : String := "tag:yaml.org,2002:"

/-- The names of the tags of YAML itself. -/
def names : List (String × Tag) :=
  [("null", null), ("bool", bool), ("int", int), ("float", float), ("binary", binary),
    ("timestamp", timestamp), ("omap", omap), ("pairs", pairs), ("set", set), ("str", str), ("seq", seq),
    ("map", map), ("merge", merge), ("value", value)]

/-- The tag that is written in full. -/
def ofUri (uri : String) : Tag :=
  match names.find? fun (name, _) => yamlStart ++ name == uri with
  | some (_, tag) => tag
  | none => unknown

def shortName (tag : Tag) : String :=
  match names.find? fun (_, t) => t == tag with
  | some (name, _) => "!!" ++ name
  | none => ""

/-! ### The texts of scalars -/

/-- Two texts around the first occurrence of a character; none if it does not occur. -/
def splitAt? (c : Char) (cs : List Char) : Option (List Char × List Char) :=
  if cs.contains c then some (cs.takeWhile (· != c), (cs.dropWhile (· != c)).drop 1) else none

def isDigitOrLine (c : Char) : Bool := Text.isAsciiDigit c || c == '_'

/-- The text without a sign at its start. -/
def unsigned : List Char → List Char
  | '-' :: rest => rest
  | '+' :: rest => rest
  | cs => cs

/-- Whether a text is not empty and consists of a class of characters. -/
def isRun (p : Char → Bool) (cs : List Char) : Bool := !cs.isEmpty && cs.all p

/-- Whether a text starts with a digit and goes on with digits and underscores. -/
def isDigitRun : List Char → Bool
  | [] => false
  | c :: rest => Text.isAsciiDigit c && rest.all isDigitOrLine

/-- Whether parts are numbers below sixty, of one or two digits. -/
def areSixtieths (parts : List (List Char)) : Bool :=
  !parts.isEmpty && parts.all fun part =>
    match part with
    | [a] => Text.isAsciiDigit a
    | [a, b] => '0' ≤ a && a ≤ '5' && Text.isAsciiDigit b
    | _ => false

/-- A whole number: in base two, eight, ten, sixteen, or sixty with colons between its digits. -/
def isInt (cs : List Char) : Bool :=
  match unsigned cs with
  | '0' :: 'b' :: digits => isRun (fun c => c == '0' || c == '1' || c == '_') digits
  | '0' :: 'x' :: digits =>
    isRun (fun c => Text.isAsciiDigit c || ('a' ≤ c && c ≤ 'f') || ('A' ≤ c && c ≤ 'F') || c == '_') digits
  | ['0'] => true
  | '0' :: digits => isRun (fun c => ('0' ≤ c && c ≤ '7') || c == '_') digits
  | digits =>
    match digits.splitOn ':' with
    | [whole] => isDigitRun whole
    | whole :: parts => isDigitRun whole && areSixtieths parts
    | [] => false

/-- Nothing, or an exponent with a sign. -/
def isExponent : List Char → Bool
  | [] => true
  | e :: sign :: digits => (e == 'e' || e == 'E') && (sign == '-' || sign == '+') && isRun Text.isAsciiDigit digits
  | _ => false

/-- The part of a decimal after its point, which may be empty unless it has to start with a digit. -/
def isDecimalTail (needsDigit : Bool) (cs : List Char) : Bool :=
  let fraction := cs.takeWhile isDigitOrLine
  (!needsDigit || isDigitRun fraction) && isExponent (cs.dropWhile isDigitOrLine)

/-- A decimal, a number in base sixty with a point at its end, an infinity or no number. -/
def isFloat (cs : List Char) : Bool :=
  let word := String.ofList
  match cs with
  | '.' :: tail =>
    isDecimalTail true tail || ["inf", "Inf", "INF", "nan", "NaN", "NAN"].contains (word tail)
  | _ =>
    match splitAt? '.' (unsigned cs) with
    | none => false
    | some ([], tail) => ["inf", "Inf", "INF"].contains (word tail)
    | some (whole, tail) =>
      match whole.splitOn ':' with
      | [whole] => isDigitRun whole && isDecimalTail false tail
      | first :: parts => isDigitRun first && areSixtieths parts && tail.all isDigitOrLine
      | [] => false

def isBool (s : String) : Bool :=
  ["yes", "Yes", "YES", "no", "No", "NO", "true", "True", "TRUE", "false", "False", "FALSE", "on", "On", "ON",
    "off", "Off", "OFF"].contains s

def isNull (s : String) : Bool := ["", "~", "null", "Null", "NULL"].contains s

end Tag

/-- The parts of the text of a time. Without an hour it is a day. -/
structure Stamp where
  year : List Char
  month : List Char
  day : List Char
  clock : Option (List Char × List Char × List Char)
  fraction : List Char
  /-- Whether the zone is behind universal time, and its hours and minutes. -/
  zone : Option (Option (Bool × List Char × List Char))

namespace Stamp

/-- So many digits, from the least to the greatest number of them, and what follows. -/
def digits? (least most : Nat) (cs : List Char) : Option (List Char × List Char) :=
  let found := (cs.take most).takeWhile Text.isAsciiDigit
  if found.length < least then none else some (found, cs.drop found.length)

/-- What follows a character that must come next. -/
def after? (c : Char) : List Char → Option (List Char)
  | d :: rest => if d = c then some rest else none
  | [] => none

def isBlank (c : Char) : Bool := c == ' ' || c == '\t'

/-- A zone at the end of a text: a letter for universal time, or a sign, hours and perhaps minutes. -/
def zone? (cs : List Char) : Option (Option (Bool × List Char × List Char)) :=
  match cs with
  | ['Z'] => some none
  | sign :: rest =>
    if sign == '-' || sign == '+' then do
      let (hours, rest) ← digits? 1 2 rest
      match rest with
      | [] => some (some (sign == '-', hours, []))
      | rest =>
        let (minutes, rest) ← digits? 2 2 (← after? ':' rest)
        if rest.isEmpty then some (some (sign == '-', hours, minutes)) else none
    else none
  | [] => none

/-- What stands between the day and the hour: a letter, or blanks. -/
def gap? (cs : List Char) : Option (List Char) :=
  match cs with
  | 'T' :: rest => some rest
  | 't' :: rest => some rest
  | c :: rest => if isBlank c then some (rest.dropWhile isBlank) else none
  | [] => none

/-- The text of a day, its month and day having at least so many digits. -/
def day? (least : Nat) (cs : List Char) : Option Stamp := do
  let (year, rest) ← digits? 4 4 cs
  let (month, rest) ← digits? least 2 (← after? '-' rest)
  let (day, rest) ← digits? least 2 (← after? '-' rest)
  if rest.isEmpty then some ⟨year, month, day, none, [], none⟩ else none

/-- The text of a day and a time. -/
def time? (cs : List Char) : Option Stamp := do
  let (year, rest) ← digits? 4 4 cs
  let (month, rest) ← digits? 1 2 (← after? '-' rest)
  let (day, rest) ← digits? 1 2 (← after? '-' rest)
  let (hour, rest) ← digits? 1 2 (← gap? rest)
  let (minute, rest) ← digits? 2 2 (← after? ':' rest)
  let (second, rest) ← digits? 2 2 (← after? ':' rest)
  let (fraction, rest) := match rest with
    | '.' :: tail => (tail.takeWhile Text.isAsciiDigit, tail.dropWhile Text.isAsciiDigit)
    | _ => ([], rest)
  let stamp zone : Stamp := ⟨year, month, day, some (hour, minute, second), fraction, zone⟩
  match rest.dropWhile isBlank with
  | [] => if rest.isEmpty then some (stamp none) else none
  | zone => (zone? zone).map fun zone => stamp (some zone)

/-- The parts of a text, if it is the text of a time. A day alone counts as one only at full width. -/
def ofText? (cs : List Char) : Option Stamp := (day? 2 cs).or (time? cs)

/-- The parts of a text that is tagged as a time. -/
def ofTagged? (cs : List Char) : Option Stamp := (day? 1 cs).or (time? cs)

end Stamp

/-- The tag that the text of a plain scalar implies. -/
def Tag.implied (s : String) : Tag :=
  let cs := s.toList
  if isNull s then null
  else if isBool s then bool
  else if isFloat cs then float
  else if isInt cs then int
  else if s = "<<" then merge
  else if (Stamp.ofText? cs).isSome then timestamp
  else if s = "=" then value
  else if ["!", "&", "*"].contains s then unknown
  else str

end ClusterLease.Yaml
