import ClusterLease.Number.Numeral
import ClusterLease.Number.Shortest
import ClusterLease.Text.Quoted
import ClusterLease.Time.Moment

/-!
Values of documents: what configuration files, metadata files, request bodies and engine answers hold.

`Value.shown` is the unambiguous text, with quotes and escapes; `Value.display` is the plain one, which for
a text is the text itself. Whole numbers with too many digits are not written out, and values that hold
one have no `Value.display?`. Two scalars are the same key when they are equal as numbers, texts or times;
`Entries` are mappings in order of first insertion.
-/

namespace ClusterLease

/-- A value of a document. Mappings keep the order in which their keys came in. -/
inductive Value where
  | null
  | bool (b : Bool)
  | int (n : Int)
  | real (x : Double)
  | text (s : String)
  | bytes (bytes : List UInt8)
  | date (day : Date)
  | moment (m : Moment)
  | list (items : List Value)
  | pair (first second : Value)
  | map (entries : List (Value × Value))
  | set (members : List Value)
  deriving Inhabited

namespace Value

/-- Whether a value counts as yes: everything does but null, false, zero and what is empty. -/
def isTruthy : Value → Bool
  | null => false
  | bool b => b
  | int n => n != 0
  | real x => !x.isZero
  | text s => s != ""
  | bytes b => !b.isEmpty
  | list items => !items.isEmpty
  | map entries => !entries.isEmpty
  | set members => !members.isEmpty
  | date _ | moment _ | pair .. => true

/-- The text of a value, if it is one. -/
def text? : Value → Option String
  | text s => some s
  | _ => none

/-! ### Text -/

/-- A day as a constructor of its three numbers. -/
def shownDate (d : Date) : String := s!"datetime.date({d.year}, {d.month}, {d.day})"

/-- A duration as a constructor of those of its parts that are not zero. -/
def shownDuration (d : Duration) : String :=
  let part (name : String) (n : Int) : List String := if n = 0 then [] else [name ++ "=" ++ toString n]
  let parts := part "days" d.days ++ part "seconds" d.seconds ++ part "microseconds" d.subseconds
  "datetime.timedelta(" ++ (if parts.isEmpty then "0" else ", ".intercalate parts) ++ ")"

/-- An offset as a constructor; universal time has a name. -/
def shownOffset (offset : Offset) : String :=
  if offset.micros = 0 then "datetime.timezone.utc"
  else
    let inner := match Duration.ofMicros? offset.micros with
      | some d => shownDuration d
      | none => ""
    "datetime.timezone(" ++ inner ++ ")"

/-- A moment as a constructor of its numbers; seconds and microseconds only where they are needed. -/
def shownMoment (m : Moment) : String :=
  let t := m.time
  let clock := if t.subsecond ≠ 0 then [t.hour, t.minute, t.second, t.subsecond]
    else if t.second ≠ 0 then [t.hour, t.minute, t.second]
    else [t.hour, t.minute]
  let numbers := ([m.date.year, m.date.month, m.date.day] ++ clock).map toString
  let zone := match m.offset with
    | some offset => ["tzinfo=" ++ shownOffset offset]
    | none => []
  "datetime.datetime(" ++ ", ".intercalate (numbers ++ zone) ++ ")"

mutual

def shown : Value → String
  | null => "None"
  | bool b => if b then "True" else "False"
  | int n => toString n
  | real x => x.text
  | text s => Text.quoted s
  | bytes b => Text.quotedBytes b
  | date d => shownDate d
  | moment m => shownMoment m
  | list items => "[" ++ ", ".intercalate (shownItems items) ++ "]"
  | pair a b => "(" ++ shown a ++ ", " ++ shown b ++ ")"
  | map entries => "\x7b" ++ ", ".intercalate (shownEntries entries) ++ "\x7d"
  | set members =>
    if members.isEmpty then "set()" else "\x7b" ++ ", ".intercalate (shownItems members) ++ "\x7d"

/-- The texts of the values of a list. -/
def shownItems : List Value → List String
  | [] => []
  | v :: rest => shown v :: shownItems rest

def shownEntries : List (Value × Value) → List String
  | [] => []
  | (k, v) :: rest => (shown k ++ ": " ++ shown v) :: shownEntries rest

end

/-- The plain text of a value: texts, days and moments without quotes or constructors. -/
def display : Value → String
  | text s => s
  | date d => d.text
  | moment m => m.textWith " "
  | v => shown v

mutual

/-- Whether no whole number in a value has too many digits to be written out. -/
def isShowable : Value → Bool
  | int n => n.natAbs < Nat.pow 10 Numeral.maxDigits
  | list items => areShowable items
  | pair a b => isShowable a && isShowable b
  | map entries => entriesAreShowable entries
  | set members => areShowable members
  | _ => true

def areShowable : List Value → Bool
  | [] => true
  | v :: rest => isShowable v && areShowable rest

def entriesAreShowable : List (Value × Value) → Bool
  | [] => true
  | (k, v) :: rest => isShowable k && isShowable v && entriesAreShowable rest

end

/-- The plain text of a value, if it can be written out. -/
def display? (v : Value) : Option String := if v.isShowable then some v.display else none

/-! ### Keys -/

/-- The whole number that a value equals, if there is one. -/
def wholeNumber? : Value → Option Int
  | bool b => some (if b then 1 else 0)
  | int n => some n
  | real x => x.toInt?
  | _ => none

def sameKey : Value → Value → Bool
  | null, null => true
  | text a, text b => a == b
  | bytes a, bytes b => a == b
  | date a, date b => a == b
  | moment a, moment b => a.same b
  | a, b =>
    match a.wholeNumber?, b.wholeNumber? with
    | some m, some n => m == n
    | none, none =>
      match a, b with
      | real x, real y => x == y
      | _, _ => false
    | _, _ => false

/-- Whether a value may be a key: scalars may. -/
def isKey : Value → Bool
  | list _ | map _ | set _ | pair .. => false
  | _ => true

end Value

/-- A mapping in order of first insertion. -/
abbrev Entries := List (Value × Value)

def Value.object (fields : List (String × Value)) : Value := .map (fields.map fun (key, value) => (.text key, value))

namespace Entries

def get? (entries : Entries) (key : Value) : Option Value :=
  (entries.find? fun entry => entry.1.sameKey key).map (·.2)

/-- The value under a key that is a text. -/
def getText? (entries : Entries) (key : String) : Option Value := get? entries (.text key)

/-- Adds a key at the end, or replaces the value of one that is there. -/
def put : Entries → Value → Value → Entries
  | [], key, value => [(key, value)]
  | (k, v) :: rest, key, value =>
    if k.sameKey key then (k, value) :: rest else (k, v) :: put rest key value

/-- A mapping from pairs of which later ones replace earlier ones. -/
def ofPairs (pairs : List (Value × Value)) : Entries :=
  pairs.foldl (fun entries (key, value) => put entries key value) []

end Entries

end ClusterLease
