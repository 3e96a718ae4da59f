import ClusterLease.Number.Numeral
import ClusterLease.Text.Encoding
import ClusterLease.Text.Hex

/-!
The tokens of a JSON text.

The text is read one character at a time by a machine with a few states, so reading it is one pass over
the list. Numbers and the bare words are collected up to the next delimiter and judged as a whole.
-/

namespace ClusterLease.Json

/-- A token. -/
inductive Token where
  | openArray
  | closeArray
  | openObject
  | closeObject
  | comma
  | colon
  | null
  | bool (b : Bool)
  | int (n : Int)
  | real (x : Double)
  | text (s : String)

namespace Token

def isSpace (c : Char) : Bool := c == ' ' || c == '\t' || c == '\n' || c == '\r'

def punctuation? : Char → Option Token
  | '[' => some openArray
  | ']' => some closeArray
  | '{' => some openObject
  | '}' => some closeObject
  | ',' => some comma
  | ':' => some colon
  | _ => none

/-- Whether digits may write a whole number here: no zero stands before others. -/
def isWhole : List Char → Bool
  | ['0'] => true
  | '0' :: _ => false
  | digits => !digits.isEmpty && digits.all Text.isAsciiDigit

/-- Whether a text is empty or a point and digits. -/
def isFraction : List Char → Bool
  | [] => true
  | '.' :: digits => !digits.isEmpty && digits.all Text.isAsciiDigit
  | _ => false

/-- Whether a text is empty or an exponent. -/
def isExponent (cs : List Char) : Bool := (Numeral.exponent? cs).isSome

/-- A number: a whole one if it has neither fraction nor exponent. -/
def number? (cs : List Char) : Option Token :=
  let (negative, digits) := match cs with
    | '-' :: rest => (true, rest)
    | _ => (false, cs)
  let whole := digits.takeWhile Text.isAsciiDigit
  let rest := digits.dropWhile Text.isAsciiDigit
  let isMark (c : Char) : Bool := c == 'e' || c == 'E'
  if !isWhole whole || !isFraction (rest.takeWhile (!isMark ·)) || !isExponent (rest.dropWhile (!isMark ·)) then none
  else if rest.isEmpty then (Numeral.int? (String.ofList cs)).map int
  else (Numeral.decimal? negative digits).map real

def word? (cs : List Char) : Option Token :=
  match String.ofList cs with
  | "null" => some null
  | "true" => some (bool true)
  | "false" => some (bool false)
  | "NaN" => some (real .nan)
  | "Infinity" => some (real (.infinite false))
  | "-Infinity" => some (real (.infinite true))
  | _ => number? cs

/-- The character that a letter after a backslash stands for. -/
def escaped? : Char → Option Char
  | '"' => some '"'
  | '\\' => some '\\'
  | '/' => some '/'
  | 'b' => some '\x08'
  | 'f' => some '\x0c'
  | 'n' => some '\n'
  | 'r' => some '\r'
  | 't' => some '\t'
  | _ => none

/-- Where the reader stands. What is collected is kept in reverse. -/
inductive State where
  | between
  | word (collected : List Char)
  | text (units : List Nat)
  | escape (units : List Nat)
  | code (units : List Nat) (left value : Nat)

/-- The token that a finished word is, put before further tokens. -/
def closeWord (collected : List Char) (tokens : List Token) : Option (List Token) :=
  (word? collected.reverse).map (· :: tokens)

/-- What one character does: the tokens that it finishes, and the next state. -/
def step : State → Char → Option (List Token × State)
  | .between, c => start [] c
  | .word collected, c =>
    if isSpace c || (punctuation? c).isSome || c == '"' then (closeWord collected []).bind fun tokens => start tokens c
    else some ([], .word (c :: collected))
  | .text units, c =>
    if c == '"' then some ([text (String.ofList (Text.joinSurrogates units.reverse))], .between)
    else if c == '\\' then some ([], .escape units)
    else if c.toNat < 0x20 then none
    else some ([], .text (c.toNat :: units))
  | .escape units, c =>
    if c == 'u' then some ([], .code units 4 0)
    else (escaped? c).map fun plain => ([], .text (plain.toNat :: units))
  | .code units left value, c =>
    (Text.hexValue? c).map fun digit =>
      let value := value * 16 + digit
      ([], if left ≤ 1 then .text (value :: units) else .code units (left - 1) value)
where
  /-- A character between tokens, after the tokens just finished. -/
  start (finished : List Token) (c : Char) : Option (List Token × State) :=
    if isSpace c then some (finished, .between)
    else if c == '"' then some (finished, .text [])
    else match punctuation? c with
      | some token => some (finished ++ [token], .between)
      | none => some (finished, .word [c])

/-- The tokens of a text from a state on; none if it is no sequence of tokens. -/
def lexFrom : State → List Char → Option (List Token)
  | .between, [] => some []
  | .word collected, [] => closeWord collected []
  | _, [] => none
  | state, c :: rest =>
    match step state c with
    | some (tokens, state) => (lexFrom state rest).map (tokens ++ ·)
    | none => none

def lex (cs : List Char) : Option (List Token) := lexFrom .between cs

end Token

end ClusterLease.Json
