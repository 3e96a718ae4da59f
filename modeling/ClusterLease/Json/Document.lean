import ClusterLease.Json.Token
import ClusterLease.Value

/-!
JSON documents.

The tokens are fed to a machine that keeps the arrays and objects that are still open on a stack. A key that
comes twice keeps its first place and takes its last value. `read?` accepts exactly one value.
-/

namespace ClusterLease.Json

/-- An array or object that is still open; what it holds so far, an array's items in reverse. -/
inductive Frame where
  | array (items : List Value)
  | object (entries : Entries) (key : String)

/-- What may come next. -/
inductive Expected where
  | value
  | valueOrClose
  | keyOrClose (entries : Entries)
  | key (entries : Entries)
  | colon (entries : Entries) (key : String)
  | separator (done : Value)

/-- The open frames, the innermost first, and what may come next. -/
structure State where
  frames : List Frame
  expected : Expected

namespace State

/-- A finished value: it goes on to what encloses it. -/
def finish (frames : List Frame) (value : Value) : State := ⟨frames, .separator value⟩

/-- A token that is a value by itself. -/
def scalar? : Token → Option Value
  | .null => some .null
  | .bool b => some (.bool b)
  | .int n => some (.int n)
  | .real x => some (.real x)
  | .text s => some (.text s)
  | _ => none

/-- A token where a value may start. -/
def value (frames : List Frame) (token : Token) : Option State :=
  match token with
  | .openArray => some ⟨.array [] :: frames, .valueOrClose⟩
  | .openObject => some ⟨frames, .keyOrClose []⟩
  | token => (scalar? token).map (finish frames)

def feed (state : State) (token : Token) : Option State :=
  match state.expected, token with
  | .value, token => value state.frames token
  | .valueOrClose, .closeArray => some (finish (state.frames.drop 1) (.list []))
  | .valueOrClose, token => value state.frames token
  | .keyOrClose entries, .closeObject => some (finish state.frames (.map entries))
  | .keyOrClose entries, .text key | .key entries, .text key => some ⟨state.frames, .colon entries key⟩
  | .colon entries key, .colon => some ⟨.object entries key :: state.frames, .value⟩
  | .separator done, token =>
    match state.frames, token with
    | .array items :: frames, .comma => some ⟨.array (done :: items) :: frames, .value⟩
    | .array items :: frames, .closeArray => some (finish frames (.list (done :: items).reverse))
    | .object entries key :: frames, .comma => some ⟨frames, .key (entries.put (.text key) done)⟩
    | .object entries key :: frames, .closeObject => some (finish frames (.map (entries.put (.text key) done)))
    | _, _ => none
  | _, _ => none

/-- The value, once it is complete. -/
def result? (state : State) : Option Value :=
  match state.frames, state.expected with
  | [], .separator value => some value
  | _, _ => none

end State

def ofTokens? (tokens : List Token) : Option Value :=
  (tokens.foldlM State.feed ⟨[], .value⟩).bind State.result?

/-- The value that a text writes, if it is a JSON document. -/
def read? (cs : List Char) : Option Value := (Token.lex cs).bind ofTokens?

end ClusterLease.Json
