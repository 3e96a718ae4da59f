import ClusterLease.Text.Hex
import ClusterLease.Value

/-!
Writing values as JSON.

Texts are written as they are, but for quotes, backslashes and control characters, which are escaped. What
JSON has no form for is written as its plain text; `Json.plain` leaves nothing of that kind.
-/

namespace ClusterLease.Json

/-- The notation of numbers: the shortest one, with words for those that are not finite. -/
def numberStyle : Double.Style := ⟨-4, 15, false, "NaN", "Infinity"⟩

def escaped (c : Char) : List Char :=
  if c = '"' || c = '\\' then ['\\', c]
  else if c.toNat < 0x20 then '\\' :: 'u' :: Text.hexPadded 4 c.toNat
  else [c]

def quoted (s : String) : String := String.ofList ('"' :: s.toList.flatMap escaped ++ ['"'])

mutual

def write : Value → String
  | .null => "null"
  | .bool b => if b then "true" else "false"
  | .int n => toString n
  | .real x => x.render numberStyle
  | .list items => "[" ++ ",".intercalate (writeItems items) ++ "]"
  | .map entries => "\x7b" ++ ",".intercalate (writeEntries entries) ++ "\x7d"
  | value => quoted value.display

/-- The items of a list as JSON. -/
def writeItems : List Value → List String
  | [] => []
  | value :: rest => write value :: writeItems rest

/-- The entries of a mapping as JSON. -/
def writeEntries : List (Value × Value) → List String
  | [] => []
  | (key, value) :: rest => (quoted key.display ++ ":" ++ write value) :: writeEntries rest

end

end ClusterLease.Json
