import ClusterLease.Fault
import ClusterLease.Json.Writer
import ClusterLease.Time.Http
import ClusterLease.Value.Order

/-!
Values as a JSON answer can hold them.

Keys become texts and are put in order; days and moments become texts, and pairs become lists. Bytes, sets,
keys that are times, and keys of different kinds side by side cannot be written.
-/

namespace ClusterLease.Json

def keyText : Value → Except Fault String
  | .null => .ok "null"
  | .bool b => .ok (if b then "true" else "false")
  | .int n => .ok (toString n)
  | .real x => .ok (x.render numberStyle)
  | .text s => .ok s
  | _ => .error (.mishap .wrongType)

/-- Entries in the order of their keys, with texts as keys. -/
def plainEntries (entries : Entries) : Except Fault Value :=
  if Value.areOrdered (entries.map (·.1)) then do
    let plain ← (Entries.sorted entries).mapM fun ((key, value) : Value × Value) => do
      .ok (Value.text (← keyText key), value)
    .ok (.map plain)
  else .error (.mishap .wrongType)

mutual

/-- A value as an answer can hold it. -/
def plain : Value → Except Fault Value
  | .list items => (plainItems items).map .list
  | .pair a b => do .ok (.list [← plain a, ← plain b])
  | .map entries => do plainEntries (← plainValues entries)
  | .date day => .ok (.text day.httpText)
  | .moment m => (Fault.orMishap .overflow m.httpText?).map .text
  | .bytes _ | .set _ => .error (.mishap .wrongType)
  | value => .ok value

/-- The items of a list as an answer can hold them. -/
def plainItems : List Value → Except Fault (List Value)
  | [] => .ok []
  | value :: rest => do .ok ((← plain value) :: (← plainItems rest))

/-- The entries of a mapping, their values as an answer can hold them. -/
def plainValues : List (Value × Value) → Except Fault Entries
  | [] => .ok []
  | (key, value) :: rest => do .ok ((key, ← plain value) :: (← plainValues rest))

end

end ClusterLease.Json
