import ClusterLease.Fault
import ClusterLease.Value

/-!
Reaching into values of which nothing is known.

Whoever writes documents and answers may have put a value of any kind anywhere. Each function here is a way
to look into a value, together with the mishap of a value that cannot be looked into like this.
-/

namespace ClusterLease.Value

/-- The value under a key that must be there. -/
def require (v : Value) (key : String) : Except Fault Value :=
  match v with
  | .map entries => Fault.orMishap .missingKey (Entries.getText? entries key)
  | _ => .error (.mishap .wrongType)

/-- The value under a key, if there is one. Only mappings can be asked. -/
def lookup (v : Value) (key : String) : Except Fault (Option Value) :=
  match v with
  | .map entries => .ok (Entries.getText? entries key)
  | _ => .error (.mishap .missingMember)

/-- What going through a value yields: the items of a list, the keys of a mapping, the characters of a text. -/
def members (v : Value) : Except Fault (List Value) :=
  match v with
  | .list items => .ok items
  | .map entries => .ok (entries.map (·.1))
  | .text s => .ok (s.toList.map fun c => .text (String.singleton c))
  | _ => .error (.mishap .wrongType)

/-- A value, or another in place of one that counts as no. -/
def orElse (v other : Value) : Value := if v.isTruthy then v else other

end ClusterLease.Value
