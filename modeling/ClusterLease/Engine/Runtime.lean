import ClusterLease.Engine.Addresses
import ClusterLease.Log
import ClusterLease.Program

/-!
Node containers on a local container engine.

Each operation makes one or two calls of the engine and turns what can go wrong into faults of the daemon:
a container that the engine does not know, another failure of the engine, and anything else, which is
passed on. What the engine answers is not checked before it is used.
-/

namespace ClusterLease.Engine

open Container (Networks Spec)

/-- What a call of the engine can end in. -/
inductive EngineError where
  | notFound (message : String)
  | failed (message : String)
  | other (fault : Fault)

abbrev Answer := Except EngineError Value

/-- Calls of the engine, and the log. -/
inductive Call where
  | log (entry : Log.Entry)
  | hostConfig (binds : Labels) (autoRemove : Bool) (networkMode : String) (dns : Option (List String))
  | create (image name : String) (labels : Labels) (volumes : List String) (hostConfig : Value)
  | start (id : String)
  | inspect (id : String)
  | stop (id : String)
  | list (all : Bool) (label : String)

abbrev interface : Interface where
  Call := Call
  Reply
    | .log _ => Unit
    | .hostConfig .. => Value
    | _ => Answer

abbrev EngineM := Program interface

/-- This many characters of an id are shown and listed. -/
def shortIdLength : Nat := 12

/-- The start of a text or list; other values have none. -/
def shortened : Value → Except Fault Value
  | .text s => .ok (.text (String.ofList (s.toList.take shortIdLength)))
  | .list items => .ok (.list (items.take shortIdLength))
  | _ => .error (.mishap .wrongType)

/-- The outcome of an answer, an unknown container being a failure like others. -/
def outcome (action : String) (answer : Answer) : Except Fault Value :=
  match answer with
  | .ok value => .ok value
  | .error (.notFound message) | .error (.failed message) => .error (.runtime (.refused action message))
  | .error (.other fault) => .error fault

/-- The outcome of an answer about one container. -/
def outcomeFor (id verb : String) (answer : Answer) : Except Fault Value :=
  match answer with
  | .error (.notFound _) => .error (.containerNotFound id)
  | answer => outcome s!"{verb} container {id}" answer

/-- Creates a container without starting it; the id is what the engine calls it. -/
def create (spec : Spec) : EngineM Value := do
  let dns := if spec.dnsServers.isEmpty then none else some spec.dnsServers
  let hostConfig ← Program.question (I := interface) (.hostConfig spec.binds spec.autoRemove spec.network dns)
  let answer ← Program.question (I := interface)
    (.create spec.image spec.name spec.labels (spec.binds.map (·.2)) hostConfig)
  let created ← Program.ofExcept (outcome s!"create container {spec.name}" answer)
  let id ← Program.ofExcept (Value.require created "Id")
  let short ← Program.ofExcept (shortened id)
  Program.question (I := interface)
    (.log (Log.info .engine s!"Created container {spec.name} ({short.display}) from {spec.image}"))
  return id

def start (id : String) : EngineM Unit := do
  let answer ← Program.question (I := interface) (.start id)
  let _ ← Program.ofExcept (outcomeFor id "start" answer)

def inspect (id : String) : EngineM Networks := do
  let answer ← Program.question (I := interface) (.inspect id)
  let details ← Program.ofExcept (outcomeFor id "inspect" answer)
  Program.ofExcept (inspectedNetworks details)

/-- Stops a container; the engine removes it by itself. -/
def stop (id : String) : EngineM Unit := do
  let answer ← Program.question (I := interface) (.stop id)
  let _ ← Program.ofExcept (outcomeFor id "stop" answer)

/-- An entry of a listing, as far as the engine's answer allows. -/
structure Listed where
  id : Value
  state : Value
  labels : Value
  networks : Networks

/-- An entry from what the engine lists. -/
def Listed.ofValue (entry : Value) : Except Fault Listed := do
  let id ← shortened (← Value.require entry "Id")
  let state := (← entry.lookup "State").getD (.text "")
  let labels := ((← entry.lookup "Labels").getD .null).orElse (.map [])
  .ok ⟨id, state, labels, ← listedNetworks entry⟩

/-- All node containers, stopped ones included. -/
def list : EngineM (List Listed) := do
  let answer ← Program.question (I := interface) (.list true Container.clusterLabel)
  let containers ← Program.ofExcept (outcome "list containers" answer)
  Program.ofExcept do (← containers.members).mapM Listed.ofValue

end ClusterLease.Engine
