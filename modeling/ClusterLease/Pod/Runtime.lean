import ClusterLease.Pod.Manifest
import ClusterLease.Pod.NetworkStatus
import ClusterLease.Program
import ClusterLease.Text.LetterCase

/-!
Node containers as pods of a cluster.

A pod starts by itself once it is scheduled, so `start` only waits: it reads the pod again and again, with a
pause in between, until the pod runs, has ended, or the time is over. The last reading is made when the time
is already over. Times are counted on a `Timeline`, which need not be the one of real clocks.
-/

namespace ClusterLease.Pod

open Container (Info Networks Spec)

/-- Times that can be added and compared. -/
class Timeline (τ : Type) extends Add τ, LE τ where
  decideLE : DecidableRel (α := τ) (· ≤ ·)
  /-- The most readings made before a wait for this long, with pauses of this length, is given up. -/
  mostReadings : (wait pause : τ) → Nat
  /-- A time without its fraction, as messages show it. -/
  wholeText : τ → String

instance decidableRelLE {τ : Type} [Timeline τ] : DecidableRel (α := τ) (· ≤ ·) := Timeline.decideLE

/-- The clock of a machine. No wait lasts so long that the number of readings could end it. -/
instance : Timeline Double where
  decideLE := inferInstance
  mostReadings _ _ := Nat.pow 2 64
  wholeText := Double.wholeText

/-- A pod as the cluster reports it. -/
structure Observed where
  name : String
  phase : Option String
  labels : Option Labels
  annotations : Option Labels

/-- What a call of the cluster can end in. A refusal may lack its status and its reason. -/
inductive CallError where
  | refused (status : Option Int) (reason : Option String)
  | other (fault : Fault)

/-- Calls of the cluster, the log, and the clock. -/
inductive Call (τ : Type) where
  | log (entry : Log.Entry)
  | create (space : String) (pod : Manifest)
  | read (space name : String)
  | delete (space name : String)
  | list (space selector : String)
  | now
  | pause (length : τ)

/-- The interface of a cluster. It may answer with nothing at all. -/
abbrev interface (τ : Type) : Interface where
  Call := Call τ
  Reply
    | .log _ => Unit
    | .create .. => Except CallError (Option Observed)
    | .read .. => Except CallError (Option Observed)
    | .delete .. => Except CallError Unit
    | .list .. => Except CallError (Option (List Observed))
    | .now => τ
    | .pause _ => Unit

abbrev PodM (τ : Type) := Program (interface τ)

/-- Where the pods live, and how long a start may take. -/
structure Settings (τ : Type) where
  space : String
  startTimeout : τ
  pollInterval : τ

/-- The usual settings: a start may take two minutes, and the pod is read every second. -/
def Settings.standard : Settings Double := ⟨"dyncluster", .ofInt 120, .ofInt 1⟩

/-- The text for something that may be missing. -/
def orNone : Option String → String
  | some s => s
  | none => "None"

/-- A refusal, for the log and for messages. -/
def refusal (action : String) (status : Option Int) (reason : Option String) : Fault :=
  .runtime (.refused action s!"status={orNone (status.map toString)}, reason={orNone reason}")

def outcome {α : Type} (action : String) (answer : Except CallError α) : Except Fault α :=
  match answer with
  | .ok value => .ok value
  | .error (.refused status reason) => .error (refusal action status reason)
  | .error (.other fault) => .error fault

/-- The outcome of a call about one pod: a refusal with status 404 says that there is no such pod. -/
def outcomeFor {α : Type} (name verb : String) (answer : Except CallError α) : Except Fault α :=
  match answer with
  | .error (.refused (some 404) _) => .error (.containerNotFound name)
  | answer => outcome s!"{verb} pod {name}" answer

/-- What the cluster answered, if it answered anything. -/
def answered {α : Type} (answer : Option α) : Except Fault α := Fault.orMishap .missingMember answer

variable {τ : Type}

def ask (call : Call τ) : PodM τ ((interface τ).Reply call) := Program.question (I := interface τ) call

def read (settings : Settings τ) (name : String) : PodM τ Observed := do
  let answer ← ask (.read settings.space name)
  let pod ← Program.ofExcept (outcomeFor name "read" answer)
  Program.ofExcept (answered pod)

/-- Asks for a pod; its name is the id of the container. -/
def create (settings : Settings τ) (spec : Spec) : PodM τ String := do
  let pod := Manifest.ofSpec spec settings.space
  let answer ← ask (.create settings.space pod)
  let created ← Program.ofExcept (outcome s!"create pod {pod.name}" answer)
  let created ← Program.ofExcept (answered created)
  ask (.log (Log.info .pods s!"Created pod {created.name} from {spec.image}"))
  return created.name

/-- What a phase means for a pod that is waited for. -/
inductive Progress where
  | running
  | ended
  | waiting
  deriving DecidableEq, Repr

def Progress.ofPhase (phase : Option String) : Progress :=
  if phase = some "Running" then .running
  else if phase = some "Failed" ∨ phase = some "Succeeded" then .ended
  else .waiting

/-- The fault of a wait that is over. -/
def notRunning [Timeline τ] (settings : Settings τ) (name : String) (phase : Option String) : Fault :=
  .runtime (.notRunning name (Timeline.wholeText settings.startTimeout) (orNone phase))

/-- Looks at a pod that is waited for, and says whether it runs. If it does not run yet, and there is time
left, a pause follows. -/
def look [Timeline τ] (settings : Settings τ) (name : String) (deadline : τ) : PodM τ Bool := do
  let pod ← read settings name
  match Progress.ofPhase pod.phase with
  | .running => return true
  | .ended => Program.fail (.runtime (.exited name (orNone pod.phase)))
  | .waiting =>
    let now ← ask .now
    if deadline ≤ now then Program.fail (notRunning settings name pod.phase)
    else
      ask (.pause settings.pollInterval)
      return false

/-- Waits for a pod until a deadline, with at most so many readings. -/
def awaitRunning [Timeline τ] (settings : Settings τ) (name : String) (deadline : τ) : (readings : Nat) → PodM τ Unit
  | 0 => Program.fail (notRunning settings name none)
  | readings + 1 => do
    if ← look settings name deadline then return
    else awaitRunning settings name deadline readings

def start [Timeline τ] (settings : Settings τ) (name : String) : PodM τ Unit := do
  let now ← ask .now
  awaitRunning settings name (now + settings.startTimeout)
    (Timeline.mostReadings settings.startTimeout settings.pollInterval)

/-- Logs the warnings of a status and returns its networks. -/
def reportStatus (annotations : Labels) : PodM τ Networks := do
  let reading := networkStatus annotations
  for entry in reading.warnings do
    ask (.log entry)
  Program.ofExcept reading.networks

def inspect (settings : Settings τ) (name : String) : PodM τ Networks := do
  let pod ← read settings name
  reportStatus (pod.annotations.getD [])

def stop (settings : Settings τ) (name : String) : PodM τ Unit := do
  let answer ← ask (.delete settings.space name)
  Program.ofExcept (outcomeFor name "delete" answer)

/-- One pod of a listing: its annotations count as labels, and stand above the real ones. -/
def info (pod : Observed) : PodM τ Info := do
  let annotations := pod.annotations.getD []
  let phase := match pod.phase with
    | none | some "" => "unknown"
    | some phase => phase
  let networks ← reportStatus annotations
  return ⟨pod.name, Text.lower phase, Table.merge (pod.labels.getD []) annotations, networks⟩

def list (settings : Settings τ) : PodM τ (List Info) := do
  let answer ← ask (.list settings.space Container.clusterLabel)
  let pods ← Program.ofExcept (outcome "list pods" answer)
  let pods ← Program.ofExcept (answered pods)
  pods.mapM info

end ClusterLease.Pod
