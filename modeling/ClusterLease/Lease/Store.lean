import ClusterLease.Disk
import ClusterLease.Lease
import ClusterLease.Text.Encoding
import ClusterLease.Yaml.Document
import ClusterLease.Yaml.Writer

/-!
Where leases are kept: in memory, or in a file that survives restarts.

The file holds one mapping from clusters to entries. It is read anew for every operation, and every change
replaces all of it. An entry that holds no lease is passed over with a warning, and so is lost with the next
change. An operation that fails leaves the file as it was: `onDisk` is the program that reads and replaces
the file, over any file system, and `onFile` runs it where the file system itself does not fail.

Whoever edits a lease is handed it and may write in it. A file hands out what was read from it a moment ago; a
memory hands out the lease that it holds, and so shows what was written in it, also by an editor that failed.
-/

namespace ClusterLease

/-- How the bytes of a file stand for a document, and a mapping for bytes. -/
structure Format where
  read : List UInt8 → Except Yaml.Problem Value
  write : Entries → List UInt8

def Format.yaml : Format where
  read bytes :=
    match Text.Utf8.decode bytes with
    | some cs => Yaml.read (Text.unifyLineEnds cs)
    | none => .error (.mishap .undecodable)
  write entries := (Yaml.write entries).toUTF8.toList

/-- Entries as they are written, in one piece. -/
def Format.draft (format : Format) (entries : Entries) : Disk.Draft := .whole (format.write entries)

/-- A keeper of leases. A file may be missing. -/
inductive Store where
  | memory (leases : Leases)
  | file (path : String) (content : Option (List UInt8))

namespace Store

/-- What an operation returns, what it logs, and the store that it leaves. -/
structure Result (α : Type) where
  answer : Except Fault α
  logs : List Log.Entry
  store : Store

/-- The leases of a file so far, and the warnings about entries without one. -/
structure Reading where
  leases : Leases
  warnings : List Log.Entry

/-- Adds the lease of an entry, or a warning that there is none in it. -/
def Reading.add (reading : Reading) (entry : Value × Value) : Except Fault Reading := do
  -- A key that cannot be written out names no cluster, and no warning can name it either.
  let key ← Fault.orMishap .badValue entry.1.display?
  match Lease.ofEntry entry.2 with
  | .ok lease => return { reading with leases := reading.leases.put key lease }
  | .error fault =>
    let text := s!"Skipping malformed metadata for cluster {key}: {fault.message}"
    return { reading with warnings := reading.warnings ++ [Log.warning .leases text] }

/-- The leases that a document holds. A document that counts as no holds none. -/
def readDocument (path : String) (document : Value) : Except Fault Reading :=
  -- An empty file, or one that holds null, is a file without leases.
  if !document.isTruthy then .ok ⟨[], []⟩
  else
    match document with
    | .map entries => entries.foldlM Reading.add ⟨[], []⟩
    | _ => .error (.metadataNotMapping path)

def readFile (format : Format) (path : String) (content : Option (List UInt8)) : Except Fault Reading :=
  match content.map format.read with
  | none => .error (.unreadableMetadata path)
  | some (.error .malformed) => .error (.unreadableMetadata path)
  | some (.error (.mishap what)) => .error (.mishap what)
  | some (.ok document) => readDocument path document

def toEntries (leases : Leases) : Except Fault Entries :=
  leases.mapM fun (id, lease) => lease.toEntry.map fun entry => (.text id, entry)

/-- What is left of a lease that was handed out to be edited, and what the editing comes to. -/
structure Edit where
  left : Lease
  outcome : Except Fault Lease

/-- Makes a new lease of an old one. Nothing keeps it from writing in the old one as well, nor from failing after
that. -/
abbrev Editor := Lease → Edit

/-- The editor that makes a new lease and leaves the old one alone. -/
def Editor.ofChange (change : Lease → Except Fault Lease) : Editor := fun lease => ⟨lease, change lease⟩

/-- What is left of the leases that an operation was handed, and its outcome, whose last part is the leases to
keep, if they change. -/
structure Handled (α : Type) where
  left : Leases
  outcome : Except Fault (α × Option Leases)

/-- An operation: what becomes of the leases so far. -/
abbrev Operation (α : Type) := Leases → Handled α

/-- Keeps the lease of a cluster, in place of the one it may have. -/
def keeping (id : String) (lease : Lease) : Operation Unit := fun leases =>
  ⟨leases, .ok ((), some (leases.put id lease))⟩

def fetching (id : String) : Operation Lease := fun leases =>
  ⟨leases, (leases.require id).map fun lease => (lease, none)⟩

/-- Replaces the lease of a cluster by what an editor makes of it. -/
def editing (id : String) (editor : Editor) : Operation Lease := fun leases =>
  match leases.require id with
  | .error fault => ⟨leases, .error fault⟩
  | .ok lease =>
    let edit := editor lease
    ⟨leases.put id edit.left, edit.outcome.map fun edited => (edited, some (leases.put id edited))⟩

/-! ### In a file -/

/-- The leases of a file, once the warnings about it are logged. -/
def readLeases (format : Format) (path : String) : DiskM Leases := do
  let content ← Disk.ask (.read path)
  let reading ← Program.ofExcept (readFile format path content)
  Disk.logAll reading.warnings
  return reading.leases

/-- Replaces the leases of a file. Nothing is begun before all of them have become entries. -/
def writeLeases (dump : Entries → Disk.Draft) (path : String) (leases : Leases) : DiskM Unit := do
  let entries ← Program.ofExcept (toEntries leases)
  Disk.rewrite path (dump entries)

/-- An operation on a file: `dump` says how entries are written. -/
def onDisk {α : Type} (format : Format) (dump : Entries → Disk.Draft) (path : String)
    (operation : Operation α) : DiskM α := do
  let leases ← readLeases format path
  -- What the operation wrote in the leases that it was handed goes the way of all that was read.
  let (answer, changed) ← Program.ofExcept (operation leases).outcome
  match changed with
  | none => return answer
  | some leases =>
    writeLeases dump path leases
    return answer

/-- The machine with one file, or without it. -/
def machineOf (path : String) (content : Option (List UInt8)) : Disk.Machine :=
  ⟨(content.map fun bytes => (path, bytes)).toList, []⟩

/-- What is left of a run: its outcome, the log, and the file. -/
def Result.ofRun {α : Type} (path : String) (run : Except Fault α × Disk.Machine) : Result α :=
  ⟨run.1, run.2.logs, .file path (run.2.files.get? path)⟩

/-- An operation on a file of a machine. -/
def onFile {α : Type} (format : Format) (path : String) (content : Option (List UInt8))
    (operation : Operation α) : Result α :=
  .ofRun path ((onDisk format format.draft path operation).run Disk.Machine.answer (machineOf path content))

/-! ### In memory or in a file -/

/-- An operation on leases in memory. It is handed the leases themselves, so that what it leaves of them is what
the memory holds if it fails. -/
def onMemory {α : Type} (leases : Leases) (operation : Operation α) : Result α :=
  let handled := operation leases
  match handled.outcome with
  | .error fault => ⟨.error fault, [], .memory handled.left⟩
  | .ok (answer, changed) => ⟨.ok answer, [], .memory (changed.getD handled.left)⟩

def perform {α : Type} (format : Format) (store : Store) (operation : Operation α) : Result α :=
  match store with
  | .memory leases => onMemory leases operation
  | .file path content => onFile format path content operation

def create (format : Format) (store : Store) (id : String) (lease : Lease) : Result Unit :=
  perform format store (keeping id lease)

def fetch (format : Format) (store : Store) (id : String) : Result Lease :=
  perform format store (fetching id)

def edit (format : Format) (store : Store) (id : String) (editor : Editor) : Result Lease :=
  perform format store (editing id editor)

/-- Replaces the lease of a cluster by a function of it. -/
def update (format : Format) (store : Store) (id : String) (change : Lease → Except Fault Lease) : Result Lease :=
  store.edit format id (.ofChange change)

/-! ### Opening -/

/-- A store with nothing in it that has a path, or none; and what opening it logs. -/
def openMemory : Store × List Log.Entry :=
  (.memory [], [Log.warning .leases "No metadata file configured, cluster metadata will not survive restarts"])

/-- The store on a file, which is created if it is missing. -/
def openFile (format : Format) (path : String) (content : Option (List UInt8)) : Store × List Log.Entry :=
  match content with
  | some bytes => (.file path (some bytes), [Log.info .leases s!"Using cluster metadata file: {path}"])
  | none =>
    (.file path (some (format.write [])), [Log.info .leases s!"Created cluster metadata file: {path}"])

end Store

end ClusterLease
