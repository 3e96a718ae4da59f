import ClusterLease.Log
import ClusterLease.Program
import ClusterLease.Table

/-!
Files, and how the content of a file is replaced as a whole.

What is to be written goes to a temporary file in the same directory, which then takes the place of the old
file in one step. If anything goes wrong before that step, the temporary file is removed. Programs ask a
file system by a `Disk.Call`; a `Machine` is one in which nothing goes wrong.
-/

namespace ClusterLease

namespace Disk

/-- Calls of a file system, and of the log. -/
inductive Call where
  | log (entry : Log.Entry)
  /-- The content of a file, if it can be read. -/
  | read (path : String)
  /-- A new empty file in the directory of another one. -/
  | makeTemporary (beside : String)
  | append (path : String) (bytes : List UInt8)
  | close (path : String)
  /-- A file takes the place of another one, in one step. -/
  | replace (source target : String)
  | remove (path : String)

/-- The interface of a file system. Every call but the log may fail. -/
abbrev interface : Interface where
  Call := Call
  Reply
    | .log _ => Unit
    | .read _ => Option (List UInt8)
    | .makeTemporary _ => Except Fault String
    | .append .. => Except Fault Unit
    | .close _ => Except Fault Unit
    | .replace .. => Except Fault Unit
    | .remove _ => Except Fault Unit

/-- Something that is written piece by piece. Whoever writes it may stop with a fault after the last piece. -/
structure Draft where
  pieces : List (List UInt8)
  fault : Option Fault

/-- A draft in one piece. -/
def Draft.whole (bytes : List UInt8) : Draft := ⟨[bytes], none⟩

end Disk

abbrev DiskM := Program Disk.interface

namespace Disk

def ask (call : Call) : DiskM (interface.Reply call) := Program.question (I := interface) call

def logAll : List Log.Entry → DiskM Unit
  | [] => return
  | entry :: rest => do
    ask (.log entry)
    logAll rest

/-- Appends pieces to a file, one after another. -/
def pour (path : String) : (pieces : List (List UInt8)) → DiskM Unit
  | [] => return
  | piece :: rest => do
    Program.ofExcept (← ask (.append path piece))
    pour path rest

/-- Writes a draft to a file, as far as it goes. -/
def write (path : String) (draft : Draft) : DiskM Unit := do
  pour path draft.pieces
  match draft.fault with
  | none => return
  | some fault => Program.fail fault

/-- Writes a draft to a file and closes the file, however the writing ended. -/
def fill (path : String) (draft : Draft) : DiskM Unit := do
  let written ← (write path draft).attempt
  Program.ofExcept (← ask (.close path))
  Program.ofExcept written

/-- Fills a temporary file and puts it in the place of another one. -/
def install (temporary path : String) (draft : Draft) : DiskM Unit := do
  fill temporary draft
  Program.ofExcept (← ask (.replace temporary path))

/-- Replaces the content of a file by a draft. The temporary file is removed if that goes wrong. -/
def rewrite (path : String) (draft : Draft) : DiskM Unit := do
  let temporary ← Program.ofExcept (← ask (.makeTemporary path))
  match ← (install temporary path draft).attempt with
  | .ok () => return
  | .error fault =>
    Program.ofExcept (← ask (.remove temporary))
    Program.fail fault

/-! ### A machine -/

/-- The files of a machine and its log. -/
structure Machine where
  files : Table (List UInt8)
  logs : List Log.Entry

/-- A name that no file has: it is longer than all of theirs together. -/
def unusedName (files : Table (List UInt8)) : String := ".meta-" ++ String.join (files.map (·.1)) ++ ".yaml"

def missingFile : Fault := .mishap (.crash "FileNotFoundError")

/-- Answers as a file system in which nothing goes wrong. -/
def Machine.answer : Answerer interface Machine
  | .log entry, m => ((), { m with logs := m.logs ++ [entry] })
  | .read path, m => (m.files.get? path, m)
  | .makeTemporary _, m => (.ok (unusedName m.files), { m with files := m.files.put (unusedName m.files) [] })
  | .append path bytes, m => (.ok (), { m with files := m.files.put path ((m.files.get? path).getD [] ++ bytes) })
  | .close _, m => (.ok (), m)
  | .replace source target, m =>
    match m.files.get? source with
    | some bytes => (.ok (), { m with files := (m.files.erase source).put target bytes })
    | none => (.error missingFile, m)
  | .remove path, m =>
    match m.files.get? path with
    | some _ => (.ok (), { m with files := m.files.erase path })
    | none => (.error missingFile, m)

end Disk

end ClusterLease
