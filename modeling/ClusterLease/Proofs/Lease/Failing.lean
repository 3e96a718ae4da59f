import ClusterLease.Proofs.Lease.File

/-!
Operations on leases that fail.

An operation on a file may fail at reading the file, at a lease that is missing, at a change that refuses, at
an entry that cannot be made, at the writing, and at the file system. Whatever it fails at, the file holds
what it held before, malformed entries included, over every honest file system and for every way to write
entries (`proceeds_onDisk`); and fetching a lease changes nothing even if it succeeds. A memory keeps its
leases just so, with one exception: an editor that fails is free to write in the lease before it does, and a memory
has handed it the lease that it holds (`store_of_failed`).
-/

namespace ClusterLease.Store

open Disk (Draft Honest Keeps Replaced View)

variable {σ α : Type} {disk : Answerer Disk.interface σ} {files : View σ} {s t : σ} {format : Format}
  {path : String}

/-- Logging touches no file. -/
theorem proceeds_logAll (h : Honest disk files) (hsame : files t = files s) (entries : List Log.Entry) :
    (Disk.logAll entries).Proceeds disk (fun u _ => files u = files s) (fun _ u => files u = files s) t := by
  induction entries generalizing t with
  | nil => exact hsame
  | cons entry rest ih =>
    refine Disk.proceeds_ask_bind hsame (ih ?_)
    rw [h.log, hsame]

/-- The leases are those that a file is read as. -/
def IsRead (format : Format) (path : String) (content : Option (List UInt8)) (leases : Leases) : Prop :=
  content.isSome ∧ ∃ reading, readFile format path content = .ok reading ∧ reading.leases = leases

/-- Reading touches no file, and what is read is what the file holds. -/
theorem proceeds_readLeases (h : Honest disk files) (format : Format) (path : String) (s : σ) :
    (readLeases format path).Proceeds disk (fun u _ => files u = files s)
      (fun outcome u => files u = files s ∧
        ∀ leases, outcome = .ok leases → IsRead format path (files s path) leases) s := by
  have hsame := h.read path s
  refine Disk.proceeds_ask_bind rfl (Program.proceeds_ofExcept_bind ?_ ?_)
  · intro reading hread
    refine (proceeds_logAll h hsame reading.warnings).bind ?_ ?_
    · intro _ u hu
      refine ⟨hu, fun leases heq => ?_⟩
      cases heq
      -- A file that is missing is read as a fault, so that leases were read from one that was there.
      cases hreply : (disk (.read path) s).1 with
      | none =>
        rw [hreply] at hread
        cases hread
      | some bytes =>
        rw [hreply] at hread
        rw [h.read_some path s bytes hreply]
        exact ⟨rfl, reading, hread, rfl⟩
    · exact fun fault u hu => ⟨hu, nofun⟩
  · exact fun fault _ => ⟨hsame, nofun⟩

/-- How an operation on a file ends: it fails, and the file and all others are as they were; or it only
reads; or the file holds all entries of the leases that the operation keeps. -/
inductive Performed (files : View σ) (format : Format) (dump : Entries → Draft) (path : String)
    (operation : Operation α) (s : σ) : Except Fault α → σ → Prop where
  | failed {t : σ} (fault : Fault) (hfile : files t path = files s path) (hkeeps : Keeps files s t) :
      Performed files format dump path operation s (.error fault) t
  | read {t : σ} {leases : Leases} {answer : α} (hread : IsRead format path (files s path) leases)
      (hanswer : (operation leases).outcome = .ok (answer, none)) (hsame : files t = files s) :
      Performed files format dump path operation s (.ok answer) t
  | wrote {t : σ} {leases others : Leases} {answer : α} {entries : Entries}
      (hread : IsRead format path (files s path) leases)
      (hanswer : (operation leases).outcome = .ok (answer, some others)) (hentries : toEntries others = .ok entries)
      (hreplaced : Replaced files path (dump entries) s t) :
      Performed files format dump path operation s (.ok answer) t

/-- Writing leases replaces the file with all their entries, or keeps every file as it is. -/
theorem proceeds_writeLeases (h : Honest disk files) (hsame : files t = files s) (dump : Entries → Draft)
    (path : String) (leases : Leases) :
    (writeLeases dump path leases).Proceeds disk (fun u _ => Keeps files s u)
      (fun outcome u => (∃ fault, outcome = .error fault ∧ Keeps files s u) ∨
        ∃ entries, outcome = .ok () ∧ toEntries leases = .ok entries ∧ Replaced files path (dump entries) s u) t := by
  have hkeeps (u : σ) (hu : Keeps files t u) : Keeps files s u := fun name bytes hname =>
    hu name bytes (by rw [hsame, hname])
  refine Program.proceeds_ofExcept_bind ?_ ?_
  · intro entries hentries
    refine (h.proceeds_rewrite t path (dump entries)).mono (fun u _ hu => hkeeps u hu) ?_
    rintro _ u (⟨hreplaced⟩ | ⟨fault, hkept⟩)
    · refine .inr ⟨entries, rfl, hentries, ?_⟩
      rw [Replaced, hsame] at hreplaced
      exact hreplaced
    · exact .inl ⟨fault, rfl, hkeeps u hkept⟩
  · exact fun fault _ => .inl ⟨fault, rfl, Keeps.of_eq hsame⟩

/-- Until an operation ends, the file holds what it held, so that nobody ever reads half a document. -/
theorem proceeds_onDisk (h : Honest disk files) (format : Format) (dump : Entries → Draft) (path : String)
    (operation : Operation α) (s : σ) :
    (onDisk format dump path operation).Proceeds disk (fun u _ => files u path = files s path)
      (Performed files format dump path operation s) s := by
  have hreading := (proceeds_readLeases h format path s).mono (fun u _ hu => congrFun hu path) fun _ _ hu => hu
  refine hreading.bind ?_ ?_
  · rintro leases u ⟨hsame, hread⟩
    have hread := hread leases rfl
    refine Program.proceeds_ofExcept_bind ?_ ?_
    · -- Nothing is written unless the operation has leases to keep.
      rintro ⟨answer, _ | others⟩ hanswer
      · exact .read hread hanswer hsame
      · have hwriting := (proceeds_writeLeases h hsame dump path others).mono
          (fun u _ hu => hu.file hread.1) fun _ _ hu => hu
        refine hwriting.bind ?_ ?_
        · rintro _ v (⟨fault, heq, -⟩ | ⟨entries, -, hentries, hreplaced⟩)
          · cases heq
          · exact .wrote hread hanswer hentries hreplaced
        · rintro fault v (⟨_, -, hkept⟩ | ⟨entries, heq, -⟩)
          · exact .failed fault (hkept.file hread.1) hkept
          · cases heq
    · exact fun fault _ => .failed fault (congrFun hsame path) (Keeps.of_eq hsame)
  · rintro fault u ⟨hsame, -⟩
    exact .failed fault (congrFun hsame path) (Keeps.of_eq hsame)

/-- The store after a run holds what is left in the file. -/
theorem ofRun_store {run : Except Fault α × Disk.Machine} {content : Option (List UInt8)}
    (h : Disk.Machine.view run.2 path = content) : (Result.ofRun path run).store = .file path content := by
  rw [ofRun_eq h]

/-- A file is as it was, and so are all others that there were. -/
def Untouched (files : View σ) (path : String) (s t : σ) : Prop := files t path = files s path ∧ Keeps files s t

/-- Whatever the operation is and wherever it fails, it leaves the file alone. -/
theorem untouched_of_failed (h : Honest disk files) (format : Format) (dump : Entries → Draft) (path : String)
    (operation : Operation α) (s : σ) {fault : Fault}
    (hfailed : ((onDisk format dump path operation).run disk s).1 = .error fault) :
    Untouched files path s ((onDisk format dump path operation).run disk s).2 := by
  have hperformed := (proceeds_onDisk h format dump path operation s).reached
  rw [hfailed] at hperformed
  cases hperformed with
  | failed _ hfile hkeeps => exact ⟨hfile, hkeeps⟩

/-- Fetching never comes to writing. -/
theorem files_of_fetching (h : Honest disk files) (format : Format) (dump : Entries → Draft) (path id : String)
    (s : σ) : files ((onDisk format dump path (fetching id)).run disk s).2 = files s := by
  have hproceeds : (onDisk format dump path (fetching id)).Proceeds disk (fun u _ => files u = files s)
      (fun _ u => files u = files s) s := by
    refine ((proceeds_readLeases h format path s).imp fun _ _ hu => hu.1).bind ?_ ?_
    · intro leases u hu
      unfold fetching
      cases leases.require id with
      | error fault => exact hu
      | ok lease => exact hu
    · exact fun _ _ hu => hu
  exact hproceeds.reached

/-! ### Stores -/

/-- A store that an operation was handed and failed on. A file is not what the operation was handed. -/
def leftBy (operation : Operation α) : Store → Store
  | .memory leases => .memory (operation leases).left
  | .file path content => .file path content

/-- After a failure a file is as it was, and a memory holds what the operation was handed. -/
theorem store_of_failed {operation : Operation α} {store : Store} {fault : Fault}
    (hfailed : (perform format store operation).answer = .error fault) :
    (perform format store operation).store = store.leftBy operation := by
  cases store with
  | memory leases =>
    simp only [perform, onMemory] at hfailed ⊢
    split at hfailed
    · rfl
    · cases hfailed
  | file path content =>
    obtain ⟨hfile, -⟩ := untouched_of_failed Disk.Machine.honest_answer format format.draft path operation
      (machineOf path content) hfailed
    exact ofRun_store (hfile.trans (get?_machineOf path content))

/-- The operation writes nothing in the leases that it is handed. -/
def Operation.Spares (operation : Operation α) : Prop := ∀ leases, (operation leases).left = leases

/-- An operation that writes nothing leaves nothing behind. -/
theorem Operation.Spares.leftBy {operation : Operation α} (h : operation.Spares) (store : Store) :
    store.leftBy operation = store := by
  cases store with
  | memory leases => exact congrArg memory (h leases)
  | file path content => rfl

theorem spares_keeping (id : String) (lease : Lease) : (keeping id lease).Spares := fun _ => rfl

theorem spares_fetching (id : String) : (fetching id).Spares := fun _ => rfl

/-- Leases after an editor was handed that of a cluster, with what it wrote in it. -/
def writtenBy (id : String) (editor : Editor) (leases : Leases) : Leases :=
  match leases.get? id with
  | none => leases
  | some lease => leases.put id (editor lease).left

/-- What an editor leaves of the leases is what it wrote in the one it was handed. -/
theorem left_editing (id : String) (editor : Editor) (leases : Leases) :
    (editing id editor leases).left = writtenBy id editor leases := by
  rw [editing, Leases.require, writtenBy]
  cases leases.get? id <;> rfl

/-- Nothing is written if the lease is left alone. -/
theorem writtenBy_eq_self {id : String} {editor : Editor} {leases : Leases}
    (h : ∀ lease, leases.get? id = some lease → (editor lease).left = lease) : writtenBy id editor leases = leases := by
  rw [writtenBy]
  cases hget : leases.get? id with
  | none => rfl
  | some lease => exact Table.put_of_get? (hget.trans (congrArg some (h lease hget).symm))

/-- A change makes a new lease and leaves the old one alone. -/
theorem spares_editing_ofChange (id : String) (change : Lease → Except Fault Lease) :
    (editing id (.ofChange change)).Spares := fun leases =>
  (left_editing id (.ofChange change) leases).trans (writtenBy_eq_self fun _ _ => rfl)

/-- Reading a lease leaves a store as it is. -/
theorem fetch_store (format : Format) (store : Store) (id : String) : (store.fetch format id).store = store := by
  cases store with
  | memory leases =>
    simp only [fetch, fetching, perform, onMemory]
    cases leases.require id <;> rfl
  | file path content =>
    have hsame := files_of_fetching Disk.Machine.honest_answer format format.draft path id (machineOf path content)
    exact ofRun_store ((congrFun hsame path).trans (get?_machineOf path content))

/-- An operation that spares the leases that it is handed leaves the store as it was, if it does not succeed. -/
theorem perform_of_failed {operation : Operation α} (hspares : operation.Spares) {store : Store}
    (hfailed : ∀ value, (perform format store operation).answer ≠ .ok value) :
    (perform format store operation).store = store := by
  cases hanswer : (perform format store operation).answer with
  | ok value => exact absurd hanswer (hfailed value)
  | error fault => exact (store_of_failed hanswer).trans (hspares.leftBy store)

namespace Sample

end Sample

end ClusterLease.Store
