import ClusterLease.Lease.Store
import ClusterLease.Proofs.Disk
import ClusterLease.Proofs.Lease.Entry
import ClusterLease.Proofs.Table

/-!
Files of leases: what a document is read as, and what becomes of leases that are written.

A document holds the leases of the entries that can be read, the later ones in place of the earlier
(`readDocument_map`). Leases can be written if all of them are dated (`toEntries_of_dated`); they
are read back as they were, up to their order and what becomes of their ends, if the format of the
file gives back what was written in it (`readFile_written`).
-/

namespace ClusterLease

/-- What is written in a file: for each cluster its owner, and the text of the end of its lease. -/
abbrev Rows := Table (Value × String)

namespace Rows

/-- The entries of a file with these rows. -/
def entries (rows : Rows) : Entries :=
  rows.map fun (id, owner, timeout) => (.text id, Lease.entry owner timeout)

/-- The rows with their owners as they are read back. -/
def withOwners (back : Value → Value) (rows : Rows) : Rows :=
  rows.map fun (id, owner, timeout) => (id, back owner, timeout)

end Rows

namespace Leases

/-- Leases that can be written, all of them. -/
def Dated (leases : Leases) : Prop := ∀ entry ∈ leases, entry.2.Dated

instance (leases : Leases) : Decidable leases.Dated :=
  inferInstanceAs (Decidable (∀ entry ∈ leases, _))

/-- What is written of leases. -/
def rows (leases : Leases) : Rows := leases.map fun (id, lease) => (id, lease.owner, lease.timeout)

/-- Leases as they are read back after they were written. -/
def restored (back : Value → Value) (leases : Leases) : Leases :=
  leases.map fun (id, lease) => (id, lease.restored back)

theorem distinct_restored (back : Value → Value) {leases : Leases} (h : leases.Distinct) :
    Table.Distinct (leases.restored back) := h.map (Lease.restored back)

/-- What is demanded and what is found is the same. -/
theorem require_eq_ok {leases : Leases} {id : String} {lease : Lease} :
    leases.require id = .ok lease ↔ leases.get? id = some lease := by
  rw [require]
  cases leases.get? id <;> simp

/-- What is demanded of leases is decided by what is found in them. -/
theorem require_congr {leases others : Leases} {id : String} (h : leases.get? id = others.get? id) :
    leases.require id = others.require id := by rw [require, require, h]

/-- After leases were read back, each is found as it comes back. -/
theorem require_restored (back : Value → Value) (leases : Leases) (id : String) :
    (leases.restored back).require id = (leases.require id).map (Lease.restored back) := by
  rw [require, require, restored, Table.get?_map]
  cases leases.get? id <;> rfl

/-- Leases can be written together with a new one if it and those of all other clusters can. -/
theorem dated_put {leases : Leases} (h : leases.Distinct) {id : String} {lease : Lease} :
    Leases.Dated (leases.put id lease) ↔
      lease.Dated ∧ ∀ other kept, other ≠ id → leases.get? other = some kept → kept.Dated := by
  constructor
  · intro hdated
    have hmem (other : String) (kept : Lease) (hget : (leases.put id lease).get? other = some kept) :
        kept.Dated := hdated _ ((h.put id lease).get?_eq_some.1 hget)
    refine ⟨hmem id lease (by rw [Table.get?_put, if_pos rfl]), fun other kept hne hget => ?_⟩
    exact hmem other kept (by rw [Table.get?_put, if_neg hne, hget])
  · rintro ⟨hlease, hothers⟩ ⟨other, kept⟩ hentry
    have hget := (h.put id lease).get?_eq_some.2 hentry
    rw [Table.get?_put] at hget
    split at hget
    · cases hget
      exact hlease
    · next hne => exact hothers other kept hne hget

end Leases

/-- Rows that are written can be read again: they come back in some order, with `back` telling what
becomes of their owners. -/
def Format.GivesBack (format : Format) (back : Value → Value) (rows : Rows) : Prop :=
  ∃ read, format.read (format.write rows.entries) = .ok (.map read) ∧
    read.Perm (rows.withOwners back).entries

/-- A format gives back every mapping from texts to two texts. -/
def Format.Faithful (format : Format) : Prop :=
  ∀ rows : Rows, rows.Distinct → (∀ row ∈ rows, ∃ user, row.2.1 = .text user) →
    format.GivesBack id rows

/-- Whether a format gives rows back can be found out by writing and reading them. -/
def Format.givesBack (format : Format) (back : Value → Value) (rows : Rows) : Bool :=
  match format.read (format.write rows.entries) with
  | .ok (.map read) => decide (read.Perm (rows.withOwners back).entries)
  | _ => false

theorem Format.givesBack_iff (format : Format) (back : Value → Value) (rows : Rows) :
    format.givesBack back rows = true ↔ format.GivesBack back rows := by
  rw [givesBack, GivesBack]
  constructor
  · intro h
    split at h
    · next read hread => exact ⟨read, hread, of_decide_eq_true h⟩
    · cases h
  · rintro ⟨read, hread, hperm⟩
    rw [hread]
    exact decide_eq_true hperm

instance (format : Format) (back : Value → Value) (rows : Rows) :
    Decidable (format.GivesBack back rows) :=
  decidable_of_iff _ (format.givesBack_iff back rows)

namespace Store

variable {format : Format} {path : String} {content : Option (List UInt8)} {leases : Leases}

/-! ### Reading -/

/-- The cluster and the lease of an entry, if there is a lease in it. -/
def accepted (entry : Value × Value) : Option (String × Lease) :=
  match Lease.ofEntry entry.2 with
  | .ok lease => some (entry.1.display, lease)
  | .error _ => none

/-- The leases of the entries of a document. -/
def leasesOf (entries : Entries) : Leases := Table.merge [] (entries.filterMap accepted)

/-- No cluster of a document has two leases. -/
theorem distinct_leasesOf (entries : Entries) : Table.Distinct (leasesOf entries) :=
  Table.distinct_nil.merge _

/-- Every key of a document can be written out, and so name a cluster. Texts can, and all else but whole
numbers of very many digits. -/
def Named (entries : Entries) : Prop := ∀ entry ∈ entries, entry.1.isShowable = true

instance (entries : Entries) : Decidable (Named entries) :=
  inferInstanceAs (Decidable (∀ entry ∈ entries, entry.1.isShowable = true))

/-- An entry whose key can be written out adds its lease, if it holds one, and otherwise a warning. -/
theorem add_of_showable (reading : Reading) {entry : Value × Value} (h : entry.1.isShowable = true) :
    ∃ warnings, reading.add entry = .ok ⟨reading.leases.merge (accepted entry).toList, warnings⟩ := by
  rw [Reading.add, Value.display?, if_pos h, accepted]
  cases Lease.ofEntry entry.2 <;> exact ⟨_, rfl⟩

/-- One key that cannot be written out ends the reading, whether its entry holds a lease or not. -/
theorem add_of_not_showable {reading : Reading} {entry : Value × Value} (h : ¬entry.1.isShowable = true) :
    reading.add entry = .error (.mishap .badValue) := by
  rw [Reading.add, Value.display?, if_neg h]
  rfl

/-- If all keys can be written out, all leases are added. -/
theorem foldlM_add {entries : Entries} (h : Named entries) (reading : Reading) : ∃ warnings,
    entries.foldlM Reading.add reading = .ok ⟨reading.leases.merge (entries.filterMap accepted), warnings⟩ := by
  induction entries generalizing reading with
  | nil => exact ⟨reading.warnings, rfl⟩
  | cons entry rest ih =>
    obtain ⟨hentry, hrest⟩ := List.forall_mem_cons.1 h
    obtain ⟨warnings, hadd⟩ := add_of_showable reading hentry
    obtain ⟨others, hothers⟩ := ih hrest ⟨reading.leases.merge (accepted entry).toList, warnings⟩
    refine ⟨others, ?_⟩
    rw [List.foldlM_cons, hadd]
    refine hothers.trans ?_
    cases haccepted : accepted entry with
    | none => rw [List.filterMap_cons_none haccepted]; rfl
    | some found => rw [List.filterMap_cons_some haccepted]; rfl

/-- The first key that cannot be written out is met, whatever comes before it. -/
theorem foldlM_add_of_not_named {entries : Entries} (h : ¬Named entries) (reading : Reading) :
    entries.foldlM Reading.add reading = .error (.mishap .badValue) := by
  induction entries generalizing reading with
  | nil => exact absurd (fun entry hentry => by cases hentry) h
  | cons entry rest ih =>
    rw [List.foldlM_cons]
    by_cases hentry : entry.1.isShowable = true
    · obtain ⟨warnings, hadd⟩ := add_of_showable reading hentry
      rw [hadd]
      exact ih (fun hrest => h (List.forall_mem_cons.2 ⟨hentry, hrest⟩)) _
    · rw [add_of_not_showable hentry]
      rfl

/-- A mapping holds the leases of its entries, also if it is empty and counts as no. -/
theorem readDocument_map {entries : Entries} (h : Named entries) (path : String) :
    ∃ warnings, readDocument path (.map entries) = .ok ⟨leasesOf entries, warnings⟩ := by
  cases entries with
  | nil => exact ⟨[], rfl⟩
  | cons entry rest => exact foldlM_add h ⟨[], []⟩

/-- A mapping with such a key is not read at all. -/
theorem readDocument_of_not_named {entries : Entries} (h : ¬Named entries) (path : String) :
    readDocument path (.map entries) = .error (.mishap .badValue) := by
  cases entries with
  | nil => exact absurd (fun entry hentry => by cases hentry) h
  | cons entry rest => exact foldlM_add_of_not_named h ⟨[], []⟩

/-- A file that holds a mapping with a key that cannot be written out cannot be read. -/
theorem readFile_of_not_named {bytes : List UInt8} {entries : Entries} (h : ¬Named entries)
    (hread : format.read bytes = .ok (.map entries)) :
    readFile format path (some bytes) = .error (.mishap .badValue) := by
  rw [readFile, Option.map_some, hread]
  exact readDocument_of_not_named h path

/-- A file that holds a mapping holds the leases of it. -/
theorem readFile_map {bytes : List UInt8} {entries : Entries} (h : Named entries)
    (hread : format.read bytes = .ok (.map entries)) :
    ∃ warnings, readFile format path (some bytes) = .ok ⟨leasesOf entries, warnings⟩ := by
  rw [readFile, Option.map_some, hread]
  exact readDocument_map h path

/-! ### Writing -/

/-- Leases that can be written are written row by row. -/
theorem toEntries_of_dated (h : leases.Dated) : toEntries leases = .ok leases.rows.entries := by
  rw [toEntries]
  induction leases with
  | nil => rfl
  | cons entry rest ih =>
    obtain ⟨id, lease⟩ := entry
    have hlease : lease.Dated := h (id, lease) List.mem_cons_self
    rw [List.mapM_cons, ih fun entry hentry => h entry (List.mem_cons_of_mem _ hentry)]
    dsimp only
    rw [Lease.toEntry_of_dated hlease]
    rfl

/-- One lease without a text for its end keeps all of them from being written. -/
theorem toEntries_of_not_dated (h : ¬leases.Dated) :
    toEntries leases = .error (.mishap .missingMember) := by
  rw [toEntries]
  -- By induction up to the first record without a date.
  induction leases with
  | nil => exact absurd (fun entry hentry => by cases hentry) h
  | cons entry rest ih =>
    obtain ⟨id, lease⟩ := entry
    rw [List.mapM_cons]
    dsimp only
    by_cases hlease : lease.Dated
    · have hrest : ¬Leases.Dated rest := fun hrest => h fun entry hentry => by
        rcases List.mem_cons.1 hentry with rfl | hentry
        · exact hlease
        · exact hrest entry hentry
      rw [Lease.toEntry_of_dated hlease, ih hrest]
      rfl
    · rw [Lease.toEntry_of_not_dated hlease]
      rfl

/-- The rows of dated leases are read as these leases. -/
theorem accepted_rows (h : leases.Dated) (back : Value → Value) :
    (leases.rows.withOwners back).entries.filterMap accepted = leases.restored back := by
  induction leases with
  | nil => rfl
  | cons entry rest ih =>
    obtain ⟨id, lease⟩ := entry
    have hlease : lease.Dated := h (id, lease) List.mem_cons_self
    have haccepted : accepted (.text id, Lease.entry (back lease.owner) lease.timeout) =
        some (id, lease.restored back) := by
      rw [accepted, Lease.ofEntry_entry hlease]
      rfl
    have hrest := ih fun entry hentry => h entry (List.mem_cons_of_mem _ hentry)
    exact (List.filterMap_cons_some haccepted).trans (congrArg (_ :: ·) hrest)

/-- What is written has texts for keys. -/
theorem named_entries (rows : Rows) : Named rows.entries := by
  intro entry hentry
  obtain ⟨row, -, rfl⟩ := List.mem_map.1 hentry
  rfl

/-- Leases that were written are read back. -/
theorem readFile_written {back : Value → Value} (hdated : leases.Dated)
    (hdistinct : leases.Distinct) (hback : format.GivesBack back leases.rows) :
    ∃ reading, readFile format path (some (format.write leases.rows.entries)) = .ok reading ∧
      reading.leases.Perm (leases.restored back) := by
  obtain ⟨read, hread, hperm⟩ := hback
  -- The clusters of what was written are texts, so that all of them can be named.
  have hnamed : Named read := fun entry hentry => named_entries _ entry (hperm.mem_iff.1 hentry)
  obtain ⟨warnings, hreading⟩ := readFile_map hnamed hread
  refine ⟨_, hreading, ?_⟩
  -- No cluster comes twice among the entries, so none of them takes the place of another.
  have haccepted : (read.filterMap accepted).Perm (leases.restored back) := by
    rw [← accepted_rows hdated back]
    exact hperm.filterMap accepted
  have hkeys : Table.Distinct (read.filterMap accepted) :=
    (Leases.distinct_restored back hdistinct).of_perm haccepted
  show (leasesOf read).Perm _
  have hmerged : leasesOf read = read.filterMap accepted := Table.merge_of_distinct hkeys
  rw [hmerged]
  exact haccepted

/-! ### Operations -/

/-- The machine has the file. -/
theorem get?_machineOf (path : String) (content : Option (List UInt8)) :
    (machineOf path content).files.get? path = content := by
  cases content with
  | none => rfl
  | some bytes => simp [machineOf, Table.get?]

/-- Reading a file of a machine only logs. -/
theorem run_readLeases (format : Format) (path : String) (m : Disk.Machine) :
    (readLeases format path).run Disk.Machine.answer m =
      match readFile format path (m.files.get? path) with
      | .error fault => (.error fault, m)
      | .ok reading => (.ok reading.leases, ⟨m.files, m.logs ++ reading.warnings⟩) := by
  show (Program.ofExcept (readFile format path (m.files.get? path)) >>= fun reading =>
    Disk.logAll reading.warnings >>= fun _ => pure reading.leases).run Disk.Machine.answer m = _
  cases readFile format path (m.files.get? path) with
  | error fault => rfl
  | ok reading =>
    show (Disk.logAll reading.warnings >>= fun _ => pure reading.leases).run Disk.Machine.answer m = _
    rw [Program.run_bind, Disk.Machine.run_logAll]
    rfl

/-- Writing on a machine replaces the file if there are entries to write, and leaves it otherwise. -/
theorem run_writeLeases (format : Format) (path : String) (leases : Leases) (m : Disk.Machine) :
    ∃ files, (writeLeases format.draft path leases).run Disk.Machine.answer m =
        ((toEntries leases).map fun _ => (), ⟨files, m.logs⟩) ∧
      files.get? path =
        match toEntries leases with
        | .error _ => m.files.get? path
        | .ok entries => some (format.write entries) := by
  unfold writeLeases
  cases toEntries leases with
  | error fault => exact ⟨m.files, rfl, rfl⟩
  | ok entries => exact Disk.Machine.run_rewrite_whole m path (format.write entries)

theorem ofRun_eq {α : Type} {run : Except Fault α × Disk.Machine} (h : run.2.files.get? path = content) :
    Result.ofRun path run = ⟨run.1, run.2.logs, .file path content⟩ := by
  rw [Result.ofRun, h]

/-- An operation on a file of a machine, from what is read to what is written. -/
theorem onFile_eq {α : Type} (format : Format) (path : String) (content : Option (List UInt8))
    (operation : Operation α) : onFile format path content operation =
      match readFile format path content with
      | .error fault => ⟨.error fault, [], .file path content⟩
      | .ok reading =>
        match (operation reading.leases).outcome with
        | .error fault => ⟨.error fault, reading.warnings, .file path content⟩
        | .ok (answer, none) => ⟨.ok answer, reading.warnings, .file path content⟩
        | .ok (answer, some leases) =>
          match toEntries leases with
          | .error fault => ⟨.error fault, reading.warnings, .file path content⟩
          | .ok entries => ⟨.ok answer, reading.warnings, .file path (some (format.write entries))⟩ := by
  have hread := run_readLeases format path (machineOf path content)
  have hcontent := get?_machineOf path content
  rw [hcontent] at hread
  -- Reading comes first and leaves the files as they are; whatever fails up to the write does so before any of
  -- it.
  rw [onFile, onDisk, Program.run_bind, hread]
  cases readFile format path content with
  | error fault => exact ofRun_eq hcontent
  | ok reading =>
    dsimp only
    cases (operation reading.leases).outcome with
    | error fault => exact ofRun_eq hcontent
    | ok result =>
      obtain ⟨answer, _ | leases⟩ := result
      · exact ofRun_eq hcontent
      · let m : Disk.Machine := ⟨(machineOf path content).files, reading.warnings⟩
        obtain ⟨files, hrun, hfiles⟩ := run_writeLeases format path leases m
        show Result.ofRun path ((writeLeases format.draft path leases >>= fun _ => pure answer).run
          Disk.Machine.answer m) = _
        rw [Program.run_bind, hrun]
        dsimp only
        cases hentries : toEntries leases with
        | error fault =>
          rw [hentries] at hfiles
          exact ofRun_eq (hfiles.trans hcontent)
        | ok entries =>
          rw [hentries] at hfiles
          exact ofRun_eq hfiles

section Operations

variable {reading : Reading} {id : String} {lease : Lease}

/-- What is fetched from a memory is what it holds. -/
theorem fetch_memory (format : Format) (leases : Leases) (id : String) :
    ((Store.memory leases).fetch format id).answer = leases.require id := by
  simp only [fetch, fetching, perform, onMemory]
  cases leases.require id <;> rfl

/-- What is fetched from a file is what is read in it. -/
theorem fetch_file (format : Format) (path : String) (content : Option (List UInt8)) (id : String) :
    ((Store.file path content).fetch format id).answer =
      (readFile format path content).bind fun reading => reading.leases.require id := by
  simp only [fetch, fetching, perform, onFile_eq]
  cases readFile format path content with
  | error fault => rfl
  | ok reading =>
    dsimp only [Except.bind]
    cases reading.leases.require id <;> rfl

theorem fetch_of_read (hread : readFile format path content = .ok reading) (id : String) :
    ((Store.file path content).fetch format id).answer = reading.leases.require id := by
  rw [fetch_file, hread]
  rfl

/-- A lease is kept if all leases of the file can be written with it. -/
theorem create_of_dated (hread : readFile format path content = .ok reading)
    (hdated : Leases.Dated (reading.leases.put id lease)) :
    (Store.file path content).create format id lease =
      ⟨.ok (), reading.warnings,
        .file path (some (format.write (Leases.rows (reading.leases.put id lease)).entries))⟩ := by
  simp only [create, keeping, perform, onFile_eq, hread, toEntries_of_dated hdated]

/-- A lease of the file that cannot be written keeps every other one from being kept. -/
theorem create_of_not_dated (hread : readFile format path content = .ok reading)
    (hdated : ¬Leases.Dated (reading.leases.put id lease)) :
    (Store.file path content).create format id lease =
      ⟨.error (.mishap .missingMember), reading.warnings, .file path content⟩ := by
  simp only [create, keeping, perform, onFile_eq, hread, toEntries_of_not_dated hdated]

/-- A file that cannot be read takes no lease. -/
theorem create_of_unread {fault : Fault} (hread : readFile format path content = .error fault) :
    (Store.file path content).create format id lease = ⟨.error fault, [], .file path content⟩ := by
  simp only [create, perform, onFile_eq, hread]

end Operations

end Store

end ClusterLease
