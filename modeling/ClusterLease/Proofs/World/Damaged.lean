import ClusterLease.Proofs.Lease.Entry
import ClusterLease.Proofs.World.Initial
import ClusterLease.Proofs.World.Reading

/-!
Showing clusters over a damaged file of leases.

A file that is not there, that is no document, that holds something else than a mapping, or of which
some entries hold no lease: none of this keeps a cluster from being shown, and only owners and ends
of leases depend on the file. It is different with a mishap of the reader of documents, or with a key
that is a whole number of too many digits to be written out. Nothing foresees these, and each of them ends
the showing at the first cluster (`clusters_over_file`).
-/

namespace ClusterLease

/-- A cluster as it would be shown if there were no leases. -/
def Cluster.withoutLease (cluster : Cluster) : Cluster :=
  { cluster with owner := .text "", expiry := .null }

theorem Cluster.withoutLease_ofGroup (network : String) (group : Group) (lease : Option Lease) :
    (ofGroup network group lease).withoutLease = ofGroup network group none := rfl

namespace Store

variable {format : Format} {path : String} {content : Option (List UInt8)}

/-- What goes wrong over a store in a way that nothing foresees: a mishap of the reader of documents, or a key
that names no cluster. -/
def mishap? (format : Format) : Store → Option Mishap
  | .memory _ => none
  | .file _ content => content.bind fun bytes =>
    match format.read bytes with
    | .error (.mishap what) => some what
    | .ok (.map entries) => if Named entries then none else some .badValue
    | _ => none

/-- A document that was read holds leases, or is no mapping, or has a key that names no cluster. -/
theorem readDocument_error {document : Value} {fault : Fault}
    (h : readDocument path document = .error fault) :
    fault = .metadataNotMapping path ∨ ∃ entries, document = .map entries ∧ ¬Named entries := by
  cases document with
  | map entries =>
    refine .inr ⟨entries, rfl, fun hnamed => ?_⟩
    obtain ⟨warnings, hread⟩ := readDocument_map hnamed path
    cases hread.symm.trans h
  | _ =>
    unfold readDocument at h
    split at h
    · cases h
    · exact .inl (Except.error.inj h).symm

/-- A file is read as leases or refused, unless it has a mishap. -/
theorem isForeseen_of_readFile {fault : Fault} (hnone : (Store.file path content).mishap? format = none)
    (h : readFile format path content = .error fault) : fault.isForeseen = true := by
  cases content with
  | none =>
    cases h
    rfl
  | some bytes =>
    rw [readFile, Option.map_some] at h
    simp only [mishap?, Option.bind_some] at hnone
    cases hread : format.read bytes with
    | error problem =>
      rw [hread] at h hnone
      -- Bytes that are no document are foreseen; only a mishap of the reader would not be, and there is
      -- none.
      cases problem with
      | malformed =>
        cases h
        rfl
      | mishap what => cases hnone
    | ok document =>
      rw [hread] at h hnone
      rcases readDocument_error h with rfl | ⟨entries, rfl, hnot⟩
      · rfl
      · cases (if_neg hnot).symm.trans hnone

/-- A mishap is the outcome of every reading. -/
theorem readFile_of_mishap? {what : Mishap} (h : (Store.file path content).mishap? format = some what) :
    readFile format path content = .error (.mishap what) := by
  obtain ⟨bytes, rfl, hbytes⟩ := Option.bind_eq_some_iff.1 h
  rw [readFile, Option.map_some]
  cases hread : format.read bytes with
  | error problem =>
    rw [hread] at hbytes
    cases problem with
    | malformed => cases hbytes
    | mishap other =>
      cases hbytes
      rfl
  | ok document =>
    rw [hread] at hbytes
    cases document with
    | map entries =>
      by_cases hnamed : Named entries
      · cases (if_pos hnamed).symm.trans hbytes
      · cases (if_neg hnamed).symm.trans hbytes
        exact readDocument_of_not_named hnamed path
    | _ => cases hbytes

/-- A store that cannot be read as a whole gives that mishap under every id. -/
theorem fetch_of_mishap? {store : Store} {what : Mishap} (h : store.mishap? format = some what)
    (id : String) : (store.fetch format id).answer = .error (.mishap what) := by
  cases store with
  | memory leases => cases h
  | file path content =>
    rw [fetch_file, readFile_of_mishap? h]
    rfl

/-- A store without a mishap can tell its leases. -/
theorem readable_of_mishap? {store : Store} (h : store.mishap? format = none) : store.Readable format := by
  cases store with
  | memory leases => exact readable_memory format leases
  | file path content =>
    intro id fault hfetch
    rw [fetch_file] at hfetch
    cases hfile : readFile format path content with
    | error other =>
      rw [hfile] at hfetch
      cases hfetch
      exact isForeseen_of_readFile h hfile
    | ok reading =>
      rw [hfile] at hfetch
      exact Leases.isForeseen_of_require hfetch

end Store

namespace World

open Container (Info)
open Manager (sees)

variable {w : World} {m : Manager} {caller : Caller} {path : String}
  {content : Option (List UInt8)}

/-- The world as it would be without leases. -/
def forgetting (w : World) : World := { w with store := .memory [] }

/-- Apart from their leases, the clusters that are shown do not depend on the store. -/
theorem shown_forgetting (w : World) (m : Manager) (caller : Caller) (listing : List Info) :
    (w.shown m caller listing).map Cluster.withoutLease = w.forgetting.shown m caller listing := by
  rw [shown, shown, List.map_map]
  refine List.map_congr_left fun id _ => ?_
  have hnone : w.forgetting.lease? id = none := rfl
  rw [Function.comp_apply, clusterOf, clusterOf, hnone, Cluster.withoutLease_ofGroup]

/-- Over a readable store the clusters are told as without one, the leases apart. -/
theorem clusters_of_readable (h : w.store.Readable w.format) (m : Manager) (caller : Caller) :
    ((m.clusters caller).run answer w).1.map (·.map Cluster.withoutLease) =
      ((m.clusters caller).run answer w.forgetting).1 := by
  have hempty : w.forgetting.store.Readable w.forgetting.format := Store.readable_memory _ []
  have hlist : w.forgetting.list = w.list := rfl
  rw [← outcome_quietly, ← outcome_quietly, run_clusters h, run_clusters hempty, hlist]
  cases w.list with
  | error fault => rfl
  | ok listing => exact congrArg Except.ok (w.shown_forgetting m caller listing)

/-- A fault that is not foreseen ends the showing at the first cluster. -/
theorem run_describe_of_fault {fault : Fault} (hforeseen : fault.isForeseen = false)
    (h : ∀ id, (w.store.fetch w.format id).answer = .error fault) (group : Cluster.Group)
    (rest : List Cluster.Group) :
    (m.describe (group :: rest)).run answerQuietly w = (.error fault, w) := by
  have hlease : (Manager.leaseOf group.id).run answerQuietly w = (.error fault, w) := by
    rw [Manager.leaseOf, run_ask_bind, answerQuietly_fetchLease, h]
    cases fault with
    | metaNotFound other => cases hforeseen
    | _ => first | rfl | cases hforeseen
  rw [Manager.describe, Program.run_bind, hlease]

/-- A fault that is not foreseen ends the telling as soon as there is a cluster to tell. -/
theorem clusters_of_fault {fault : Fault} (hforeseen : fault.isForeseen = false)
    (h : ∀ id, (w.store.fetch w.format id).answer = .error fault) (m : Manager) (caller : Caller) :
    ((m.clusters caller).run answer w).1 = w.list.bind fun listing =>
      if (Cluster.groups listing).any (sees caller) then .error fault else .ok [] := by
  rw [← outcome_quietly, Manager.clusters, Program.run_bind, run_list]
  cases w.list with
  | error listFault => rfl
  | ok listing =>
    dsimp only [Except.bind]
    -- The store is asked for a lease only once there is a cluster to tell.
    cases hgroups : (Cluster.groups listing).filter (sees caller) with
    | nil =>
      have hnone : (Cluster.groups listing).any (sees caller) = false := by
        rw [List.any_eq_false]
        exact List.filter_eq_nil_iff.1 hgroups
      rw [hnone]
      rfl
    | cons group rest =>
      have hmem : group ∈ (Cluster.groups listing).filter (sees caller) := by simp [hgroups]
      have hsome : (Cluster.groups listing).any (sees caller) = true :=
        List.any_eq_true.2 ⟨group, List.mem_filter.1 hmem⟩
      have hfetch (id : String) :
          ((w.noting .list).store.fetch (w.noting .list).format id).answer = .error fault := h id
      rw [hsome, if_pos rfl]
      rw [run_describe_of_fault hforeseen hfetch]

/--
Whatever stands in the file of leases, clusters are shown as if there were no leases, but for their
owners and ends, unless the reader of documents has a mishap over it or a key names no cluster. Such a
mishap is the outcome as soon as there is a cluster to show.
-/
theorem clusters_over_file (m : Manager) (caller : Caller) (hstore : w.store = .file path content) :
    ((Store.file path content).mishap? w.format = none →
      ((m.clusters caller).run answer w).1.map (·.map Cluster.withoutLease) =
        ((m.clusters caller).run answer w.forgetting).1) ∧
    ∀ what, (Store.file path content).mishap? w.format = some what →
      ((m.clusters caller).run answer w).1 = w.list.bind fun listing =>
        if (Cluster.groups listing).any (sees caller) then .error (.mishap what) else .ok [] := by
  rw [← hstore]
  constructor
  · exact fun hnone => clusters_of_readable (Store.readable_of_mishap? hnone) m caller
  · exact fun what hsome => clusters_of_fault rfl (Store.fetch_of_mishap? hsome) m caller

namespace Sample

/-- The only node of a cluster. -/
def lone : Held := ⟨⟨"c", "running", Manager.nodeLabels ann "c2" (node "node_1"), []⟩, []⟩

def loneCluster : Cluster :=
  ⟨"c2", "ann", .text "", .null, [⟨"c", "running", "node_1", "7.0.1", .text "", .text ""⟩]⟩

/-- A world with a cluster and a file of leases. -/
def overFile (bytes : List UInt8) : World :=
  { initial Plan.smooth .yaml newYear with
    containers := [lone], store := .file "clusters.yaml" (some bytes) }

/-- A lease that ends in a number, and an entry without a lease. -/
def odd : List UInt8 := Text.utf8 "c2:\n  owner: bob\n  timeout: 5\nc3:\n  owner: bob\n"

/-- A lease that ends on a day of which there is none. -/
def impossible : List UInt8 := Text.utf8 "c1:\n  owner: ann\n  timeout: 2024-13-45\n"

theorem lone_shown (bytes : List UInt8) :
    ((manager.clusters ann).run answer (overFile bytes).forgetting).1 = .ok [loneCluster] := by
  have hids : Cluster.ids [lone.info] = ["c2"] := by decide +kernel
  have hlist : (overFile bytes).forgetting.list = .ok [lone.info] := rfl
  rw [← outcome_quietly, run_clusters (Store.readable_memory _ []), hlist, Except.map, shown, hids]
  rfl

end Sample

open Sample in
/-- Entries that hold no proper lease do not keep a cluster from being shown. -/
theorem clusters_over_file_of_odd :
    ((manager.clusters ann).run answer (overFile odd)).1.map (·.map Cluster.withoutLease) =
      .ok [loneCluster] := by
  have hnone : (overFile odd).store.mishap? .yaml = none := by decide +kernel
  exact ((clusters_over_file manager ann rfl).1 hnone).trans (lone_shown odd)

open Sample in
/-- A day of which there is none keeps clusters from being shown that would be shown without the file. -/
theorem clusters_over_impossible_day :
    ((manager.clusters ann).run answer (overFile impossible)).1 = .error (.mishap .badValue) ∧
    ((manager.clusters ann).run answer (overFile impossible).forgetting).1 = .ok [loneCluster] := by
  refine ⟨?_, lone_shown impossible⟩
  have himpossible : (overFile impossible).store.mishap? .yaml = some .badValue := by decide +kernel
  have hsome : (Cluster.groups [lone.info]).any (sees ann) = true := by decide +kernel
  have hlist : (overFile impossible).list = .ok [lone.info] := rfl
  rw [clusters_of_fault rfl (Store.fetch_of_mishap? himpossible), hlist, Except.bind, hsome]
  rfl

end World

end ClusterLease
