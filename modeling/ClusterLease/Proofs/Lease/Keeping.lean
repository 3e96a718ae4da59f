import ClusterLease.Proofs.Demand
import ClusterLease.Proofs.Lease.File

/-!
Keeping a lease in a file that holds others.

Every change writes all leases of a file. So what a lease is kept beside matters: the other clusters
of the file have leases that may end in anything a document can hold, and of those only days and
moments can be written. If one cannot be written, nothing is kept; otherwise the others are read
back as they were, but for days, which have become moments (`create_beside_others`).
-/

namespace ClusterLease.Store

variable {format : Format} {id : String} {bytes : List UInt8} {entries : Entries}
  {lease : Lease} {back : Value → Value}

/-- A lease that ends at a moment as it is read from a text. -/
def Lasting (lease : Lease) : Prop := ∃ m : Moment, lease.expiry = .moment m ∧ m.settled = m

theorem Lasting.dated (h : Lasting lease) : lease.Dated := by
  obtain ⟨m, hm, -⟩ := h
  rw [Lease.Dated, hm]
  rfl

/-- Only the owner of a lease that lasts may come back changed. -/
theorem Lasting.restored (h : Lasting lease) (back : Value → Value) :
    lease.restored back = { lease with owner := back lease.owner } := by
  obtain ⟨m, hm, hsettled⟩ := h
  rw [Lease.restored, hm]
  simp only [Lease.restoredExpiry, hsettled]

/-- The lease of an entry whose end is a text, as every written one is, lasts. -/
theorem lasting_of_text {entry : Value} {text : String}
    (htimeout : Value.require entry "timeout" = .ok (.text text))
    (h : Lease.ofEntry entry = .ok lease) : Lasting lease := by
  rw [Lease.ofEntry] at h
  obtain ⟨value, hvalue, h⟩ := Except.bind_eq_ok_iff.1 h
  obtain ⟨expiry, hexpiry, h⟩ := Except.bind_eq_ok_iff.1 h
  obtain ⟨owner, -, h⟩ := Except.bind_eq_ok_iff.1 h
  cases h
  cases htimeout.symm.trans hvalue
  rw [Lease.readExpiry] at hexpiry
  -- A text that is no date was refused, and a date that was read is settled.
  cases htext : Moment.ofIsoText? text with
  | none =>
    rw [htext] at hexpiry
    cases hexpiry
  | some m =>
    rw [htext] at hexpiry
    cases hexpiry
    exact ⟨m, rfl, Moment.settled_of_ofIsoText? htext⟩

/-- Once a lease is kept it is found, and so are those of the other clusters, as they are read back. -/
theorem fetch_after_create (path : String) (hread : format.read bytes = .ok (.map entries))
    (hnamed : Named entries) (hlease : lease.Ordinary) (htexts : ∀ user, back (.text user) = .text user)
    (hdated : Leases.Dated ((leasesOf entries).put id lease))
    (hback : format.GivesBack back (Leases.rows ((leasesOf entries).put id lease))) (other : String) :
    ((((Store.file path (some bytes)).create format id lease).store).fetch format other).answer =
      if other = id then .ok lease
      else ((Store.file path (some bytes)).fetch format other).answer.map (Lease.restored back) := by
  obtain ⟨warnings, hbefore⟩ := readFile_map hnamed hread
  have hdistinct := (distinct_leasesOf entries).put id lease
  obtain ⟨reading, hafter, hperm⟩ := readFile_written hdated hdistinct hback
  rw [create_of_dated hbefore hdated, fetch_of_read hafter, fetch_of_read hbefore]
  -- What was written is read back in some order, so that the same is found in it.
  have hrestored := Leases.distinct_restored back hdistinct
  have hsame := ((hrestored.of_perm hperm).perm_iff hrestored).1 hperm other
  rw [Leases.require_congr hsame, Leases.require_restored]
  by_cases hother : other = id
  · have hthis : Leases.require ((leasesOf entries).put id lease) other = .ok lease := by
      rw [Leases.require_eq_ok, Table.get?_put, if_pos hother]
    rw [hthis, if_pos hother]
    exact congrArg Except.ok (hlease.restored htexts)
  · have hothers : Table.get? ((leasesOf entries).put id lease) other =
        (leasesOf entries).get? other := by rw [Table.get?_put, if_neg hother]
    rw [Leases.require_congr hothers, if_neg hother]

/-- What the leases of all clusters but one have in common. -/
def Others (format : Format) (store : Store) (id : String) (what : Lease → Prop) : Prop :=
  ∀ other kept, other ≠ id → (store.fetch format other).answer = .ok kept → what kept

/-- A store after a lease was kept: the lease is there, and `change` has happened to the others. -/
structure Kept (format : Format) (before after : Store) (id : String) (lease : Lease)
    (change : Lease → Lease) : Prop where
  here : (after.fetch format id).answer = .ok lease
  others : ∀ other, other ≠ id →
    (after.fetch format other).answer = (before.fetch format other).answer.map change

/-- Beside leases under keys that can be written out, a lease is kept if all the others can be written again. -/
theorem create_beside_named (path : String) (hread : format.read bytes = .ok (.map entries))
    (hnamed : Named entries) (hlease : lease.Ordinary) (htexts : ∀ user, back (.text user) = .text user)
    (hback : Leases.Dated ((leasesOf entries).put id lease) →
      format.GivesBack back (Leases.rows ((leasesOf entries).put id lease))) :
    let before := Store.file path (some bytes)
    let after := before.create format id lease
    (Others format before id Lease.Dated →
      after.answer = .ok () ∧ Kept format before after.store id lease (Lease.restored back)) ∧
    (¬Others format before id Lease.Dated →
      after.answer = .error (.mishap .missingMember) ∧ after.store = before) := by
  intro before after
  obtain ⟨warnings, hbefore⟩ := readFile_map hnamed hread
  have hwritable : Leases.Dated ((leasesOf entries).put id lease) ↔
      Others format before id Lease.Dated := by
    have hfetch (other : String) (kept : Lease) : (before.fetch format other).answer = .ok kept ↔
        (leasesOf entries).get? other = some kept := by
      rw [fetch_of_read hbefore, Leases.require_eq_ok]
    rw [Leases.dated_put (distinct_leasesOf entries), and_iff_right hlease.dated]
    simp only [Others, hfetch]
  refine ⟨fun hothers => ?_, fun hothers => ?_⟩
  · have hdated := hwritable.2 hothers
    have hafter := fetch_after_create path hread hnamed hlease htexts hdated (hback hdated)
    have hanswer := congrArg Result.answer (create_of_dated hbefore hdated)
    exact ⟨hanswer, (hafter id).trans (if_pos rfl), fun other hne => (hafter other).trans (if_neg hne)⟩
  · have hafter := create_of_not_dated hbefore fun hdated => hothers (hwritable.1 hdated)
    exact ⟨congrArg Result.answer hafter, congrArg Result.store hafter⟩

/-- Leases that last come back as they were, but for owners that the format changes. -/
theorem Kept.of_lasting {before after : Store} (h : Kept format before after id lease (Lease.restored back))
    (hothers : Others format before id Lasting) :
    Kept format before after id lease fun kept => { kept with owner := back kept.owner } := by
  refine ⟨h.here, fun other hne => (h.others other hne).trans ?_⟩
  cases hfound : (before.fetch format other).answer with
  | error fault => rfl
  | ok kept => exact congrArg Except.ok ((hothers other kept hne hfound).restored back)

/--
A lease is kept beside those of other clusters if each of these ends on a day or at a moment, and
then they are read back as they were, but that a day has become its midnight. In particular nothing
happens to those that end at moments. One lease with another end keeps the new one out, and the file
stays as it is; and so does one key that cannot be written out, since the file cannot be read then. Owners
that are texts come back as they are, and others as the format has them, which `back` tells.
-/
theorem create_beside_others (path : String) (hread : format.read bytes = .ok (.map entries))
    (hlease : lease.Ordinary) (htexts : ∀ user, back (.text user) = .text user)
    (hback : Leases.Dated ((leasesOf entries).put id lease) →
      format.GivesBack back (Leases.rows ((leasesOf entries).put id lease))) :
    let before := Store.file path (some bytes)
    let after := before.create format id lease
    (Named entries →
      (Others format before id Lease.Dated →
        after.answer = .ok () ∧ Kept format before after.store id lease (Lease.restored back)) ∧
      (Others format before id Lasting → after.answer = .ok () ∧
        Kept format before after.store id lease fun kept => { kept with owner := back kept.owner }) ∧
      (¬Others format before id Lease.Dated →
        after.answer = .error (.mishap .missingMember) ∧ after.store = before)) ∧
    (¬Named entries → after.answer = .error (.mishap .badValue) ∧ after.store = before) := by
  intro before after
  refine ⟨fun hnamed => ?_, fun hunnamed => ?_⟩
  · obtain ⟨hkept, hrefused⟩ := create_beside_named path hread hnamed hlease htexts hback
    refine ⟨hkept, fun hothers => ?_, hrefused⟩
    obtain ⟨hanswer, hrestored⟩ := hkept fun other kept hne h => (hothers other kept hne h).dated
    exact ⟨hanswer, hrestored.of_lasting hothers⟩
  · have hafter : after = ⟨.error (.mishap .badValue), [], before⟩ :=
      create_of_unread (readFile_of_not_named hunnamed hread)
    exact ⟨congrArg Result.answer hafter, congrArg Result.store hafter⟩

namespace Sample

open Lease.Sample

/-- Of three entries one holds a lease. -/
def wornEntries : Entries :=
  [(.text "good", Lease.entry (.text "ann") noon.isoText),
    (.text "bad", .map [(.text "owner", .text "bob")]), (.text "worse", .int 7)]

/-- The file with these entries. -/
def worn : List UInt8 :=
  Text.utf8 ("good:\n  owner: ann\n  timeout: '2026-10-18T12:00:00+00:00'\n" ++
    "bad:\n  owner: bob\nworse: 7\n")

/-- A lease that ends in a number. -/
def numbered : List UInt8 := Text.utf8 "bad:\n  owner: bob\n  timeout: 5\n"

/-- A lease that ends on a day. -/
def daily : List UInt8 := Text.utf8 "day:\n  owner: bob\n  timeout: 2026-10-18\n"

def midnight : Moment := ⟨Lease.Sample.noon.date, ⟨0, TimeOfDay.zero_bounded⟩, none⟩

end Sample

open Lease.Sample Sample in
/-- Entries without a lease do not matter to a new lease, nor to the one that was there. -/
theorem create_beside_others_of_worn :
    let before := Store.file "clusters.yaml" (some worn)
    let after := before.create .yaml "next" carol
    after.answer = .ok () ∧ (after.store.fetch .yaml "next").answer = .ok carol ∧
      (after.store.fetch .yaml "good").answer = .ok ann := by
  intro before after
  have hread : Format.yaml.read worn = .ok (.map wornEntries) := by decide +kernel
  have hleases : leasesOf wornEntries = [("good", ann)] := by decide +kernel
  have hback : Format.yaml.GivesBack id
      (Leases.rows ((leasesOf wornEntries).put "next" carol)) := by decide +kernel
  have hnamed : Named wornEntries := by decide +kernel
  obtain ⟨hwritten, -⟩ := create_beside_others "clusters.yaml" hread (ordinary_until_noon "carol")
    (fun _ => rfl) (fun _ => hback)
  obtain ⟨warnings, hbefore⟩ := readFile_map hnamed hread
  -- The worn file has one good record, whose date is given back as it was read.
  have hothers : Others .yaml before "next" Lasting := by
    intro other kept hne hfetch
    rw [fetch_of_read hbefore, Leases.require_eq_ok,
      (distinct_leasesOf wornEntries).get?_eq_some, hleases] at hfetch
    cases List.mem_singleton.1 hfetch
    exact ⟨noon, rfl, by decide⟩
  obtain ⟨hanswer, hkept⟩ := (hwritten hnamed).2.1 hothers
  refine ⟨hanswer, hkept.here, (hkept.others "good" (by decide)).trans ?_⟩
  rw [fetch_of_read hbefore, hleases]
  rfl

open Lease.Sample Sample in
/-- A lease that ends in a number keeps a new one out, and one that ends on a day is another one after
the next change. -/
theorem create_beside_number_and_day :
    Format.yaml.read numbered = .ok (.map [(.text "bad",
      .map [(.text "owner", .text "bob"), (.text "timeout", .int 5)])]) ∧ carol.Ordinary ∧
    ((Store.file "clusters.yaml" (some numbered)).create .yaml "next" carol).answer =
      .error (.mishap .missingMember) ∧
    ((Store.file "clusters.yaml" (some daily)).fetch .yaml "day").answer =
      .ok ⟨.text "bob", .date midnight.date⟩ ∧
    (((Store.file "clusters.yaml" (some daily)).create .yaml "next" carol).store.fetch
      .yaml "day").answer = .ok ⟨.text "bob", .moment midnight⟩ :=
  ⟨by decide +kernel, ordinary_until_noon "carol", by decide +kernel, by decide +kernel,
    by decide +kernel⟩

end ClusterLease.Store
