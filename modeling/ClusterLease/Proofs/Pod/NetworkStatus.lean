import Mathlib.Data.List.Forall2
import Mathlib.Data.List.TakeWhile
import ClusterLease.Pod.NetworkStatus
import ClusterLease.Proofs.Table
import ClusterLease.Proofs.Value.Equality

/-!
Which networks and addresses a status reports.

A status that is a list of proper entries has the networks that its entries name, each with the
addresses of the last entry that names it: of each family the first address there is
(`status_decoded`). The two loops are described by themselves first: one entry by `foldl_takeAddress`,
all of them by `networksOfEntries_of_rows`.
-/

namespace ClusterLease.Pod

open Container (Address Networks)

/-! ### Names -/

/-- The part of a name after its last slash, or the whole name if there is none. -/
def LastPart (name part : String) : Prop :=
  '/' ∉ part.toList ∧ (name = part ∨ ∃ space, name = space ++ "/" ++ part)

/-- What stands behind the last slash is the last part of a name. -/
theorem lastPart_afterLastSlash (name : String) : LastPart name (afterLastSlash name) := by
  have hpart : (afterLastSlash name).toList = (name.toList.reverse.takeWhile (· != '/')).reverse :=
    String.toList_ofList
  have hnone : '/' ∉ (afterLastSlash name).toList := by
    rw [hpart, List.mem_reverse]
    intro hmem
    have hne := List.mem_takeWhile_imp hmem
    simp at hne
  have hsplit := List.takeWhile_append_dropWhile (p := (· != '/')) (l := name.toList.reverse)
  refine ⟨hnone, ?_⟩
  -- Behind the reversed part comes the last slash, or nothing at all.
  cases hrest : name.toList.reverse.dropWhile (· != '/') with
  | nil =>
    left
    rw [hrest, List.append_nil] at hsplit
    rw [← String.toList_inj, hpart, hsplit, List.reverse_reverse]
  | cons c space =>
    right
    have hslash : c = '/' := by
      have hhead := List.head?_dropWhile_not (· != '/') name.toList.reverse
      rw [hrest] at hhead
      simpa using hhead
    refine ⟨String.ofList space.reverse, ?_⟩
    rw [← String.toList_inj, ← List.reverse_inj, ← hsplit, hrest, hslash]
    simp [hpart]

/-- A name has only one last part. -/
theorem LastPart.eq_afterLastSlash {name part : String} (h : LastPart name part) :
    part = afterLastSlash name := by
  obtain ⟨hpart, hname⟩ := h
  have hall : ∀ c ∈ part.toList.reverse, (c != '/') = true := by
    intro c hc
    rw [bne_iff_ne]
    rintro rfl
    exact hpart (List.mem_reverse.1 hc)
  rw [← String.toList_inj, afterLastSlash, String.toList_ofList]
  rcases hname with rfl | ⟨space, rfl⟩
  · rw [List.takeWhile_eq_self_iff.2 hall, List.reverse_reverse]
  · have hreverse : (space ++ "/" ++ part).toList.reverse = part.toList.reverse ++ '/' :: space.toList.reverse := by
      simp
    rw [hreverse, List.takeWhile_append_of_pos hall]
    simp

theorem lastPart_iff {name part : String} : LastPart name part ↔ part = afterLastSlash name :=
  ⟨LastPart.eq_afterLastSlash, fun h => h ▸ lastPart_afterLastSlash name⟩

/-! ### Entries -/

/-- What a proper entry says: the name of a network, and addresses. -/
structure Report where
  name : String
  ips : List String
  deriving DecidableEq, Repr

/-- The entry is an object with this text as its name and these texts as its addresses. -/
def Says (entry : Value) (report : Report) : Prop :=
  ∃ fields, entry = .map fields ∧ Entries.getText? fields "name" = some (.text report.name) ∧
    Entries.getText? fields "ips" = some (.list (report.ips.map .text))

/-- The addresses of version 4. -/
def familyV4 : Ip → Bool
  | .v4 _ => true
  | .v6 _ => false

/-- The addresses of version 6 that are valid beyond one link. -/
def familyV6 : Ip → Bool
  | .v4 _ => false
  | .v6 n => !Ip.isLinkLocal n

/-- The text is an address of version 4. -/
def isV4 (ip : String) : Bool := (Ip.ofText? ip).any familyV4

/-- The text is an address of version 6 that is valid beyond one link. -/
def isWideV6 (ip : String) : Bool := (Ip.ofText? ip).any familyV6

/-- The first of some texts that is of a kind, empty if there is none. -/
def firstOf (kind : String → Bool) (ips : List String) : String := (ips.find? kind).getD ""

/-- The addresses of one network as the first usable ones of a list. -/
def addressOf (ips : List String) : Address := ⟨.text (firstOf isV4 ips), .text (firstOf isWideV6 ips)⟩

/-- The empty text is no address; it stands for one that is missing. -/
theorem ofText?_empty : Ip.ofText? "" = none := by decide +kernel

theorem ne_empty_of_isV4 {ip : String} (h : isV4 ip) : ip ≠ "" := by
  rintro rfl
  rw [isV4, ofText?_empty] at h
  cases h

theorem ne_empty_of_isWideV6 {ip : String} (h : isWideV6 ip) : ip ≠ "" := by
  rintro rfl
  rw [isWideV6, ofText?_empty] at h
  cases h

/-- The next address of a family, if there is none yet. -/
def filled (kind : String → Bool) (old ip : String) : String :=
  if old = "" ∧ kind ip then ip else old

/-- Taking an address into a pair of texts fills each place that is empty and that it fits. -/
theorem takeAddress_text (v4 v6 ip : String) : takeAddress ⟨.text v4, .text v6⟩ (.text ip) =
    ⟨.text (filled isV4 v4 ip), .text (filled isWideV6 v6 ip)⟩ := by
  have hread : Ip.ofValue? (.text ip) = Ip.ofText? ip := rfl
  unfold takeAddress filled isV4 isWideV6
  rw [hread]
  cases Ip.ofText? ip with
  | none => simp
  | some address =>
    cases address with
    | v4 n => by_cases h : v4 = "" <;> simp [Value.isTruthy, familyV4, familyV6, h]
    | v6 n =>
      by_cases h : v6 = "" <;> by_cases hlocal : Ip.isLinkLocal n <;>
        simp [Value.isTruthy, familyV4, familyV6, h, hlocal]

/-- Filling a place from a list keeps what it holds, or else takes the first that fits. -/
theorem foldl_filled {kind : String → Bool} (hkind : ∀ ip, kind ip → ip ≠ "") (old : String) (ips : List String) :
    ips.foldl (filled kind) old = if old = "" then firstOf kind ips else old := by
  -- Only the first text that fits changes the place; from then on it is not empty.
  induction ips generalizing old with
  | nil => by_cases h : old = "" <;> simp [firstOf, h]
  | cons ip rest ih =>
    rw [List.foldl_cons, ih, filled]
    by_cases h : old = ""
    · cases hip : kind ip with
      | true => simp [h, hip, firstOf, hkind ip hip]
      | false => simp [h, hip, firstOf]
    · simp [h]

/-- Of the addresses of an entry the first one of each family is taken. -/
theorem foldl_takeAddress (ips : List String) :
    (ips.map Value.text).foldl takeAddress Address.none = addressOf ips := by
  have hpair (v4 v6 : String) : (ips.map Value.text).foldl takeAddress ⟨.text v4, .text v6⟩ =
      ⟨.text (ips.foldl (filled isV4) v4), .text (ips.foldl (filled isWideV6) v6)⟩ := by
    induction ips generalizing v4 v6 with
    | nil => rfl
    | cons ip rest ih => rw [List.map_cons, List.foldl_cons, takeAddress_text, ih, List.foldl_cons, List.foldl_cons]
  rw [Address.none, hpair, foldl_filled fun _ => ne_empty_of_isV4, foldl_filled fun _ => ne_empty_of_isWideV6]
  rfl

/-- An entry that says a report gives the report's last part and the first usable addresses. -/
theorem entryAddress_of_says {entry : Value} {report : Report} (h : Says entry report) :
    entryAddress entry = .ok (afterLastSlash report.name, addressOf report.ips) := by
  obtain ⟨fields, rfl, hname, hips⟩ := h
  rw [entryAddress, hname, hips, ← foldl_takeAddress]
  rfl

/-! ### The whole status -/

/-- What the name and the addresses of an entry add to the networks. -/
def row (entry : String × Address) : String × Option Address := (entry.1, some entry.2)

/-- The entries are put one by one, so that later ones stand in place of earlier ones. -/
theorem networksOfEntries_of_rows {entries : List Value} {rows : List (String × Address)}
    (h : List.Forall₂ (fun entry row => entryAddress entry = .ok row) entries rows) :
    networksOfEntries entries = .ok (Table.merge [] (rows.map row)) := by
  unfold networksOfEntries
  generalize ([] : Networks) = networks
  induction h generalizing networks with
  | nil => rfl
  | cons hfirst _ ih =>
    rw [List.foldlM_cons, hfirst]
    exact ih _

/-- Of the rows of one network the last one counts. -/
theorem get?_merge_rows {before after : List (String × Address)} {network : String} {address : Address}
    (hlast : ∀ later ∈ after, later.1 ≠ network) :
    (Table.merge [] ((before ++ (network, address) :: after).map row)).get? network = some (some address) := by
  have hnone : network ∉ (after.map row).map (·.1) := by
    rw [List.map_map, List.mem_map]
    rintro ⟨later, hmem, heq⟩
    exact hlast later hmem heq
  rw [List.map_append, List.map_cons, row, Table.get?_merge_of_last _ _ hnone]

theorem mem_keys_merge_rows (rows : List (String × Address)) (network : String) :
    network ∈ (Table.merge [] (rows.map row)).map (·.1) ↔ ∃ entry ∈ rows, entry.1 = network := by
  rw [Table.mem_keys_merge, List.map_map, List.mem_map]
  simp [row]

/-- The name and the addresses that a report comes down to. -/
def Report.result (report : Report) : String × Address := (afterLastSlash report.name, addressOf report.ips)

/-- The annotations hold a status, which is a list of proper entries that say this. -/
def Tells (annotations : Labels) (reports : List Report) : Prop :=
  ∃ raw entries, annotations.get? statusAnnotation = some raw ∧
    Json.read? raw.toList = some (.list entries) ∧ List.Forall₂ Says entries reports

variable {annotations : Labels} {reports : List Report}

/-- Annotations that tell reports are read without a warning, and the rows are merged in order. -/
theorem networkStatus_of_tells (h : Tells annotations reports) :
    networkStatus annotations = ⟨[], .ok (Table.merge [] ((reports.map Report.result).map row))⟩ := by
  obtain ⟨raw, entries, hraw, hread, hsays⟩ := h
  -- An empty text would not be read, so the branch for it is not taken.
  have hsome : raw ≠ "" := by
    rintro rfl
    cases hread
  have hget : annotations.getD statusAnnotation = raw := by
    rw [Labels.getD, hraw]
    rfl
  have hrows : List.Forall₂ (fun entry row => entryAddress entry = .ok row) entries
      (reports.map Report.result) := by
    rw [List.forall₂_map_right_iff]
    exact hsays.imp fun _ _ => entryAddress_of_says
  unfold networkStatus
  rw [hget]
  split
  · contradiction
  · rw [readStatus, hread, ← networksOfEntries_of_rows hrows]

/-! ### Addresses -/

/-- The value is the first of some texts that is of a kind, and empty just if there is none. -/
structure Picks (kind : String → Bool) (ips : List String) (value : Value) : Prop where
  first : ∀ before ip after, ips = before ++ ip :: after → (∀ earlier ∈ before, ¬ kind earlier) →
    kind ip → value = .text ip
  empty_iff : value = .text "" ↔ ∀ ip ∈ ips, ¬ kind ip

/-- The first of a kind in a list is picked from it, and there is none just if nothing is of the kind. -/
theorem picks_firstOf {kind : String → Bool} (hkind : ∀ ip, kind ip → ip ≠ "") (ips : List String) :
    Picks kind ips (.text (firstOf kind ips)) where
  first := by
    rintro before ip after rfl hbefore hip
    have hnone : before.find? kind = none := List.find?_eq_none.2 hbefore
    rw [firstOf, List.find?_append, hnone, List.find?_cons_of_pos hip]
    rfl
  empty_iff := by
    rw [Value.text.injEq, firstOf]
    cases hfind : ips.find? kind with
    | none =>
      have hnone := List.find?_eq_none.1 hfind
      simpa using hnone
    | some ip =>
      have hip : kind ip := List.find?_some hfind
      have hmem := List.mem_of_find?_eq_some hfind
      constructor
      · intro hempty
        exact absurd hempty (hkind ip hip)
      · intro hnone
        exact absurd hip (hnone ip hmem)

/-- After some addresses one more makes no difference: it does not parse, or is valid on one link only,
or there is one of its family already. -/
structure Idle (earlier : List String) (ip : String) : Prop where
  v4 : isV4 ip → ∃ other ∈ earlier, isV4 other
  v6 : isWideV6 ip → ∃ other ∈ earlier, isWideV6 other

/-- An ip that comes after one of its kind does not change which is first. -/
theorem firstOf_of_idle {kind : String → Bool} {earlier : List String} {ip : String}
    (h : kind ip → ∃ other ∈ earlier, kind other) (later : List String) :
    firstOf kind (earlier ++ ip :: later) = firstOf kind (earlier ++ later) := by
  unfold firstOf
  rw [List.find?_append, List.find?_append]
  by_cases hip : kind ip
  · obtain ⟨other, hmem, hother⟩ := h hip
    have hsome : (earlier.find? kind).isSome := List.find?_isSome.2 ⟨other, hmem, hother⟩
    obtain ⟨found, hfound⟩ := Option.isSome_iff_exists.1 hsome
    rw [hfound]
    rfl
  · rw [List.find?_cons_of_neg hip]

theorem addressOf_of_idle {earlier : List String} {ip : String} (h : Idle earlier ip) (later : List String) :
    addressOf (earlier ++ ip :: later) = addressOf (earlier ++ later) := by
  rw [addressOf, addressOf, firstOf_of_idle h.v4, firstOf_of_idle h.v6]

/-- Whatever proper entries a status lists, it reports each network that they name, with the addresses of
the last entry that names it: the first of each family, where those valid on one link only do not count.
Idle addresses can be left out of any entry. -/
theorem status_decoded (htells : Tells annotations reports) :
    ∃ networks : Networks, networkStatus annotations = ⟨[], .ok networks⟩ ∧ networks.Distinct ∧
      (∀ network, network ∈ networks.map (·.1) ↔ ∃ report ∈ reports, LastPart report.name network) ∧
      (∀ before report after network, reports = before ++ report :: after → LastPart report.name network →
        (∀ later ∈ after, ¬ LastPart later.name network) →
        ∃ address, networks.get? network = some (some address) ∧
          Picks isV4 report.ips address.ipv4 ∧ Picks isWideV6 report.ips address.ipv6) ∧
      ∀ before name earlier ip later after, reports = before ++ ⟨name, earlier ++ ip :: later⟩ :: after →
        Idle earlier ip → ∀ others : Labels, Tells others (before ++ ⟨name, earlier ++ later⟩ :: after) →
          networkStatus others = networkStatus annotations := by
  have hstatus := networkStatus_of_tells htells
  refine ⟨_, hstatus, Table.distinct_nil.merge _, ?_, ?_, ?_⟩
  · intro network
    rw [mem_keys_merge_rows]
    simp [Report.result, lastPart_iff, eq_comm]
  · rintro before report after network rfl hname hlast
    refine ⟨addressOf report.ips, ?_, ?_, ?_⟩
    · rw [List.map_append, List.map_cons, Report.result, ← hname.eq_afterLastSlash]
      refine get?_merge_rows ?_
      intro other hother
      obtain ⟨later, hmem, rfl⟩ := List.mem_map.1 hother
      exact fun heq => hlast later hmem (lastPart_iff.2 heq.symm)
    · exact picks_firstOf (fun _ => ne_empty_of_isV4) report.ips
    · exact picks_firstOf (fun _ => ne_empty_of_isWideV6) report.ips
  · rintro before name earlier ip later after rfl hidle others hothers
    have hresult : Report.result ⟨name, earlier ++ ip :: later⟩ = Report.result ⟨name, earlier ++ later⟩ := by
      rw [Report.result, Report.result, addressOf_of_idle hidle]
    have hresults : (before ++ ⟨name, earlier ++ ip :: later⟩ :: after).map Report.result =
        (before ++ ⟨name, earlier ++ later⟩ :: after).map Report.result := by
      simp [hresult]
    rw [hstatus, networkStatus_of_tells hothers, hresults]

namespace Sample

/-- A status with two entries for one network, and with an address on one link, a text that is none and a
second address of a family between those that count. -/
def crowdedStatus : String :=
  "[\x7b\"name\": \"cbr0\", \"ips\": [\"10.244.0.7\"], \"default\": true\x7d, " ++
  "\x7b\"name\": \"other/macvlan0\", \"ips\": [\"10.0.0.1\"]\x7d, " ++
  "\x7b\"name\": \"dyncluster/macvlan0\", \"ips\": " ++
  "[\"fe80::1\", \"fd00::7\", \"garbage\", \"192.168.10.7\", \"192.168.10.8\"]\x7d]"

def crowdedReports : List Report :=
  [⟨"cbr0", ["10.244.0.7"]⟩, ⟨"other/macvlan0", ["10.0.0.1"]⟩,
    ⟨"dyncluster/macvlan0", ["fe80::1", "fd00::7", "garbage", "192.168.10.7", "192.168.10.8"]⟩]

theorem tells_crowdedStatus : Tells [( statusAnnotation, crowdedStatus)] crowdedReports := by
  have hread : Json.read? crowdedStatus.toList = some (.list
      [.map [(.text "name", .text "cbr0"), (.text "ips", .list [.text "10.244.0.7"]),
          (.text "default", .bool true)],
        .map [(.text "name", .text "other/macvlan0"), (.text "ips", .list [.text "10.0.0.1"])],
        .map [(.text "name", .text "dyncluster/macvlan0"), (.text "ips", .list [.text "fe80::1",
          .text "fd00::7", .text "garbage", .text "192.168.10.7", .text "192.168.10.8"])]]) := by
    decide +kernel
  exact ⟨_, _, rfl, hread, .cons ⟨_, rfl, rfl, rfl⟩ (.cons ⟨_, rfl, rfl, rfl⟩ (.cons ⟨_, rfl, rfl, rfl⟩ .nil))⟩

end Sample

/-- Of the crowded status the last entry for `macvlan0` counts, with its first address of each family. -/
theorem status_decoded_of_crowded : ∃ networks address,
    networkStatus [( statusAnnotation, Sample.crowdedStatus)] = ⟨[], .ok networks⟩ ∧
      networks.get? "macvlan0" = some (some address) ∧
      address.ipv4 = .text "192.168.10.7" ∧ address.ipv6 = .text "fd00::7" := by
  obtain ⟨networks, hstatus, -, -, hlast, -⟩ := status_decoded Sample.tells_crowdedStatus
  obtain ⟨address, hget, hv4, hv6⟩ := hlast (Sample.crowdedReports.take 2) _ [] "macvlan0" rfl
    ⟨by decide, .inr ⟨"dyncluster", by decide⟩⟩ (by simp)
  refine ⟨networks, address, hstatus, hget, ?_, ?_⟩
  · exact hv4.first ["fe80::1", "fd00::7", "garbage"] _ ["192.168.10.8"] rfl (by decide +kernel) (by decide +kernel)
  · exact hv6.first ["fe80::1"] _ ["garbage", "192.168.10.7", "192.168.10.8"] rfl (by decide +kernel)
      (by decide +kernel)

end ClusterLease.Pod
