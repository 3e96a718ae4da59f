import ClusterLease.Pod.Runtime
import ClusterLease.Proofs.Pod.NetworkStatus
import ClusterLease.Proofs.Program.Conduct
import ClusterLease.Proofs.Program.Lawful

/-!
What is listed of pods, whatever their statuses hold.

A status that is no JSON list only costs the addresses of its pod. A list is gone through without being
checked: an entry that is no object, or addresses that cannot be gone through, end the reading
(`stops_entryAddress`), and with it the whole listing. So all pods are listed just if the entries of all
of them can be gone through (`pods_listed`); what each is shown with depends on itself alone.
-/

namespace ClusterLease.Pod

open Container (Address Info Networks)

/-! ### Entries of any kind -/

/-- Lists, mappings and texts have members that can be gone through. -/
def IsSequence : Value → Prop
  | .list _ | .map _ | .text _ => True
  | _ => False

theorem isSequence_iff {value : Value} : IsSequence value ↔ ∃ items, value.members = .ok items := by
  cases value <;> simp [IsSequence, Value.members]

theorem members_of_not_isSequence {value : Value} (h : ¬ IsSequence value) :
    value.members = .error (.mishap .wrongType) := by
  cases value with
  | list items => exact absurd trivial h
  | map entries => exact absurd trivial h
  | text s => exact absurd trivial h
  | _ => rfl

/-- The entry can be read: it is an object, and its addresses, if it has any, can be gone through. -/
def Passes (entry : Value) : Prop :=
  ∃ fields, entry = .map fields ∧ ∀ ips, Entries.getText? fields "ips" = some ips → IsSequence ips

/-- The entry cannot be read, with this mishap. -/
inductive Stops : Value → Mishap → Prop where
  | notObject {entry : Value} (h : ∀ fields, entry ≠ .map fields) : Stops entry .missingMember
  | notSequence {fields : Entries} {ips : Value} (hips : Entries.getText? fields "ips" = some ips)
      (h : ¬ IsSequence ips) : Stops (.map fields) .wrongType

/-- Every entry of a status list passes or stops the reading; there is no third way. -/
theorem passes_or_stops (entry : Value) : Passes entry ∨ ∃ what, Stops entry what := by
  by_cases hobject : ∃ fields, entry = .map fields
  · obtain ⟨fields, rfl⟩ := hobject
    cases hips : Entries.getText? fields "ips" with
    | none => exact .inl ⟨fields, rfl, fun ips h => by rw [hips] at h; cases h⟩
    | some ips =>
      by_cases hsequence : IsSequence ips
      · refine .inl ⟨fields, rfl, fun other h => ?_⟩
        rw [hips, Option.some.injEq] at h
        exact h ▸ hsequence
      · exact .inr ⟨_, .notSequence hips hsequence⟩
  · exact .inr ⟨_, .notObject fun fields h => hobject ⟨fields, h⟩⟩

theorem stops_entryAddress {entry : Value} {what : Mishap} (h : Stops entry what) :
    entryAddress entry = .error (.mishap what) := by
  cases h with
  | notObject h =>
    unfold entryAddress
    split
    · exact absurd rfl (h _)
    · rfl
  | notSequence hips h =>
    rw [entryAddress, hips, Option.getD_some, members_of_not_isSequence h]
    rfl

/-! ### What an entry offers -/

/-- The network that an entry names: what follows the last slash of the text of its name. -/
def Names (entry : Value) (network : String) : Prop :=
  ∃ fields, entry = .map fields ∧
    LastPart ((Entries.getText? fields "name").getD (.text "")).display network

/-- A value stands among the addresses of an entry. -/
def Offers (entry ip : Value) : Prop :=
  ∃ fields ips items, entry = .map fields ∧ Entries.getText? fields "ips" = some ips ∧
    ips.members = .ok items ∧ ip ∈ items

/-- An address of one family that is taken from an entry, or none. A number that is an address is taken as
the number it is. -/
inductive Taken (family : Ip → Bool) (entry : Value) : Value → Prop where
  | nothing : Taken family entry (.text "")
  | text {s : String} {ip : Ip} (hoffers : Offers entry (.text s)) (hip : Ip.ofText? s = some ip)
      (hfamily : family ip) : Taken family entry (.text s)
  | number {n : Int} {ip : Ip} (hoffers : Offers entry (.int n)) (hip : Ip.ofInt? n = some ip)
      (hfamily : family ip) : Taken family entry (.int n)
  | truth {b : Bool} {ip : Ip} (hoffers : Offers entry (.bool b)) (hip : Ip.ofValue? (.bool b) = some ip)
      (hfamily : family ip) : Taken family entry (.bool b)

/-- Whatever an entry offers and is an address of the family may be taken, text or number. -/
theorem Taken.of_offers {family : Ip → Bool} {entry value : Value} {ip : Ip} (hoffers : Offers entry value)
    (hip : Ip.ofValue? value = some ip) (hfamily : family ip) : Taken family entry value := by
  cases value with
  | text s => exact .text hoffers hip hfamily
  | int n => exact .number hoffers hip hfamily
  | bool b => exact .truth hoffers hip hfamily
  | _ => cases hip

/-- All that an entry offers and that is an address is a text. -/
def OffersTexts (entry : Value) : Prop :=
  ∀ ip, Offers entry ip → (Ip.ofValue? ip).isSome → ∃ s, ip = .text s

theorem Taken.isText {family : Ip → Bool} {entry value : Value} (h : Taken family entry value)
    (htexts : OffersTexts entry) : ∃ s, value = .text s := by
  cases h with
  | nothing => exact ⟨"", rfl⟩
  | text => exact ⟨_, rfl⟩
  | number hoffers hip => exact htexts _ hoffers (Option.isSome_of_mem hip)
  | truth hoffers hip => exact htexts _ hoffers (Option.isSome_of_mem hip)

/-- Both addresses are taken from an entry. -/
structure TakenFrom (entry : Value) (address : Address) : Prop where
  ipv4 : Taken familyV4 entry address.ipv4
  ipv6 : Taken familyV6 entry address.ipv6

/-- Taking one more offered address keeps the pair within what the entry offers. -/
theorem takenFrom_takeAddress {entry ip : Value} {address : Address} (h : TakenFrom entry address)
    (hip : Offers entry ip) : TakenFrom entry (takeAddress address ip) := by
  unfold takeAddress
  -- The text or number decides the family; an address of the other family leaves its place alone.
  split
  · next n hread =>
    split
    · exact h
    · exact ⟨.of_offers hip hread rfl, h.ipv6⟩
  · next n hread =>
    split
    · exact h
    · next hwide =>
      have hfamily : familyV6 (.v6 n) := by
        simp only [Bool.or_eq_true, not_or] at hwide
        simp [familyV6, hwide.1]
      exact ⟨h.ipv4, .of_offers hip hread hfamily⟩
  · exact h

/-- The network and the addresses of an entry that can be read. -/
def rowOf (entry : Value) : String × Address := (entryAddress entry).toOption.getD ("", Address.none)

/-- What an entry says of its network. -/
structure IsRow (entry : Value) (row : String × Address) : Prop where
  eq : entryAddress entry = .ok row
  names : Names entry row.1
  takenFrom : TakenFrom entry row.2

theorem Passes.exists_isRow {entry : Value} (h : Passes entry) : ∃ row, IsRow entry row := by
  obtain ⟨fields, rfl, hips⟩ := h
  have hmembers : ∃ items, ((Entries.getText? fields "ips").getD (.list [])).members = .ok items ∧
      ∀ ip ∈ items, Offers (.map fields) ip := by
    cases hget : Entries.getText? fields "ips" with
    | none => exact ⟨[], rfl, by simp⟩
    | some ips =>
      obtain ⟨items, hitems⟩ := isSequence_iff.1 (hips ips hget)
      exact ⟨items, hitems, fun ip hip => ⟨fields, ips, items, rfl, hget, hitems, hip⟩⟩
  obtain ⟨items, hitems, hoffers⟩ := hmembers
  refine ⟨(_, items.foldl takeAddress Address.none), ?_, ⟨fields, rfl, lastPart_afterLastSlash _⟩, ?_⟩
  · rw [entryAddress, hitems]
    rfl
  · -- Address after address, what has been taken so far stays taken from the entry.
    refine List.foldlRecOn items takeAddress ⟨.nothing, .nothing⟩ ?_
    intro address h ip hip
    exact takenFrom_takeAddress h (hoffers ip hip)

theorem Passes.isRow {entry : Value} (h : Passes entry) : IsRow entry (rowOf entry) := by
  obtain ⟨row, hrow⟩ := h.exists_isRow
  have heq : rowOf entry = row := by rw [rowOf, hrow.eq]; rfl
  rwa [heq]

/-- An entry names one network at most. -/
theorem Names.unique {entry : Value} {network other : String} (h : Names entry network)
    (hother : Names entry other) : network = other := by
  obtain ⟨fields, rfl, hname⟩ := h
  obtain ⟨_, heq, hothername⟩ := hother
  cases heq
  exact hname.eq_afterLastSlash.trans hothername.eq_afterLastSlash.symm

/-! ### Statuses of any kind -/

/-- The entries of the status of a pod. There are none if it has no status, or none that is a JSON list. -/
def entriesOf (annotations : Labels) : List Value :=
  match (annotations.get? statusAnnotation).bind fun raw => Json.read? raw.toList with
  | some (.list entries) => entries
  | _ => []

/-- The networks of a pod are computed from its entries, and the annotations are read for nothing else. -/
theorem networks_networkStatus (annotations : Labels) :
    (networkStatus annotations).networks = networksOfEntries (entriesOf annotations) := by
  unfold networkStatus Labels.getD entriesOf
  cases annotations.get? statusAnnotation with
  | none => rfl
  | some raw =>
    rw [Option.getD_some, Option.bind_some]
    split
    · rfl
    · unfold readStatus
      cases Json.read? raw.toList with
      | none => rfl
      | some value => cases value <;> rfl

/-- The networks of entries: each that an entry names, with addresses of the last one that names it. They
are texts, unless an entry offers numbers. -/
structure Reported (entries : List Value) (networks : Networks) : Prop where
  distinct : networks.Distinct
  named : ∀ network, network ∈ networks.map (·.1) ↔ ∃ entry ∈ entries, Names entry network
  last : ∀ before entry after network, entries = before ++ entry :: after → Names entry network →
    (∀ later ∈ after, ¬ Names later network) →
      ∃ address, networks.get? network = some (some address) ∧ TakenFrom entry address
  texts : (∀ entry ∈ entries, OffersTexts entry) → ∀ network address,
    networks.get? network = some (some address) → ∃ v4 v6, address = ⟨.text v4, .text v6⟩

/-- The networks of entries that can be read. -/
def networksOf (entries : List Value) : Networks := Table.merge [] ((entries.map rowOf).map row)

/-- When all entries pass, the networks are the rows merged in order. -/
theorem networksOfEntries_of_passes {entries : List Value} (h : ∀ entry ∈ entries, Passes entry) :
    networksOfEntries entries = .ok (networksOf entries) := by
  refine networksOfEntries_of_rows ?_
  rw [List.forall₂_map_right_iff, List.forall₂_same]
  exact fun entry hentry => (h entry hentry).isRow.eq

/-- The first entry that cannot be read ends the reading. -/
theorem networksOfEntries_of_stops {before after : List Value} {entry : Value} {what : Mishap}
    (hbefore : ∀ earlier ∈ before, Passes earlier) (h : Stops entry what) :
    networksOfEntries (before ++ entry :: after) = .error (.mishap what) := by
  have hread := networksOfEntries_of_passes hbefore
  unfold networksOfEntries at hread ⊢
  rw [List.foldlM_append, hread]
  simp only [List.foldlM_cons, stops_entryAddress h]
  rfl

/-- Of the entries that name one network, the last one decides. -/
theorem get?_networksOf {before after : List Value} {entry : Value} {network : String}
    (h : ∀ other ∈ before ++ entry :: after, Passes other) (hnames : Names entry network)
    (hlast : ∀ later ∈ after, ¬ Names later network) :
    (networksOf (before ++ entry :: after)).get? network = some (some (rowOf entry).2) := by
  have hrow := (h entry (by simp)).isRow
  have hsplit : rowOf entry = (network, (rowOf entry).2) := by rw [← hrow.names.unique hnames]
  rw [networksOf, List.map_append, List.map_cons, hsplit]
  refine get?_merge_rows ?_
  intro other hother
  obtain ⟨later, hlater, rfl⟩ := List.mem_map.1 hother
  rintro rfl
  exact hlast later hlater (h later (by simp [hlater])).isRow.names

/-- The networks shown are those some entry names. -/
theorem mem_keys_networksOf {entries : List Value} (h : ∀ entry ∈ entries, Passes entry) (network : String) :
    network ∈ (networksOf entries).map (·.1) ↔ ∃ entry ∈ entries, Names entry network := by
  rw [networksOf, mem_keys_merge_rows]
  constructor
  · rintro ⟨added, hadded, rfl⟩
    obtain ⟨entry, hentry, rfl⟩ := List.mem_map.1 hadded
    exact ⟨entry, hentry, (h entry hentry).isRow.names⟩
  · rintro ⟨entry, hentry, hnames⟩
    exact ⟨rowOf entry, List.mem_map_of_mem hentry, (h entry hentry).isRow.names.unique hnames⟩

/-- Of the entries that name a network there is a last one. -/
theorem exists_last {entries : List Value} {network : String} (h : ∃ entry ∈ entries, Names entry network) :
    ∃ before entry after, entries = before ++ entry :: after ∧ Names entry network ∧
      ∀ later ∈ after, ¬ Names later network := by
  induction entries with
  | nil => simp at h
  | cons first rest ih =>
    by_cases hrest : ∃ entry ∈ rest, Names entry network
    · obtain ⟨before, entry, after, rfl, hentry⟩ := ih hrest
      exact ⟨first :: before, entry, after, rfl, hentry⟩
    · have hnone : ∀ later ∈ rest, ¬ Names later network := fun later hmem hnames => hrest ⟨later, hmem, hnames⟩
      obtain ⟨entry, hentry, hnames⟩ := h
      rcases List.mem_cons.1 hentry with rfl | hmem
      · exact ⟨[], entry, rest, rfl, hnames, hnone⟩
      · exact absurd hnames (hnone entry hmem)

theorem reported_networksOf {entries : List Value} (h : ∀ entry ∈ entries, Passes entry) :
    Reported entries (networksOf entries) where
  distinct := Table.distinct_nil.merge _
  named := mem_keys_networksOf h
  last := by
    rintro before entry after network rfl hnames hlast
    exact ⟨_, get?_networksOf h hnames hlast, (h entry (by simp)).isRow.takenFrom⟩
  texts := by
    intro htexts network address hget
    have hkey : network ∈ (networksOf entries).map (·.1) :=
      List.mem_map.2 ⟨_, (Table.distinct_nil.merge _).get?_eq_some.1 hget, rfl⟩
    obtain ⟨before, entry, after, rfl, hnames, hlast⟩ := exists_last ((mem_keys_networksOf h network).1 hkey)
    rw [get?_networksOf h hnames hlast, Option.some.injEq, Option.some.injEq] at hget
    have htaken := (h entry (by simp)).isRow.takenFrom
    rw [hget] at htaken
    obtain ⟨v4, hv4⟩ := htaken.ipv4.isText (htexts entry (by simp))
    obtain ⟨v6, hv6⟩ := htaken.ipv6.isText (htexts entry (by simp))
    exact ⟨v4, v6, congrArg₂ Address.mk hv4 hv6⟩

/-! ### Pods -/

/-- The entries of a pod's status annotation; a pod without annotations has none. -/
def Observed.entries (pod : Observed) : List Value := entriesOf (pod.annotations.getD [])

/-- The status of the pod can be read, or there is nothing in it to read. -/
def Sound (pod : Observed) : Prop := ∀ entry ∈ pod.entries, Passes entry

/-- The status of the pod has an entry that cannot be read; the first of these has this mishap. -/
def Breaks (pod : Observed) (what : Mishap) : Prop :=
  ∃ before entry after, pod.entries = before ++ entry :: after ∧ (∀ earlier ∈ before, Passes earlier) ∧
    Stops entry what

/-- Of a list either all items are of some kind, or there is a first one that is not. -/
theorem all_or_first {α : Type} {kind : α → Prop} (items : List α) : (∀ item ∈ items, kind item) ∨
    ∃ before item after, items = before ++ item :: after ∧ (∀ earlier ∈ before, kind earlier) ∧ ¬ kind item := by
  induction items with
  | nil => exact .inl (by simp)
  | cons item rest ih =>
    by_cases hitem : kind item
    · rcases ih with hall | ⟨before, other, after, rfl, hbefore, hother⟩
      · exact .inl (List.forall_mem_cons.2 ⟨hitem, hall⟩)
      · exact .inr ⟨item :: before, other, after, rfl, List.forall_mem_cons.2 ⟨hitem, hbefore⟩, hother⟩
    · exact .inr ⟨[], item, rest, rfl, by simp, hitem⟩

/-- A pod is described or breaks the listing, by the first of its entries that stops. -/
theorem sound_or_breaks (pod : Observed) : Sound pod ∨ ∃ what, Breaks pod what := by
  rcases @all_or_first _ Passes pod.entries with hall | ⟨before, entry, after, hentries, hbefore, hentry⟩
  · exact .inl hall
  · obtain ⟨what, hstops⟩ := (passes_or_stops entry).resolve_left hentry
    exact .inr ⟨what, before, entry, after, hentries, hbefore, hstops⟩

/-- The container that a pod is listed as: nothing of it comes from other pods. -/
def Observed.shown (pod : Observed) : Info where
  id := pod.name
  state := Text.lower (match pod.phase with
    | none | some "" => "unknown"
    | some phase => phase)
  labels := Table.merge (pod.labels.getD []) (pod.annotations.getD [])
  networks := networksOf pod.entries

/-- A container has the name of a pod, its phase in small letters, its labels, of which its annotations stand
above the real ones, and the networks that the entries of its own status report. -/
structure ShownAs (pod : Observed) (container : Info) : Prop where
  id : container.id = pod.name
  unknown : pod.phase = none ∨ pod.phase = some "" → container.state = "unknown"
  state : ∀ phase, pod.phase = some phase → phase ≠ "" → container.state = Text.lower phase
  labels : Table.Distinct (pod.annotations.getD []) → ∀ key, container.labels.get? key =
    (Table.get? (pod.annotations.getD []) key).or (Table.get? (pod.labels.getD []) key)
  networks : Reported pod.entries container.networks

theorem Sound.shownAs {pod : Observed} (h : Sound pod) : ShownAs pod pod.shown where
  id := rfl
  unknown hphase := by
    have hlower : Text.lower "unknown" = "unknown" := by decide +kernel
    rcases hphase with hphase | hphase <;> rw [Observed.shown, hphase] <;> exact hlower
  state phase hphase hne := by
    rw [Observed.shown, hphase]
    dsimp only
    split
    · next heq => cases heq
    · next heq => exact absurd (Option.some.inj heq) hne
    · next heq => rw [Option.some.inj heq]
  labels hdistinct key := Table.get?_merge hdistinct _ key
  networks := reported_networksOf h

/-! ### The listing -/

variable {τ σ : Type} {α : Type}

/-- The program ends with one outcome, whatever it is answered. -/
def Yields (p : PodM τ α) (outcome : Except Fault α) : Prop :=
  ∀ past, p.Upholds (fun _ _ => True) (fun found _ => found = outcome) past

theorem Yields.run {p : PodM τ α} {outcome : Except Fault α} (h : Yields p outcome)
    (server : Answerer (interface τ) σ) (s : σ) : (p.run server s).1 = outcome := (h []).outcome server s

/-- Programs that yield can be run one after another. -/
theorem Yields.bind {β : Type} {p : PodM τ α} {value : α} {f : α → PodM τ β} {outcome : Except Fault β}
    (hp : Yields p (.ok value)) (hf : Yields (f value) outcome) : Yields (p >>= f) outcome := by
  intro past
  rw [Program.upholds_bind]
  refine (hp past).imp ?_
  rintro _ now - rfl
  exact hf now

theorem Yields.bind_error {β : Type} {p : PodM τ α} {fault : Fault} {f : α → PodM τ β}
    (hp : Yields p (.error fault)) : Yields (p >>= f) (.error fault) := by
  intro past
  rw [Program.upholds_bind]
  refine (hp past).imp ?_
  rintro _ now - rfl
  rfl

theorem yields_ofExcept (outcome : Except Fault α) : Yields (Program.ofExcept outcome : PodM τ α) outcome :=
  fun _ => rfl

theorem yields_reportStatus (annotations : Labels) :
    Yields (reportStatus annotations : PodM τ Networks) (networksOfEntries (entriesOf annotations)) := by
  rw [reportStatus, ← networks_networkStatus]
  generalize networkStatus annotations = reading
  generalize reading.warnings = warnings
  -- Each warning is logged, and whatever the log answers, the next one follows.
  have hlogged : Yields (forIn warnings PUnit.unit fun entry _ => do
      ask (.log entry)
      pure (ForInStep.yield PUnit.unit) : PodM τ PUnit) (.ok PUnit.unit) := by
    induction warnings with
    | nil => exact fun _ => rfl
    | cons entry rest ih =>
      rw [List.forIn_cons]
      exact fun past => ⟨trivial, fun _ => ih _⟩
  exact hlogged.bind (yields_ofExcept _)

/-- A sound pod is described without a call, whatever the server. -/
theorem yields_info_of_sound {pod : Observed} (h : Sound pod) : Yields (info pod : PodM τ Info) (.ok pod.shown) := by
  have hstatus := yields_reportStatus (τ := τ) (pod.annotations.getD [])
  rw [← Observed.entries, networksOfEntries_of_passes h] at hstatus
  exact hstatus.bind (yields_ofExcept _)

theorem yields_info_of_breaks {pod : Observed} {what : Mishap} (h : Breaks pod what) :
    Yields (info pod : PodM τ Info) (.error (.mishap what)) := by
  obtain ⟨before, entry, after, hentries, hbefore, hstops⟩ := h
  have hstatus := yields_reportStatus (τ := τ) (pod.annotations.getD [])
  rw [← Observed.entries, hentries, networksOfEntries_of_stops hbefore hstops] at hstatus
  exact hstatus.bind_error

/-- Sound pods are all described, in their order. -/
theorem yields_infos {pods : List Observed} (h : ∀ pod ∈ pods, Sound pod) :
    Yields (pods.mapM info : PodM τ (List Info)) (.ok (pods.map Observed.shown)) := by
  induction pods with
  | nil => exact yields_ofExcept _
  | cons pod rest ih =>
    obtain ⟨hpod, hrest⟩ := List.forall_mem_cons.1 h
    rw [List.mapM_cons]
    exact (yields_info_of_sound hpod).bind ((ih hrest).bind (yields_ofExcept _))

/-- The first pod whose status cannot be read ends the listing. -/
theorem yields_infos_of_breaks {before after : List Observed} {pod : Observed} {what : Mishap}
    (hbefore : ∀ earlier ∈ before, Sound earlier) (h : Breaks pod what) :
    Yields ((before ++ pod :: after).mapM info : PodM τ (List Info)) (.error (.mishap what)) := by
  rw [List.mapM_append, List.mapM_cons]
  exact (yields_infos hbefore).bind (yields_info_of_breaks h).bind_error.bind_error

/-- The listing is the one call, and then what the descriptions of the answered pods yield. -/
theorem run_list_of_yields {settings : Settings τ} {server : Answerer (interface τ) σ} {s : σ}
    {pods : List Observed} {outcome : Except Fault (List Info)}
    (hanswer : (server (.list settings.space Container.clusterLabel) s).1 = .ok (some pods))
    (h : Yields (pods.mapM info : PodM τ (List Info)) outcome) : ((list settings).run server s).1 = outcome := by
  rw [list, Program.run_bind, ask, Program.run_question]
  dsimp only
  rw [hanswer]
  exact h.run server _

/-- Pods whose statuses can all be read, or hold nothing to read, are all listed, one by one, and each as it
is shown by itself. Otherwise the first status that cannot be read ends the whole listing. -/
theorem pods_listed (settings : Settings τ) (server : Answerer (interface τ) σ) (s : σ) {pods : List Observed}
    (hanswer : (server (.list settings.space Container.clusterLabel) s).1 = .ok (some pods)) :
    ((∀ pod ∈ pods, Sound pod) →
      ((list settings).run server s).1 = .ok (pods.map Observed.shown) ∧
        ∀ pod ∈ pods, ShownAs pod pod.shown) ∧
    (∀ before pod after what, pods = before ++ pod :: after → (∀ earlier ∈ before, Sound earlier) →
      Breaks pod what → ((list settings).run server s).1 = .error (.mishap what)) ∧
    ((∀ pod ∈ pods, Sound pod) ∨ ∃ before pod after what, pods = before ++ pod :: after ∧
      (∀ earlier ∈ before, Sound earlier) ∧ Breaks pod what) := by
  refine ⟨?_, ?_, ?_⟩
  · intro hsound
    exact ⟨run_list_of_yields hanswer (yields_infos hsound), fun pod hpod => (hsound pod hpod).shownAs⟩
  · rintro before pod after what rfl hbefore hbreaks
    exact run_list_of_yields hanswer (yields_infos_of_breaks hbefore hbreaks)
  · -- The listing stops at the first pod that breaks it, so that the ones behind do not matter.
    rcases @all_or_first _ Sound pods with hall | ⟨before, pod, after, rfl, hbefore, hpod⟩
    · exact .inl hall
    · obtain ⟨what, hbreaks⟩ := (sound_or_breaks pod).resolve_left hpod
      exact .inr ⟨before, pod, after, what, rfl, hbefore, hbreaks⟩

namespace Sample

/-- A running pod of that name with that text as its status annotation. -/
def withStatus (name raw : String) : Observed := ⟨name, some "Running", none, some [( statusAnnotation, raw)]⟩

/-- A cluster in which there are always the same pods. -/
def listsOnly (pods : List Observed) : Answerer (interface Double) Unit
  | .log _, _ => ((), ())
  | .create .., _ => (.ok none, ())
  | .read .., _ => (.ok none, ())
  | .delete .., _ => (.ok (), ())
  | .list .., _ => (.ok (some pods), ())
  | .now, _ => (.ofInt 0, ())
  | .pause _, _ => ((), ())

/-- A status with an address. -/
def wholeStatus : String := "[\x7b\"name\": \"a/net\", \"ips\": [\"10.0.0.1\"]\x7d]"

/-- A pod whose status is cut off, and one that has an address. -/
def torn : List Observed := [withStatus "torn" "[\x7b", withStatus "kv" wholeStatus]

theorem entries_torn : (withStatus "torn" "[\x7b").entries = [] := by
  decide +kernel

theorem entries_kv : (withStatus "kv" wholeStatus).entries =
    [.map [(.text "name", .text "a/net"), (.text "ips", .list [.text "10.0.0.1"])]] := by
  decide +kernel

theorem sound_torn : ∀ pod ∈ torn, Sound pod := by
  refine List.forall_mem_cons.2 ⟨?_, List.forall_mem_singleton.2 ?_⟩
  · intro entry hentry
    rw [entries_torn] at hentry
    cases hentry
  · intro entry hentry
    rw [entries_kv, List.mem_singleton] at hentry
    refine ⟨_, hentry, fun ips hips => ?_⟩
    obtain rfl : Value.list [.text "10.0.0.1"] = ips := Option.some.inj hips
    trivial

end Sample

/-- A status that is cut off costs nothing but its own addresses. -/
theorem pods_listed_of_torn :
    (Sample.listsOnly Sample.torn (.list Settings.standard.space Container.clusterLabel) ()).1 =
        .ok (some Sample.torn) ∧
      (∀ pod ∈ Sample.torn, Sound pod) ∧
      ∃ cut whole, ((list Settings.standard).run (Sample.listsOnly Sample.torn) ()).1 = .ok [cut, whole] ∧
        cut.id = "torn" ∧ cut.networks = [] ∧ whole.id = "kv" ∧
        whole.networks.map (·.1) = ["net"] := by
  obtain ⟨hlisted, -, -⟩ := pods_listed Settings.standard (Sample.listsOnly Sample.torn) () rfl
  obtain ⟨hrun, hshown⟩ := hlisted Sample.sound_torn
  refine ⟨rfl, Sample.sound_torn, _, _, hrun, rfl, ?_, rfl, ?_⟩
  · rw [Observed.shown, Sample.entries_torn]
    rfl
  · rw [Observed.shown, Sample.entries_kv]
    decide +kernel

namespace Sample

/-- A pod whose status has an entry that is a number. -/
def odd : Observed := withStatus "odd" "[1]"

/-- A pod without any status. -/
def plain : Observed := ⟨"kv", some "Running", none, none⟩

/-- A pod whose status has an address that is a number. -/
def numeric : Observed := withStatus "numeric" "[\x7b\"name\": \"net\", \"ips\": [167772161]\x7d]"

theorem breaks_odd : Breaks odd .missingMember := by
  have hentries : odd.entries = [.int 1] := by decide +kernel
  exact ⟨[], .int 1, [], hentries, by simp, .notObject (by simp)⟩

theorem entries_numeric : numeric.entries =
    [.map [(.text "name", .text "net"), (.text "ips", .list [.int 167772161])]] := by
  decide +kernel

theorem sound_numeric : Sound numeric := by
  intro entry hentry
  rw [entries_numeric, List.mem_singleton] at hentry
  refine ⟨_, hentry, fun ips hips => ?_⟩
  obtain rfl : Value.list [.int 167772161] = ips := Option.some.inj hips
  trivial

end Sample

open Sample in
/-- An entry that is a number hides a pod without any status; and addresses that are numbers are shown as
numbers. -/
theorem pod_hidden_by_number :
    ((list Settings.standard).run (listsOnly [odd, plain]) ()).1 = .error (.mishap .missingMember) ∧
      ∃ shown, ((list Settings.standard).run (listsOnly [numeric]) ()).1 = .ok [shown] ∧
        (shown.networks.address? "net").map (·.ipv4) = some (.int 167772161) := by
  refine ⟨?_, numeric.shown, ?_, ?_⟩
  · have hyields : Yields ([odd, plain].mapM info : PodM Double (List Info)) (.error (.mishap .missingMember)) :=
      @yields_infos_of_breaks Double [] [plain] odd _ (by simp) breaks_odd
    exact run_list_of_yields rfl hyields
  · have hyields : Yields ([numeric].mapM info : PodM Double (List Info)) (.ok [numeric.shown]) :=
      yields_infos (List.forall_mem_singleton.2 sound_numeric)
    exact run_list_of_yields rfl hyields
  · rw [Observed.shown, entries_numeric]
    decide +kernel

end ClusterLease.Pod
