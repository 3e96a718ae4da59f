import ClusterLease.Engine.Runtime
import ClusterLease.Proofs.Manager.Registration
import ClusterLease.Proofs.Pod.Listing
import ClusterLease.Proofs.World.Initial

/-!
What is inspected is what is listed.

An engine tells of a container by a record in which nearly everything may be missing or null. An inspection
and a listing unwrap it by themselves, and come to the same networks (`Engine.inspected_eq_listed`) but for one
case: settings that are null have no networks in a listing, and end an inspection. Pods are read in the same
way by both. As the addresses of a node are registered from an inspection, and shown from a listing, what is
registered is what is shown (`inspection_agrees_with_listing`).
-/

namespace ClusterLease

open Container (Address Info Networks)

namespace Engine

/-! ### Records -/

def IsText (value : Value) : Prop := ∃ s, value = .text s

/-- A field of an object is missing, or null, or of some kind. -/
def Optionally (kind : Value → Prop) (fields : Entries) (key : String) : Prop :=
  ∀ value, Entries.getText? fields key = some value → value = .null ∨ kind value

/-- Settings on one network, with texts for the addresses that there are. -/
def IsSettings (value : Value) : Prop :=
  ∃ fields, value = .map fields ∧ Optionally IsText fields "IPAddress" ∧
    Optionally IsText fields "GlobalIPv6Address"

/-- Networks with their settings, each of which may be null. -/
def IsNetworks (value : Value) : Prop :=
  ∃ entries, value = .map entries ∧ ∀ entry ∈ entries, entry.2 = .null ∨ IsSettings entry.2

/-- The networks of a record, by name, or nothing in their place. -/
def HoldsNetworks (value : Value) : Prop :=
  ∃ fields, value = .map fields ∧ Optionally IsNetworks fields "Networks"

/-- What an engine tells of a container: its id, and settings that may hold networks. -/
structure IsRecord (fields : Entries) : Prop where
  id : ∃ id, Entries.getText? fields "Id" = some (.text id)
  settings : Optionally HoldsNetworks fields "NetworkSettings"

variable {fields : Entries}

/-- An object stands for itself, even if it is empty and counts as no. -/
theorem orElse_map (fields : Entries) : (Value.map fields).orElse (.map []) = .map fields := by
  cases fields <;> rfl

/-- A field that holds a text or nothing is read. -/
theorem addressField_of_optionally {key : String} (h : Optionally IsText fields key) :
    ∃ s, addressField (.map fields) key = .ok (.text s) := by
  have hfield : addressField (.map fields) key =
      .ok (((Entries.getText? fields key).getD .null).orElse (.text "")) := rfl
  rw [hfield]
  cases hget : Entries.getText? fields key with
  | none => exact ⟨"", rfl⟩
  | some value =>
    obtain rfl | ⟨s, rfl⟩ := h value hget
    · exact ⟨"", rfl⟩
    · by_cases hs : s = ""
      · exact ⟨"", by rw [hs]; rfl⟩
      · exact ⟨s, by simp [Value.orElse, Value.isTruthy, hs]⟩

/-- The settings of a network give its addresses, also where there are none. -/
theorem address_of_settings {value : Value} (h : value = .null ∨ IsSettings value) :
    ∃ found, address value = .ok found := by
  obtain rfl | ⟨fields, rfl, hipv4, hipv6⟩ := h
  · exact ⟨_, rfl⟩
  · obtain ⟨v4, hv4⟩ := addressField_of_optionally hipv4
    obtain ⟨v6, hv6⟩ := addressField_of_optionally hipv6
    refine ⟨⟨.text v4, .text v6⟩, ?_⟩
    rw [address, orElse_map, hv4, hv6]
    rfl

/-- The networks of a record are read one by one. -/
theorem networks_map (entries : Entries) : networks (.map entries) =
    entries.mapM fun entry => (address entry.2).map fun found => (entry.1.display, some found) := by
  rw [networks, orElse_map]

/-- What has the form of networks is read as networks. -/
theorem networks_of_isNetworks {value : Value} (h : value = .null ∨ IsNetworks value) :
    ∃ found, networks value = .ok found := by
  obtain rfl | ⟨entries, rfl, hentries⟩ := h
  · exact ⟨[], rfl⟩
  · rw [networks_map]
    induction entries with
    | nil => exact ⟨[], rfl⟩
    | cons entry rest ih =>
      obtain ⟨hfirst, hrest⟩ := List.forall_mem_cons.1 hentries
      obtain ⟨found, hfound⟩ := address_of_settings hfirst
      obtain ⟨others, hothers⟩ := ih hrest
      refine ⟨(entry.1.display, some found) :: others, ?_⟩
      rw [List.mapM_cons, hothers, hfound]
      rfl

/-! ### Two ways to unwrap a record -/

/-- Whatever an engine tells, an inspection comes to the same as a listing, failures included, unless there
are settings that are no object and count as no. -/
theorem inspected_eq_listed {details : Value} (h : ∀ settings,
    details.lookup "NetworkSettings" = .ok (some settings) → settings.isTruthy = true ∨ settings = .map []) :
    inspectedNetworks details = listedNetworks details := by
  rw [inspectedNetworks, listedNetworks]
  cases hlookup : details.lookup "NetworkSettings" with
  | error fault => rfl
  | ok found =>
    cases found with
    | none => rfl
    | some settings =>
      obtain htruthy | rfl := h settings hlookup
      · have hself : settings.orElse (.map []) = settings := if_pos htruthy
        show (settings.lookup "Networks" >>= _) = ((settings.orElse (.map [])).lookup "Networks" >>= _)
        rw [hself]
      · rfl

/-- An inspection looks for the networks in what it finds, and there is no looking into null. -/
theorem inspected_of_null (h : Entries.getText? fields "NetworkSettings" = some .null) :
    inspectedNetworks (.map fields) = .error (.mishap .missingMember) := by
  have hlookup : (Value.map fields).lookup "NetworkSettings" = .ok (some .null) := congrArg Except.ok h
  rw [inspectedNetworks, hlookup]
  rfl

/-- A listing reads null like settings without networks. -/
theorem listed_of_null (h : Entries.getText? fields "NetworkSettings" = some .null) :
    listedNetworks (.map fields) = .ok [] := by
  have hlookup : (Value.map fields).lookup "NetworkSettings" = .ok (some .null) := congrArg Except.ok h
  rw [listedNetworks, hlookup]
  rfl

/-- Inspection and listing read the same networks off a record, unless null is where its settings should be. -/
theorem IsRecord.inspected_eq_listed (h : IsRecord fields)
    (hnull : Entries.getText? fields "NetworkSettings" ≠ some .null) :
    inspectedNetworks (.map fields) = listedNetworks (.map fields) := by
  refine Engine.inspected_eq_listed fun settings hlookup => ?_
  have hget : Entries.getText? fields "NetworkSettings" = some settings := Except.ok.inj hlookup
  obtain rfl | ⟨inner, rfl, -⟩ := h.settings settings hget
  · exact absurd hget hnull
  · cases inner with
    | nil => exact .inr rfl
    | cons entry rest => exact .inl rfl

/-- Every record can be listed. -/
theorem IsRecord.listed (h : IsRecord fields) : ∃ found, listedNetworks (.map fields) = .ok found := by
  have hlookup : (Value.map fields).lookup "NetworkSettings" =
    .ok (Entries.getText? fields "NetworkSettings") := rfl
  rw [listedNetworks, hlookup]
  -- Null settings are replaced by the empty mapping, which has no networks to be looked at.
  have hinner {inner : Entries} (hinner : Optionally IsNetworks inner "Networks") :
      ∃ found, networks ((Entries.getText? inner "Networks").getD .null) = .ok found := by
    cases hget : Entries.getText? inner "Networks" with
    | none => exact networks_of_isNetworks (.inl rfl)
    | some value => exact networks_of_isNetworks (hinner value hget)
  cases hget : Entries.getText? fields "NetworkSettings" with
  | none => exact ⟨[], rfl⟩
  | some settings =>
    obtain rfl | ⟨inner, rfl, hnetworks⟩ := h.settings settings hget
    · exact ⟨[], rfl⟩
    · obtain ⟨found, hfound⟩ := hinner hnetworks
      refine ⟨found, ?_⟩
      show (((Value.map inner).orElse (.map [])).lookup "Networks" >>= fun value => networks (value.getD .null)) = _
      rw [orElse_map]
      exact hfound

/-- A record can be listed, with the networks that are found in it. -/
theorem IsRecord.ofValue (h : IsRecord fields) : ∃ entry, Listed.ofValue (.map fields) = .ok entry ∧
    listedNetworks (.map fields) = .ok entry.networks := by
  obtain ⟨id, hid⟩ := h.id
  obtain ⟨found, hfound⟩ := h.listed
  have hrequire : Value.require (.map fields) "Id" = .ok (.text id) := by
    rw [Value.require, hid]
    rfl
  refine ⟨⟨.text (String.ofList (id.toList.take shortIdLength)),
    (Entries.getText? fields "State").getD (.text ""),
    ((Entries.getText? fields "Labels").getD .null).orElse (.map []), found⟩, ?_, hfound⟩
  rw [Listed.ofValue, hrequire, hfound]
  rfl

/-! ### Asking an engine -/

variable {σ : Type} {engine : Answerer interface σ} {s : σ}

/-- Inspecting is asking the engine for the record and reading the networks off it. -/
theorem run_inspect {name : String} {record : Value} (h : (engine (.inspect name) s).1 = .ok record) :
    ((inspect name).run engine s).1 = inspectedNetworks record := by
  rw [inspect, Program.run_bind, Program.run_question]
  dsimp only
  rw [h]
  rfl

/-- Listing is asking for the records of all containers with a cluster, and reading each. -/
theorem run_list {records : List Value}
    (h : (engine (.list true Container.clusterLabel) s).1 = .ok (.list records)) :
    (list.run engine s).1 = records.mapM Listed.ofValue := by
  rw [list, Program.run_bind, Program.run_question]
  dsimp only
  rw [h]
  rfl

/-- An inspection that is answered by a record reports the networks of an entry of a listing; or there are
none in the entry, the settings are null, and the inspection fails. -/
structure Agrees (engine : Answerer interface σ) (fields : Entries) (entry : Listed) : Prop where
  same : Entries.getText? fields "NetworkSettings" ≠ some .null → ∀ name s,
    (engine (.inspect name) s).1 = .ok (.map fields) → ((inspect name).run engine s).1 = .ok entry.networks
  null : Entries.getText? fields "NetworkSettings" = some .null → entry.networks = [] ∧ ∀ name s,
    (engine (.inspect name) s).1 = .ok (.map fields) →
      ((inspect name).run engine s).1 = .error (.mishap .missingMember)

/-- A record that was listed is inspected with the same result, or fails for its null. -/
theorem IsRecord.agrees (h : IsRecord fields) {entry : Listed}
    (hlisted : listedNetworks (.map fields) = .ok entry.networks) : Agrees engine fields entry where
  same hnull name s hanswer := by rw [run_inspect hanswer, h.inspected_eq_listed hnull, hlisted]
  null hnull := by
    rw [listed_of_null hnull] at hlisted
    refine ⟨(Except.ok.inj hlisted).symm, fun name s hanswer => ?_⟩
    rw [run_inspect hanswer, inspected_of_null hnull]

/-- All records that have the form can be listed, and each agrees with its inspection. -/
theorem agrees_list {records : List Entries} (hrecords : ∀ fields ∈ records, IsRecord fields)
    (hlist : (engine (.list true Container.clusterLabel) s).1 = .ok (.list (records.map .map))) :
    ∃ entries, (list.run engine s).1 = .ok entries ∧ List.Forall₂ (Agrees engine) records entries := by
  rw [run_list hlist]
  clear hlist
  induction records with
  | nil => exact ⟨[], rfl, .nil⟩
  | cons fields rest ih =>
    obtain ⟨hfields, hrest⟩ := List.forall_mem_cons.1 hrecords
    obtain ⟨entry, hentry, hnetworks⟩ := hfields.ofValue
    obtain ⟨entries, hentries, hagrees⟩ := ih hrest
    refine ⟨entry :: entries, ?_, .cons (hfields.agrees hnetworks) hagrees⟩
    rw [List.map_cons, List.mapM_cons, hentry, hentries]
    rfl

end Engine

/-! ### Pods -/

namespace Pod

variable {τ σ : Type} {settings : Settings τ} {server : Answerer (interface τ) σ}

/-- An inspection reads the status of a pod just as a listing does. -/
theorem run_inspect {s : σ} {name : String} {pod : Observed}
    (h : (server (.read settings.space name) s).1 = .ok (some pod)) :
    ((inspect settings name).run server s).1 = networksOfEntries pod.entries := by
  have hread : (read settings name).run server s = (.ok pod, (server (.read settings.space name) s).2) := by
    rw [read, Program.run_bind, ask, Program.run_question]
    dsimp only
    rw [h]
    rfl
  rw [inspect, Program.run_bind, hread]
  exact (yields_reportStatus _).run server _

/-- If pods are listed at all, each is inspected with the networks that it is listed with. -/
theorem inspect_of_listed {s : σ} {pods : List Observed} {containers : List Info}
    (hanswer : (server (.list settings.space Container.clusterLabel) s).1 = .ok (some pods))
    (hlist : ((list settings).run server s).1 = .ok containers) :
    List.Forall₂ (fun pod container => ∀ name t, (server (.read settings.space name) t).1 = .ok (some pod) →
      ((inspect settings name).run server t).1 = .ok container.networks) pods containers := by
  obtain hsound | ⟨before, pod, after, rfl, hbefore, hpod⟩ := @all_or_first _ Sound pods
  · rw [run_list_of_yields hanswer (yields_infos hsound)] at hlist
    obtain rfl : pods.map Observed.shown = containers := Except.ok.inj hlist
    rw [List.forall₂_map_right_iff, List.forall₂_same]
    intro pod hpod name t hread
    rw [run_inspect hread, networksOfEntries_of_passes (hsound pod hpod)]
    rfl
  · obtain ⟨what, hbreaks⟩ := (sound_or_breaks pod).resolve_left hpod
    rw [run_list_of_yields hanswer (yields_infos_of_breaks hbefore hbreaks)] at hlist
    cases hlist

end Pod

/-! ### Registered addresses -/

/-- The addresses that a node is shown with, the one of version 4 first. -/
def Node.addresses (node : Node) : List Value := [node.ipv4, node.ipv6].filter (·.isTruthy)

namespace Manager

/-- The address that a call puts into the service of names. -/
def Call.request? : Call → Option Dns.PutRequest
  | .put request => some request
  | _ => none

/-- What the DNS service was asked. -/
def requests (events : List (Event interface)) : List Dns.PutRequest :=
  events.filterMap fun event => event.call.request?

/-- Log entries are no requests. -/
theorem requests_spoken (events : List (Event interface)) : requests (spoken events) = requests events := by
  rw [requests, spoken, List.filterMap_filter]
  refine List.filterMap_congr fun event _ => ?_
  obtain ⟨call, reply⟩ := event
  cases call <;> rfl

/-- Registered are the addresses that the container is shown with. -/
theorem registrations_eq_addresses {m : Manager} {registrar : Dns.Registrar}
    (h : m.registrar = some registrar) (containerName : String) (container : Info) :
    m.registrations containerName container.networks =
      (Node.ofContainer m.config.networkName container).addresses.map
        (registrar.request s!"{containerName}.{m.config.dnsDomainSuffix}") := by
  rw [registrations, h, Node.addresses, Node.ofContainer]
  cases container.networks.address? m.config.networkName <;> rfl

/-- What is asked is all that is requested. -/
theorem requests_of_calls {events : List (Event interface)} {asked : List Dns.PutRequest}
    (h : events.map (·.call) = asked.map .put) : requests events = asked := by
  have hcalls : requests events = (events.map (·.call)).filterMap Call.request? := by
    rw [requests, List.filterMap_map]
    rfl
  rw [hcalls, h, List.filterMap_map]
  exact List.filterMap_some

/-- A node that was inspected is registered with the networks that were reported. -/
theorem requests_of_inspected {m : Manager} {caller : Caller} {id : String} {expiry : Moment}
    {node : NodeDemand} {events : List (Event interface)} {outcome : Except Fault String}
    (h : (m.allocateNode caller id expiry node).Trace events outcome)
    (hservice : ∀ event ∈ events, ByService event) {container : String} {networks : Networks}
    (hinspected : ⟨.inspect container, .ok networks⟩ ∈ events) :
    requests events = m.registrations (Container.nameFor id node.name) networks := by
  cases hresolved : node.resolvedVersion with
  | error fault =>
    rw [allocateNode, hresolved] at h
    obtain ⟨_, rest, rfl, hopening⟩ := Program.Trace.of_question_bind h
    cases hopening
    obtain _ | ⟨_, ⟨⟩⟩ := hinspected
  | ok version =>
    have hcourse := trace_allocateNode hresolved h hservice
    have hspoken : ⟨.inspect container, .ok networks⟩ ∈ spoken events :=
      List.mem_filter.2 ⟨hinspected, rfl⟩
    rw [← requests_spoken]
    -- Of the courses only the last one has inspected anything, and its inspection is the one before its
    -- requests.
    generalize spoken events = said at hcourse hspoken
    cases hcourse with
    | notCreated fault => simp at hspoken
    | notStarted other fault => simp at hspoken
    | notInspected other fault => simp at hspoken
    | registered other found puts hputs =>
      have hunasked : ⟨.inspect container, .ok networks⟩ ∉ puts := fun hmem => by
        have hcall := List.mem_map_of_mem (f := fun event : Event interface => event.call) hmem
        rw [hputs] at hcall
        simp at hcall
      simp only [List.mem_cons, hunasked, or_false] at hspoken
      rcases hspoken with hcreate | hstart | hinspect
      · cases hcreate
      · cases hstart
      · cases hinspect
        show requests puts = _
        exact requests_of_calls hputs

end Manager

/-! ### What is registered is what is shown -/

/-- An inspection agrees with a listing about the networks of a container, unless an engine tells of null
settings, and about those of every pod. So the addresses that an allocation registers for the networks that
it found are the ones that a listed container with these networks is shown with. -/
theorem inspection_agrees_with_listing {σ τ ρ : Type} (engine : Answerer Engine.interface σ)
    (settings : Pod.Settings τ) (server : Answerer (Pod.interface τ) ρ) (m : Manager) :
    (∀ (s : σ) (records : List Entries), (∀ fields ∈ records, Engine.IsRecord fields) →
      (engine (.list true Container.clusterLabel) s).1 = .ok (.list (records.map .map)) →
      ∃ entries, (Engine.list.run engine s).1 = .ok entries ∧
        List.Forall₂ (Engine.Agrees engine) records entries) ∧
    (∀ (s : ρ) (pods : List Pod.Observed) (containers : List Info),
      (server (.list settings.space Container.clusterLabel) s).1 = .ok (some pods) →
      ((Pod.list settings).run server s).1 = .ok containers →
      List.Forall₂ (fun pod container => ∀ name t,
        (server (.read settings.space name) t).1 = .ok (some pod) →
          ((Pod.inspect settings name).run server t).1 = .ok container.networks) pods containers) ∧
    ∀ (registrar : Dns.Registrar) (caller : Caller) (id : String) (expiry : Moment) (node : NodeDemand)
      (events : List (Event Manager.interface)) (outcome : Except Fault String) (container : String)
      (listed : Info), m.registrar = some registrar →
      (m.allocateNode caller id expiry node).Trace events outcome →
      (∀ event ∈ events, Manager.ByService event) → ⟨.inspect container, .ok listed.networks⟩ ∈ events →
      Manager.requests events = (Node.ofContainer m.config.networkName listed).addresses.map
        (registrar.request s!"{Container.nameFor id node.name}.{m.config.dnsDomainSuffix}") := by
  refine ⟨?_, ?_, ?_⟩
  · intro s records hrecords hlist
    exact Engine.agrees_list hrecords hlist
  · intro s pods containers hanswer hlist
    exact Pod.inspect_of_listed hanswer hlist
  · intro registrar caller id expiry node events outcome container listed hregistrar htrace hservice hinspected
    rw [Manager.requests_of_inspected htrace hservice hinspected,
      Manager.registrations_eq_addresses hregistrar]

namespace Engine.Sample

/-- A record with networks, of which one has no settings. -/
def whole : Entries :=
  [(.text "Id", .text "aaaaaaaaaaaa"), (.text "NetworkSettings", .map [(.text "Networks", .map
    [(.text "macvlan0", .map [(.text "IPAddress", .text "10.0.0.2"), (.text "GlobalIPv6Address", .null)]),
      (.text "bridge", .null)])])]

/-- A record without settings. -/
def bare : Entries := [(.text "Id", .text "bbbbbbbbbbbb")]

/-- A record whose settings are null. -/
def void : Entries := [(.text "Id", .text "cccccccccccc"), (.text "NetworkSettings", .null)]

/-- What is found in the networks of a record. -/
def found : Networks := [("macvlan0", some ⟨.text "10.0.0.2", .text ""⟩), ("bridge", some .none)]

/-- Three containers: with all fields, with as few as possible, and with null for its settings. -/
def records : Table Entries := [("aaaaaaaaaaaa", whole), ("bbbbbbbbbbbb", bare), ("cccccccccccc", void)]

/-- An engine that tells of the records, and of nothing else. -/
def engine : Answerer interface Unit
  | .log _, _ => ((), ())
  | .hostConfig .., _ => (.null, ())
  | .inspect name, _ => ((records.get? name).elim (.error (.notFound name)) fun fields => .ok (.map fields), ())
  | .list .., _ => (.ok (.list (records.map fun record => .map record.2)), ())
  | .create .., _ => (.error (.failed "full"), ())
  | .start name, _ => (.error (.notFound name), ())
  | .stop name, _ => (.error (.notFound name), ())

theorem isRecord_whole : IsRecord whole where
  id := ⟨_, rfl⟩
  settings value hvalue := by
    cases hvalue
    refine .inr ⟨_, rfl, fun networks hnetworks => ?_⟩
    cases hnetworks
    refine .inr ⟨_, rfl, List.forall_mem_cons.2 ⟨.inr ⟨_, rfl, fun v4 hv4 => ?_, fun v6 hv6 => ?_⟩, ?_⟩⟩
    · cases hv4
      exact .inr ⟨_, rfl⟩
    · cases hv6
      exact .inl rfl
    · exact List.forall_mem_singleton.2 (.inl rfl)

theorem isRecord_bare : IsRecord bare where
  id := ⟨_, rfl⟩
  settings _ hvalue := nomatch hvalue

theorem isRecord_void : IsRecord void where
  id := ⟨_, rfl⟩
  settings value hvalue := by
    cases hvalue
    exact .inl rfl

theorem isRecord_records : ∀ fields ∈ records.map (·.2), IsRecord fields := by
  simp only [records, List.map_cons, List.map_nil, List.forall_mem_cons]
  exact ⟨isRecord_whole, isRecord_bare, isRecord_void, by simp⟩

end Engine.Sample

/-- A cluster in which the pods that are listed can be read. -/
def Pod.Sample.reads (pods : List Pod.Observed) : Answerer (Pod.interface Double) Unit
  | .read _ name, _ => (.ok (pods.find? fun pod => pod.name == name), ())
  | call, s => Pod.Sample.listsOnly pods call s

namespace Manager.Sample

def manager : Manager := ⟨{}, some (.ofHost "dns.test")⟩

/-- Surroundings in which a container that is started gets networks. -/
def scene (networks : Networks) : Scene World where
  service _ _ := .ok ⟨200, ""⟩
  rest := .initial { World.Plan.smooth with made := fun _ => ("aaaaaaaaaaaa", networks) } .yaml World.Sample.newYear

/-- The allocation of a node there. -/
def allocation (networks : Networks) : List (Event interface) :=
  (manager.allocateNode World.Sample.ann "c1" World.Sample.hourLater (World.Sample.node "kv")).events
    (answerScene World.answer) (scene networks)

end Manager.Sample

/-- Of three records one has null settings; of two pods one has a status that is cut off; and the node whose
inspection finds what the first record tells is registered under its one address. -/
theorem inspection_agrees_with_listing_of_mixed :
    (∀ fields ∈ Engine.Sample.records.map (·.2), Engine.IsRecord fields) ∧
    (∃ whole bare void, (Engine.list.run Engine.Sample.engine ()).1 = .ok [whole, bare, void] ∧
      ((Engine.inspect "aaaaaaaaaaaa").run Engine.Sample.engine ()).1 = .ok whole.networks ∧
      whole.networks = Engine.Sample.found ∧
      ((Engine.inspect "bbbbbbbbbbbb").run Engine.Sample.engine ()).1 = .ok bare.networks ∧
      ((Engine.inspect "cccccccccccc").run Engine.Sample.engine ()).1 = .error (.mishap .missingMember) ∧
      void.networks = []) ∧
    (∃ torn kv, ((Pod.list .standard).run (Pod.Sample.reads Pod.Sample.torn) ()).1 = .ok [torn, kv] ∧
      ((Pod.inspect .standard "kv").run (Pod.Sample.reads Pod.Sample.torn) ()).1 = .ok kv.networks) ∧
    Manager.requests (Manager.Sample.allocation Engine.Sample.found) =
      [(Dns.Registrar.ofHost "dns.test").request "dynclsr-c1-kv.couchbase.com" (.text "10.0.0.2")] := by
  obtain ⟨hengine, hpods, hregistered⟩ := inspection_agrees_with_listing Engine.Sample.engine
    .standard (Pod.Sample.reads Pod.Sample.torn) Manager.Sample.manager
  refine ⟨Engine.Sample.isRecord_records, ?_, ?_, ?_⟩
  · -- The three records agree with what is listed of them in their order; only the whole one is evaluated.
    obtain ⟨entries, hlist, hagrees⟩ := hengine () _ Engine.Sample.isRecord_records rfl
    obtain _ | ⟨hwhole, _ | ⟨hbare, _ | ⟨hvoid, _ | _⟩⟩⟩ := hagrees
    have hwhole' := hwhole.same nofun "aaaaaaaaaaaa" () rfl
    have hfound : ((Engine.inspect "aaaaaaaaaaaa").run Engine.Sample.engine ()).1 = .ok Engine.Sample.found := rfl
    exact ⟨_, _, _, hlist, hwhole', Except.ok.inj (hwhole'.symm.trans hfound), hbare.same nofun _ _ rfl,
      (hvoid.null rfl).2 _ _ rfl, (hvoid.null rfl).1⟩
  · have hlist : ((Pod.list .standard).run (Pod.Sample.reads Pod.Sample.torn) ()).1 =
        .ok (Pod.Sample.torn.map Pod.Observed.shown) :=
      Pod.run_list_of_yields rfl (Pod.yields_infos Pod.Sample.sound_torn)
    have hagrees := hpods () _ _ rfl hlist
    obtain _ | ⟨-, _ | ⟨hkv, -⟩⟩ := hagrees
    exact ⟨_, _, hlist, hkv _ _ rfl⟩
  · exact hregistered _ _ _ _ _ _ _ "aaaaaaaaaaaa" ⟨"", "", [], Engine.Sample.found⟩ rfl
      (Program.trace_run _ _ _) (Manager.byService_events _ _ _) (List.mem_of_getElem? (i := 4) rfl)

/-- A record with null settings is listed without networks, and its inspection fails. -/
theorem inspection_fails_on_null_settings :
    Engine.IsRecord Engine.Sample.void ∧
      ((Engine.inspect "cccccccccccc").run Engine.Sample.engine ()).1 = .error (.mishap .missingMember) ∧
      ∃ whole bare void, (Engine.list.run Engine.Sample.engine ()).1 = .ok [whole, bare, void] ∧
        void.networks = [] := by
  have hrecord : (Engine.Sample.engine (.inspect "cccccccccccc") ()).1 = .ok (.map Engine.Sample.void) := rfl
  refine ⟨Engine.Sample.isRecord_void, ?_, _, _, _, rfl, rfl⟩
  rw [Engine.run_inspect hrecord]
  exact Engine.inspected_of_null rfl

end ClusterLease
