import Mathlib.Data.List.Forall2
import Mathlib.Data.List.Perm.Basic
import ClusterLease.Proofs.Pod.Listing
import ClusterLease.Proofs.Program.Lawful
import ClusterLease.Proofs.Table

/-!
What is listed of the pods that were asked for.

A server that keeps pods (`Keeps`) reports each with its name, labels and annotations, and adds no more
than a phase and the status of its networks. Labels that went into annotations come back from such a
server unchanged (`describes_of_reports`): what the daemon itself puts among them has keys of its own,
and real labels give way to annotations. So a listing has one container for every pod that carries a
cluster, with the labels that were asked for (`run_list`).
-/

namespace ClusterLease.Pod

open Container (Info Networks Spec)

/-! ### Network status -/

/-- An entry of a status names its network by a text, and its addresses by texts, where it names them. -/
inductive IsStatusEntry : Value → Prop where
  | intro {fields : Entries} {name : Option String} {ips : Option (List String)}
      (hname : Entries.getText? fields "name" = name.map .text)
      (hips : Entries.getText? fields "ips" = ips.map fun texts => .list (texts.map .text)) :
      IsStatusEntry (.map fields)

/-- The text of a status is that of a list of entries. -/
def IsStatus (raw : String) : Prop :=
  ∃ entries, Json.read? raw.toList = some (.list entries) ∧ ∀ entry ∈ entries, IsStatusEntry entry

theorem IsStatusEntry.passes {entry : Value} (h : IsStatusEntry entry) : Passes entry := by
  obtain ⟨-, hips⟩ := h
  refine ⟨_, rfl, fun ips hget => ?_⟩
  rw [hips] at hget
  obtain ⟨texts, -, rfl⟩ := Option.map_eq_some_iff.1 hget
  trivial

/-- Reading a proper status logs nothing and does not fail. -/
theorem networkStatus_ok {annotations : Labels}
    (h : ∀ raw, annotations.get? statusAnnotation = some raw → IsStatus raw) :
    ∃ networks, networkStatus annotations = ⟨[], .ok networks⟩ := by
  unfold networkStatus Labels.getD
  cases hraw : annotations.get? statusAnnotation with
  | none => exact ⟨[], rfl⟩
  | some raw =>
    obtain ⟨entries, hread, hentries⟩ := h raw hraw
    have hnetworks := networksOfEntries_of_passes fun entry hentry => (hentries entry hentry).passes
    by_cases hempty : raw = ""
    · exact ⟨[], by rw [hempty]; rfl⟩
    · refine ⟨networksOf entries, ?_⟩
      rw [Option.getD_some]
      split
      · contradiction
      · rw [readStatus, hread, ← hnetworks]

/-! ### What a server reports -/

/-- A pod is reported with the name, labels and annotations that it was asked for with. Its phase is added,
and an annotation with the status of its networks may be. -/
structure Reports (pod : Manifest) (seen : Observed) : Prop where
  name : seen.name = pod.name
  labels : ∀ key, Table.get? (seen.labels.getD []) key = pod.labels.get? key
  annotations : ∀ key ≠ statusAnnotation,
    Table.get? (seen.annotations.getD []) key = pod.annotations.get? key
  status : ∀ raw, Table.get? (seen.annotations.getD []) statusAnnotation = some raw →
    pod.annotations.get? statusAnnotation = some raw ∨ IsStatus raw
  distinct : pod.annotations.Distinct → Table.Distinct (seen.annotations.getD [])

/-- The pod is in a namespace and has a label with some key. -/
def Selected (space selector : String) (pod : Manifest) : Prop :=
  pod.space = space ∧ (pod.labels.get? selector).isSome

instance (space selector : String) (pod : Manifest) : Decidable (Selected space selector pod) :=
  inferInstanceAs (Decidable (_ ∧ _))

variable {τ σ : Type}

/-- A server keeps the pods that it was asked for, and tells those that are selected. -/
structure Keeps (server : Answerer (interface τ) σ) (pods : σ → List Manifest) : Prop where
  create : ∀ space pod s, (∀ other ∈ pods s, other.space = space → other.name ≠ pod.name) →
    ∃ seen, (server (.create space pod) s).1 = .ok (some seen) ∧ Reports pod seen ∧
      (pods (server (.create space pod) s).2).Perm (pods s ++ [pod])
  list : ∀ space selector s, ∃ listed seen,
    (server (.list space selector) s).1 = .ok (some seen) ∧ List.Forall₂ Reports listed seen ∧
      listed.Perm ((pods s).filter fun pod => Selected space selector pod)
  log : ∀ entry s, pods (server (.log entry) s).2 = pods s

/-! ### Labels -/

/-- The keys that are the daemon's own, or the server's. -/
def ownKeys : List String := ["app", networksAnnotation, statusAnnotation]

/-- The labels of a container that can be asked of a cluster: no key comes twice, and none belongs to an
annotation of the networks. -/
structure Plain (labels : Labels) : Prop where
  distinct : labels.Distinct
  networks : labels.get? networksAnnotation = none
  status : labels.get? statusAnnotation = none

/-- A container is the one that was asked for: it has all labels that it was asked for with, and others
under own keys only. -/
structure Describes (spec : Spec) (container : Info) : Prop where
  id : container.id = nameFor spec.name
  labels : ∀ key value, spec.labels.get? key = some value → container.labels.get? key = some value
  others : ∀ key ∉ ownKeys, container.labels.get? key = spec.labels.get? key

theorem name_ofSpec (spec : Spec) (space : String) :
    (Manifest.ofSpec spec space).name = nameFor spec.name := by
  rw [Manifest.ofSpec]

theorem labels_ofSpec (spec : Spec) (space : String) :
    (Manifest.ofSpec spec space).labels = labelsFor spec.labels := rfl

/-- All the labels of a specification travel as annotations, the requested network beside them. -/
theorem annotations_ofSpec (spec : Spec) (space : String) : (Manifest.ofSpec spec space).annotations =
    Table.put spec.labels networksAnnotation spec.network := rfl

/-- Of a specification's labels only the cluster's reaches the pod's own labels; `app` is the manager's mark. -/
theorem get?_labelsFor (labels : Labels) {key : String} (hkey : key ≠ "app") :
    (labelsFor labels).get? key = if key = Container.clusterLabel then labels.get? key else none := by
  have happ : Table.get? [("app", "dyncluster-node")] key = none := by
    simp [Table.get?, List.lookup_cons, beq_eq_false_iff_ne.2 hkey]
  unfold labelsFor
  dsimp only
  -- A specification without a cluster gives the manager's mark alone.
  split
  · next id hid =>
    rw [Table.get?_put, happ]
    split
    · next heq => rw [heq, hid]
    · rfl
  · next hnone =>
    rw [happ]
    split
    · next heq => rw [heq, hnone]
    · rfl

/-- Real labels give way to annotations, which hold every label that was asked for. -/
theorem get?_reported {spec : Spec} {space : String} {seen : Observed} (hplain : Plain spec.labels)
    (hseen : Reports (Manifest.ofSpec spec space) seen) (key : String) :
    (Table.merge (seen.labels.getD []) (seen.annotations.getD [])).get? key =
      (Table.get? (seen.annotations.getD []) key).or ((labelsFor spec.labels).get? key) := by
  have hdistinct : Table.Distinct (seen.annotations.getD []) :=
    hseen.distinct (annotations_ofSpec spec space ▸ hplain.distinct.put _ _)
  rw [Table.get?_merge hdistinct, hseen.labels, labels_ofSpec]

/-- What a reported pod shows under a key that neither annotation of networks takes is the specification's
label. -/
theorem get?_annotations {spec : Spec} {space : String} {seen : Observed}
    (hseen : Reports (Manifest.ofSpec spec space) seen) {key : String}
    (hnetworks : key ≠ networksAnnotation) (hstatus : key ≠ statusAnnotation) :
    Table.get? (seen.annotations.getD []) key = spec.labels.get? key := by
  rw [hseen.annotations key hstatus, annotations_ofSpec, Table.get?_put, if_neg hnetworks]

/-- A pod with a proper status is listed without asking anything. -/
theorem info_eq {seen : Observed} {networks : Networks}
    (h : networkStatus (seen.annotations.getD []) = ⟨[], .ok networks⟩) : ∃ state,
    (info seen : PodM τ Info) = pure ⟨seen.name, state,
      Table.merge (seen.labels.getD []) (seen.annotations.getD []), networks⟩ := by
  have hreport : (reportStatus (seen.annotations.getD []) : PodM τ Networks) = pure networks := by
    rw [reportStatus, h]
    rfl
  rw [info, hreport]
  exact ⟨_, rfl⟩

/-- A reported pod is listed as the container that was asked for. -/
theorem info_of_reports {spec : Spec} {space : String} {seen : Observed} (hplain : Plain spec.labels)
    (hseen : Reports (Manifest.ofSpec spec space) seen) :
    ∃ container, (info seen : PodM τ Info) = pure container ∧ Describes spec container := by
  -- No plain label has the key of the status, so whatever stands there was written by the network plugin.
  have hstatus : ∀ raw, Table.get? (seen.annotations.getD []) statusAnnotation = some raw → IsStatus raw := by
    intro raw hraw
    refine (hseen.status raw hraw).resolve_left fun hkept => ?_
    have hne : statusAnnotation ≠ networksAnnotation := by decide
    rw [annotations_ofSpec, Table.get?_put, if_neg hne, hplain.status] at hkept
    cases hkept
  obtain ⟨networks, hnetworks⟩ := networkStatus_ok hstatus
  obtain ⟨state, hinfo⟩ := info_eq (τ := τ) hnetworks
  refine ⟨_, hinfo, hseen.name.trans (name_ofSpec spec space), ?_, ?_⟩
  · intro key value hvalue
    have hne : key ≠ networksAnnotation ∧ key ≠ statusAnnotation := by
      constructor
      · rintro rfl
        cases hplain.networks.symm.trans hvalue
      · rintro rfl
        cases hplain.status.symm.trans hvalue
    rw [get?_reported hplain hseen, get?_annotations hseen hne.1 hne.2, hvalue]
    rfl
  · intro key hkey
    simp only [ownKeys, List.mem_cons, List.not_mem_nil, or_false, not_or] at hkey
    rw [get?_reported hplain hseen, get?_annotations hseen hkey.2.1 hkey.2.2, get?_labelsFor _ hkey.1]
    cases spec.labels.get? key <;> simp

/-! ### Runs -/

section Runs

variable {server : Answerer (interface τ) σ} {pods : σ → List Manifest} {specs : List Spec}

/-- The containers that belong to a cluster, or at least have its label. -/
def clustered (specs : List Spec) : List Spec :=
  specs.filter fun spec => (spec.labels.get? Container.clusterLabel).isSome

/-- A created pod is found by the listing exactly when its specification names a cluster. -/
theorem selected_ofSpec (spec : Spec) (space : String) :
    Selected space Container.clusterLabel (Manifest.ofSpec spec space) ↔
      (spec.labels.get? Container.clusterLabel).isSome := by
  have happ : Container.clusterLabel ≠ "app" := by decide
  have hspace : (Manifest.ofSpec spec space).space = space := by rw [Manifest.ofSpec]
  rw [Selected, hspace, labels_ofSpec, get?_labelsFor _ happ, if_pos rfl]
  simp

/-- Creating a pod whose name is free succeeds and adds that pod alone. -/
theorem run_create (hserver : Keeps server pods) (settings : Settings τ) (spec : Spec) (s : σ)
    (hfree : ∀ other ∈ pods s, other.space = settings.space → other.name ≠ nameFor spec.name) :
    ∃ after, (create settings spec).run server s = (.ok (nameFor spec.name), after) ∧
      (pods after).Perm (pods s ++ [Manifest.ofSpec spec settings.space]) := by
  obtain ⟨seen, hreply, hseen, hpods⟩ :=
    hserver.create settings.space (Manifest.ofSpec spec settings.space) s (name_ofSpec _ _ ▸ hfree)
  have hname : seen.name = nameFor spec.name := hseen.name.trans (name_ofSpec _ _)
  let created := (server (.create settings.space (Manifest.ofSpec spec settings.space)) s).2
  let entry := Log.info .pods s!"Created pod {seen.name} from {spec.image}"
  refine ⟨(server (.log entry) created).2, ?_, ?_⟩
  · rw [create, Program.run_bind, ask, Program.run_question]
    dsimp only
    rw [hreply, ← hname]
    rfl
  · rw [hserver.log]
    exact hpods

/-- Containers whose pods have different names can all be created. -/
theorem run_createAll (hserver : Keeps server pods) (settings : Settings τ) (s : σ)
    (hnames : (specs.map fun spec => nameFor spec.name).Nodup)
    (hfree : ∀ spec ∈ specs, ∀ other ∈ pods s, other.space = settings.space →
      other.name ≠ nameFor spec.name) :
    ∃ after, (specs.mapM (create settings)).run server s =
        (.ok (specs.map fun spec => nameFor spec.name), after) ∧
      (pods after).Perm (pods s ++ specs.map fun spec => Manifest.ofSpec spec settings.space) := by
  induction specs generalizing s with
  | nil => exact ⟨s, rfl, by simp⟩
  | cons spec rest ih =>
    obtain ⟨hnew, hnames⟩ := List.nodup_cons.1 hnames
    obtain ⟨hspec, hrest⟩ := List.forall_mem_cons.1 hfree
    obtain ⟨created, hcreate, hpods⟩ := run_create hserver settings spec s hspec
    -- The pod of this container does not stand in the way of the others, for it has another name.
    have hstill : ∀ later ∈ rest, ∀ other ∈ pods created, other.space = settings.space →
        other.name ≠ nameFor later.name := by
      intro later hlater other hother hspace
      rcases List.mem_append.1 (hpods.mem_iff.1 hother) with hold | hown
      · exact hrest later hlater other hold hspace
      · rw [List.mem_singleton.1 hown, name_ofSpec]
        exact fun heq => hnew (List.mem_map.2 ⟨later, hlater, heq.symm⟩)
    obtain ⟨after, hall, hafter⟩ := ih created hnames hstill
    refine ⟨after, ?_, hafter.trans ?_⟩
    · rw [List.mapM_cons, Program.run_bind, hcreate]
      dsimp only
      rw [Program.run_bind, hall]
      rfl
    · rw [List.map_cons, List.append_cons]
      exact hpods.append_right _

/-- Listed pods are described as the specifications they were made from, one for one and in order. -/
theorem infos_of_reports {space : String} {listed : List Spec} {seen : List Observed}
    (hplain : ∀ spec ∈ listed, Plain spec.labels)
    (hseen : List.Forall₂ (fun spec pod => Reports (Manifest.ofSpec spec space) pod) listed seen) :
    ∃ containers, (seen.mapM info : PodM τ (List Info)) = pure containers ∧
      List.Forall₂ Describes listed containers := by
  induction hseen with
  | nil => exact ⟨[], rfl, .nil⟩
  | cons hfirst _ ih =>
    obtain ⟨hspec, hrest⟩ := List.forall_mem_cons.1 hplain
    obtain ⟨container, hinfo, hdescribes⟩ := info_of_reports (τ := τ) hspec hfirst
    obtain ⟨others, hothers, hall⟩ := ih hrest
    refine ⟨container :: others, ?_, .cons hdescribes hall⟩
    rw [List.mapM_cons, hinfo, hothers]
    rfl

/-- Of the pods in a namespace those are listed whose containers have the label of a cluster. -/
theorem run_list (hserver : Keeps server pods) (settings : Settings τ) {others : List Manifest} {t : σ}
    (hplain : ∀ spec ∈ specs, Plain spec.labels)
    (hothers : ∀ pod ∈ others, pod.space ≠ settings.space)
    (hpods : (pods t).Perm (others ++ specs.map fun spec => Manifest.ofSpec spec settings.space)) :
    ∃ listed containers, listed.Perm (clustered specs) ∧
      ((list settings).run server t).1 = .ok containers ∧ List.Forall₂ Describes listed containers := by
  obtain ⟨selected, seen, hreply, hseen, hselected⟩ :=
    hserver.list settings.space Container.clusterLabel t
  have hnone : others.filter (fun pod => Selected settings.space Container.clusterLabel pod) = [] := by
    rw [List.filter_eq_nil_iff]
    intro pod hpod hsel
    exact hothers pod hpod (of_decide_eq_true hsel).1
  have hown : (specs.map fun spec => Manifest.ofSpec spec settings.space).filter
      (fun pod => Selected settings.space Container.clusterLabel pod) =
        (clustered specs).map fun spec => Manifest.ofSpec spec settings.space := by
    rw [List.filter_map, clustered]
    refine congrArg _ (List.filter_congr fun spec _ => ?_)
    rw [Function.comp_apply, Bool.eq_iff_iff, decide_eq_true_iff]
    exact selected_ofSpec spec _
  have hspecs : selected.Perm ((clustered specs).map fun spec => Manifest.ofSpec spec settings.space) := by
    refine hselected.trans ((hpods.filter _).trans ?_)
    rw [List.filter_append, hnone, hown, List.nil_append]
  -- The order of the listing is one of the containers.
  have hpointwise : List.Forall₂ (fun pod spec => pod = Manifest.ofSpec spec settings.space)
      ((clustered specs).map fun spec => Manifest.ofSpec spec settings.space) (clustered specs) := by
    rw [List.forall₂_map_left_iff, List.forall₂_same]
    exact fun _ _ => rfl
  obtain ⟨listed, hlisted, hperm⟩ := List.perm_comp_forall₂ hspecs hpointwise
  obtain rfl : selected = listed.map fun spec => Manifest.ofSpec spec settings.space := by
    rw [← List.forall₂_eq_eq_eq, List.forall₂_map_right_iff]
    exact hlisted
  rw [List.forall₂_map_left_iff] at hseen
  have hlistedPlain : ∀ spec ∈ listed, Plain spec.labels := fun spec hspec =>
    hplain spec (List.mem_filter.1 (hperm.mem_iff.1 hspec)).1
  obtain ⟨containers, hinfos, hdescribes⟩ := infos_of_reports (τ := τ) hlistedPlain hseen
  refine ⟨listed, containers, hperm, ?_, hdescribes⟩
  rw [list, Program.run_bind, ask, Program.run_question]
  dsimp only
  rw [hreply]
  show ((seen.mapM info : PodM τ (List Info)).run server _).1 = _
  rw [hinfos]
  rfl

end Runs

end ClusterLease.Pod
