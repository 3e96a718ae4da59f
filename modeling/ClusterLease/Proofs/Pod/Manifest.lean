import Mathlib.Data.List.Nodup
import ClusterLease.Proofs.Pod.Api

/-!
Pods carry what was asked of their containers.

Binds are sorted, numbered and taken apart into volumes and mounts, which nothing but names ties together.
The names are all different (`nodup_volumeNames`), so that mounts and volumes put together again are the
binds (`binds_ofSpec`). With the annotations, which hold every label, and with the name servers, nothing is
lost: a document tells its whole manifest (`Manifest.document_injective`), and two pods are the same just if
the same was asked for (`spec_carried`).
-/

namespace ClusterLease

namespace Value

/-- What a document has under a path of keys. -/
def at? : Value → List String → Option Value
  | v, [] => some v
  | .map entries, key :: rest => (Entries.getText? entries key).bind (·.at? rest)
  | _, _ :: _ => none

/-- A document of fields tells all of its fields. -/
theorem object_injective : Function.Injective object := by
  intro fields others h
  refine List.map_injective_iff.2 ?_ (Value.map.inj h)
  rintro ⟨key, value⟩ ⟨other, twin⟩ hentry
  cases hentry
  rfl

end Value

namespace Pod

open Container (Spec)
open Value (object object_injective)

variable {spec other : Spec} {space otherSpace : String}

/-! ### Documents -/

theorem labelsDocument_injective : Function.Injective labelsDocument := by
  refine object_injective.comp (List.map_injective_iff.2 ?_)
  rintro ⟨key, text⟩ ⟨other, twin⟩ hentry
  cases hentry
  rfl

theorem Mount.document_injective : Function.Injective Mount.document := by
  rintro ⟨name, path, readOnly⟩ ⟨other, otherPath, otherReadOnly⟩ h
  cases object_injective h
  rfl

theorem Volume.document_injective : Function.Injective Volume.document := by
  rintro ⟨name, hostPath⟩ ⟨other, otherPath⟩ h
  cases object_injective h
  rfl

/-- Name servers as the document of a pod lists them. -/
def serversDocument (servers : List String) : Value := object [("nameservers", .list (servers.map .text))]

theorem serversDocument_injective : Function.Injective serversDocument := by
  intro servers others h
  have hfields := object_injective h
  simpa [List.map_inj_right] using hfields

/-- The settings of name servers in a pod's document are there just if the manifest has name servers. -/
theorem Manifest.document_dnsConfig (pod : Manifest) :
    pod.document.at? ["spec", "dnsConfig"] = pod.nameServers.map serversDocument := by
  rw [Manifest.document]
  cases pod.nameServers <;> rfl

theorem Manifest.document_dnsPolicy (pod : Manifest) :
    pod.document.at? ["spec", "dnsPolicy"] = pod.nameServers.map fun _ => .text "None" := by
  rw [Manifest.document]
  cases pod.nameServers <;> rfl

/-- The document of a pod tells its whole manifest. -/
theorem Manifest.document_injective : Function.Injective Manifest.document := by
  intro pod other h
  -- A pod without name servers has no entries for them, so that they are not told field by field.
  have hservers : pod.nameServers = other.nameServers := by
    refine Option.map_injective serversDocument_injective ?_
    rw [← document_dnsConfig, ← document_dnsConfig, h]
  have hfields := object_injective h
  simp only [List.cons_append, List.nil_append, List.cons.injEq, Prod.mk.injEq, true_and, and_true,
    object_injective.eq_iff, Value.text.injEq, Value.list.injEq, labelsDocument_injective.eq_iff,
    (List.map_injective_iff.2 Mount.document_injective).eq_iff,
    (List.map_injective_iff.2 Volume.document_injective).eq_iff] at hfields
  obtain ⟨⟨hannotations, hlabels, hname, hspace⟩, ⟨himage, hmounts⟩, -, hvolumes, -⟩ := hfields
  cases pod
  cases other
  subst hannotations hlabels hname hspace himage hmounts hvolumes hservers
  rfl

/-! ### Volumes and mounts -/

section Binds

variable {binds others : Labels}

/-- Volumes with different numbers have different names, by the digits of the numbers. -/
theorem volumeName_injective : Function.Injective volumeName := by
  intro i j h
  have hrepr : i.repr = j.repr := (String.append_right_inj "bind-").1 h
  calc i = Nat.ofDigitChars 10 i.repr.toList 0 := by rw [Nat.toList_repr, Nat.ofDigitChars_ten_toDigits]
    _ = Nat.ofDigitChars 10 j.repr.toList 0 := by rw [hrepr]
    _ = j := by rw [Nat.toList_repr, Nat.ofDigitChars_ten_toDigits]

theorem sortedBinds_perm (binds : Labels) : (sortedBinds binds).Perm binds := List.mergeSort_perm _ _

/-- Binds are numbered in the order of their host paths, so that their own order does not count. -/
theorem volumesAndMounts_eq_of_perm (h : binds.Distinct) (hperm : binds.Perm others) :
    volumesAndMounts binds = volumesAndMounts others := by
  -- Sorting by distinct host paths forgets the order that the binds came in.
  have hsorted : sortedBinds binds = sortedBinds others := h.mergeSort_eq_of_perm hperm
  rw [volumesAndMounts, volumesAndMounts, hsorted, hperm.length_eq]

/-- Every mount is made with its volume, names it, and is read-only. -/
theorem mem_volumesAndMounts {volume : Volume} {mount : Mount}
    (h : (volume, mount) ∈ volumesAndMounts binds) : mount.name = volume.name ∧ mount.readOnly = true := by
  obtain ⟨⟨⟨hostPath, path⟩, index⟩, -, heq⟩ := List.mem_map.1 h
  cases heq
  exact ⟨rfl, rfl⟩

/-- The volumes are numbered from zero, one for each bind. -/
theorem volumeNames_volumesAndMounts (binds : Labels) :
    (volumesAndMounts binds).map (·.1.name) = (List.range binds.length).map volumeName := by
  have hlength : (List.range binds.length).length ≤ (sortedBinds binds).length := by
    rw [List.length_range, (sortedBinds_perm binds).length_eq]
  conv_rhs => rw [← List.map_snd_zip hlength]
  rw [volumesAndMounts, List.map_map, List.map_map]
  rfl

/-- Volume and mount put together again are the bind they were made from. -/
theorem binds_volumesAndMounts (binds : Labels) :
    (volumesAndMounts binds).map (fun entry => (entry.1.hostPath, entry.2.path)) = sortedBinds binds := by
  have hlength : (sortedBinds binds).length ≤ (List.range binds.length).length := by
    rw [List.length_range, (sortedBinds_perm binds).length_eq]
  conv_rhs => rw [← List.map_fst_zip hlength]
  rw [volumesAndMounts, List.map_map]
  rfl

theorem nodup_volumeNames (binds : Labels) : ((volumesAndMounts binds).map (·.1.name)).Nodup := by
  rw [volumeNames_volumesAndMounts]
  exact List.nodup_range.map volumeName_injective

theorem mountNames_volumesAndMounts (binds : Labels) :
    (volumesAndMounts binds).map (·.2.name) = (volumesAndMounts binds).map (·.1.name) :=
  List.map_congr_left fun _ hentry => (mem_volumesAndMounts hentry).1

end Binds

/-! ### What a pod carries -/

/-- The host paths of a pod's volumes, by the names of the volumes. -/
def Manifest.hostPaths (pod : Manifest) : Table String :=
  pod.volumes.map fun volume => (volume.name, volume.hostPath)

/-- The binds of a pod: a mount shows, at its path, the volume that it names. -/
def Manifest.binds (pod : Manifest) : Labels :=
  pod.mounts.filterMap fun mount =>
    (pod.hostPaths.get? mount.name).map fun hostPath => (hostPath, mount.path)

/-- A pod carries what was asked of its container. Each mount has one volume and each volume one mount, and
together they are the binds; name servers are set, with the policy to use no others, just if there are some;
and the annotations are the labels with the network put among them. -/
structure Carries (spec : Spec) (pod : Manifest) : Prop where
  image : pod.image = spec.image
  volumeNames : (pod.volumes.map (·.name)).Nodup
  backed : ∀ mount ∈ pod.mounts, (pod.volumes.map (·.name)).count mount.name = 1
  mounted : ∀ volume ∈ pod.volumes, (pod.mounts.map (·.name)).count volume.name = 1
  readOnly : ∀ mount ∈ pod.mounts, mount.readOnly = true
  binds : pod.binds.Perm spec.binds
  dnsConfig : pod.document.at? ["spec", "dnsConfig"] =
    if spec.dnsServers = [] then none else some (serversDocument spec.dnsServers)
  dnsPolicy : pod.document.at? ["spec", "dnsPolicy"] =
    if spec.dnsServers = [] then none else some (.text "None")
  annotations : ∀ key, pod.annotations.get? key =
    if key = networksAnnotation then some spec.network else spec.labels.get? key
  distinct : spec.labels.Distinct → pod.annotations.Distinct

theorem volumeNames_ofSpec (spec : Spec) (space : String) :
    (Manifest.ofSpec spec space).volumes.map (·.name) = (volumesAndMounts spec.binds).map (·.1.name) := by
  rw [Manifest.ofSpec, List.map_map]
  rfl

theorem nodup_volumeNames_ofSpec (spec : Spec) (space : String) :
    ((Manifest.ofSpec spec space).volumes.map (·.name)).Nodup :=
  volumeNames_ofSpec spec space ▸ nodup_volumeNames spec.binds

theorem mountNames_ofSpec (spec : Spec) (space : String) :
    (Manifest.ofSpec spec space).mounts.map (·.name) =
      (Manifest.ofSpec spec space).volumes.map (·.name) := by
  rw [volumeNames_ofSpec, ← mountNames_volumesAndMounts, Manifest.ofSpec, List.map_map]
  rfl

theorem nameServers_ofSpec (spec : Spec) (space : String) : (Manifest.ofSpec spec space).nameServers =
    if spec.dnsServers = [] then none else some spec.dnsServers := by
  simp only [Manifest.ofSpec, List.isEmpty_iff]

theorem dnsServers_ofSpec (spec : Spec) (space : String) :
    (Manifest.ofSpec spec space).nameServers.getD [] = spec.dnsServers := by
  rw [nameServers_ofSpec]
  split
  · next hnone => exact hnone.symm
  · rfl

/-- Every mount finds the volume that it was made with, so that nothing is lost between the two lists. -/
theorem binds_ofSpec (spec : Spec) (space : String) :
    (Manifest.ofSpec spec space).binds = sortedBinds spec.binds := by
  let pod := Manifest.ofSpec spec space
  -- Names of volumes are all different, so that looking one up gives the very volume of the mount.
  have hdistinct : pod.hostPaths.Distinct := by
    rw [Table.Distinct, Manifest.hostPaths, List.map_map]
    exact nodup_volumeNames_ofSpec spec space
  have hfound : ∀ entry ∈ volumesAndMounts spec.binds,
      pod.hostPaths.get? entry.2.name = some entry.1.hostPath := by
    intro entry hentry
    rw [(mem_volumesAndMounts hentry).1, hdistinct.get?_eq_some]
    exact List.mem_map_of_mem (List.mem_map_of_mem hentry)
  calc pod.binds
    _ = (volumesAndMounts spec.binds).filterMap fun entry =>
        (pod.hostPaths.get? entry.2.name).map fun hostPath => (hostPath, entry.2.path) :=
      List.filterMap_map
    _ = (volumesAndMounts spec.binds).filterMap fun entry => some (entry.1.hostPath, entry.2.path) :=
      List.filterMap_congr fun entry hentry => by rw [hfound entry hentry, Option.map_some]
    _ = sortedBinds spec.binds := by
      rw [← binds_volumesAndMounts]
      exact congrFun List.filterMap_eq_map _

/-- The pod made of a specification carries all of it. -/
theorem carries_ofSpec (spec : Spec) (space : String) : Carries spec (Manifest.ofSpec spec space) where
  image := rfl
  volumeNames := nodup_volumeNames_ofSpec spec space
  backed mount hmount := by
    refine List.count_eq_one_of_mem (nodup_volumeNames_ofSpec spec space) ?_
    rw [← mountNames_ofSpec]
    exact List.mem_map_of_mem hmount
  mounted volume hvolume := by
    rw [mountNames_ofSpec]
    exact List.count_eq_one_of_mem (nodup_volumeNames_ofSpec spec space) (List.mem_map_of_mem hvolume)
  readOnly mount hmount := by
    obtain ⟨entry, hentry, rfl⟩ := List.mem_map.1 hmount
    exact (mem_volumesAndMounts hentry).2
  binds := binds_ofSpec spec space ▸ sortedBinds_perm spec.binds
  dnsConfig := by
    rw [Manifest.document_dnsConfig, nameServers_ofSpec, apply_ite (Option.map serversDocument)]
    rfl
  dnsPolicy := by
    rw [Manifest.document_dnsPolicy, nameServers_ofSpec, apply_ite (Option.map _)]
    rfl
  annotations key := by rw [annotations_ofSpec, Table.get?_put]
  distinct h := h.put _ _

/-! ### Pods that are the same -/

/-- Two pods are the same if their documents are, but for the order of labels and annotations. -/
structure Manifest.Same (pod other : Manifest) : Prop where
  labels : ∀ key, pod.labels.get? key = other.labels.get? key
  annotations : ∀ key, pod.annotations.get? key = other.annotations.get? key
  document : pod.document =
    { other with labels := pod.labels, annotations := pod.annotations }.document

/-- Two containers are asked for alike. Only what pods do not have may differ, and the label that gives way
to the annotation of the network. -/
structure AskedAlike (spec other : Spec) : Prop where
  name : nameFor spec.name = nameFor other.name
  image : spec.image = other.image
  network : spec.network = other.network
  binds : spec.binds.Perm other.binds
  dnsServers : spec.dnsServers = other.dnsServers
  labels : ∀ key ≠ networksAnnotation, spec.labels.get? key = other.labels.get? key

/-- Whatever is no mapping is equal in pods that are the same. -/
theorem Manifest.Same.fields {pod other : Manifest} (h : pod.Same other) :
    pod.name = other.name ∧ pod.space = other.space ∧ pod.image = other.image ∧ pod.binds = other.binds ∧
      pod.nameServers = other.nameServers := by
  have heq := Manifest.document_injective h.document
  refine ⟨by rw [heq], by rw [heq], by rw [heq], ?_, by rw [heq]⟩
  rw [heq]
  rfl

/-- From two pods that are the same, whatever was asked can be read back, and it is alike. -/
theorem AskedAlike.of_same (h : (Manifest.ofSpec spec space).Same (Manifest.ofSpec other otherSpace)) :
    AskedAlike spec other := by
  have hfirst := carries_ofSpec spec space
  have hsecond := carries_ofSpec other otherSpace
  obtain ⟨hname, -, himage, hbinds, hservers⟩ := h.fields
  constructor
  case name =>
    -- Looking for an assumption here would evaluate the names.
    rw [name_ofSpec, name_ofSpec] at hname
    exact hname
  case image => exact hfirst.image.symm.trans (himage.trans hsecond.image)
  case network =>
    have hnetworks := h.annotations networksAnnotation
    rw [hfirst.annotations, hsecond.annotations, if_pos rfl, if_pos rfl] at hnetworks
    exact Option.some.inj hnetworks
  case binds => exact hfirst.binds.symm.trans ((List.Perm.of_eq hbinds).trans hsecond.binds)
  case dnsServers => rw [← dnsServers_ofSpec spec space, ← dnsServers_ofSpec other otherSpace, hservers]
  case labels =>
    intro key hkey
    have hlabels := h.annotations key
    rwa [hfirst.annotations, hsecond.annotations, if_neg hkey, if_neg hkey] at hlabels

/-- What was asked alike makes pods that are the same. -/
theorem Manifest.Same.of_askedAlike (hbinds : spec.binds.Distinct) (h : AskedAlike spec other)
    (space : String) : (Manifest.ofSpec spec space).Same (Manifest.ofSpec other space) where
  labels key := by
    have hcluster := h.labels Container.clusterLabel (by decide)
    rw [labels_ofSpec, labels_ofSpec, labelsFor, labelsFor, hcluster]
  annotations key := by
    rw [(carries_ofSpec spec space).annotations, (carries_ofSpec other space).annotations, h.network]
    split
    · rfl
    · next hkey => exact h.labels key hkey
  document := by
    have hentries := volumesAndMounts_eq_of_perm hbinds h.binds
    simp only [Manifest.ofSpec, h.name, h.image, h.dnsServers, hentries]

/-- A pod carries all that was asked of its container, and pods are the same just if it was asked alike. -/
theorem spec_carried (hbinds : spec.binds.Distinct) (space : String) :
    Carries spec (Manifest.ofSpec spec space) ∧ ∀ other otherSpace,
      (Manifest.ofSpec spec space).Same (Manifest.ofSpec other otherSpace) ↔
        space = otherSpace ∧ AskedAlike spec other := by
  refine ⟨carries_ofSpec spec space, fun other otherSpace => ⟨fun h => ?_, ?_⟩⟩
  · exact ⟨h.fields.2.1, .of_same h⟩
  · rintro ⟨rfl, h⟩
    exact .of_askedAlike hbinds h space

namespace Sample

/-- A container with two binds, and with a label that has to give way to its network. -/
def asked : Spec := ⟨"dynclsr-c1-KV", "couchbase", "macvlan0",
  [( networksAnnotation, "other"), (Container.clusterLabel, "c1")],
  [(Container.localTimePath, Container.localTimePath), ("/data", "/srv")], ["10.1.1.53"], true⟩

/-- The same container asked for again, with its name in small letters, the binds the other way round, and
without the label that gives way. -/
def shuffled : Spec := { asked with
  name := "dynclsr-c1-kv"
  labels := [(Container.clusterLabel, "c1")]
  binds := [("/data", "/srv"), (Container.localTimePath, Container.localTimePath)]
  autoRemove := false }

/-- The same host paths and the same paths inside, bound crosswise. -/
def crossed : Spec := { asked with
  binds := [(Container.localTimePath, "/srv"), ("/data", Container.localTimePath)] }

theorem askedAlike_shuffled : AskedAlike asked shuffled where
  name := by decide +kernel
  image := rfl
  network := rfl
  binds := .swap ..
  dnsServers := rfl
  labels key hkey := by
    simp [asked, shuffled, Table.get?, List.lookup_cons, beq_eq_false_iff_ne.2 hkey]

end Sample

open Sample in
theorem spec_carried_of_shuffled : asked.binds.Distinct ∧ Carries asked (Manifest.ofSpec asked "db") ∧
    (Manifest.ofSpec asked "db").document.at? ["spec", "dnsPolicy"] = some (.text "None") ∧
    (Manifest.ofSpec asked "db").Same (Manifest.ofSpec shuffled "db") ∧
    ¬(Manifest.ofSpec asked "db").Same (Manifest.ofSpec crossed "db") := by
  have hbinds : asked.binds.Distinct := by decide
  obtain ⟨hcarries, hsame⟩ := spec_carried hbinds "db"
  refine ⟨hbinds, hcarries, hcarries.dnsPolicy, (hsame shuffled "db").2 ⟨rfl, askedAlike_shuffled⟩, ?_⟩
  intro h
  have hcrossed : asked.binds.Perm crossed.binds := ((hsame crossed "db").1 h).2.binds
  exact absurd hcrossed (by decide)

end Pod

end ClusterLease
