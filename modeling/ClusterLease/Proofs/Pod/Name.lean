import ClusterLease.Container
import ClusterLease.Pod.Name
import ClusterLease.Proofs.Demand
import ClusterLease.Proofs.Text.HostName

/-!
Names of nodes stay apart.

The nodes of a cluster that passed its checks have distinct host names. A container name can be folded to
such a host name behind the text that all containers of the cluster share (`hostName_of_container`), and so
can the name of a pod, unless it was cut. So no two container names agree, even when case is ignored, and two
pod names agree at most where the digests in them do (`names_stay_apart`). Pods of different clusters never
agree, for every name begins with the id of the cluster (`stem_prefix_nameFor`).
-/

namespace ClusterLease.Pod

open Text

/-! ### What names begin with -/

/-- Eight hexadecimal digits in small letters. -/
structure IsClusterId (id : String) : Prop where
  length : id.length = 8
  digits : ∀ c ∈ id.toList, ('0' ≤ c ∧ c ≤ '9') ∨ ('a' ≤ c ∧ c ≤ 'f')

/-- What the names of all containers of a cluster begin with. -/
def stem (id : String) : String := "dynclsr-" ++ id

/-- A container's name is the stem of its cluster, a hyphen and the node's own name. -/
theorem containerName_eq (id name : String) : Container.nameFor id name = stem id ++ ("-" ++ name) := by
  rw [← String.append_assoc]
  rfl

theorem toList_stem (id : String) : (stem id).toList = "dynclsr".toList ++ '-' :: id.toList := by
  rw [stem, String.toList_append]
  rfl

section Id

variable {id : String}

theorem IsClusterId.ne_nil (hid : IsClusterId id) : id.toList ≠ [] := by
  intro h
  have hlength := hid.length
  rw [← String.length_toList, h] at hlength
  cases hlength

theorem IsClusterId.alphanumeric (hid : IsClusterId id) : ∀ c ∈ id.toList, isAlphanumeric c = true := by
  intro c hc
  simp only [Text.isAlphanumeric, Bool.or_eq_true, Bool.and_eq_true, decide_eq_true_eq]
  obtain h | ⟨hlow, hhigh⟩ := hid.digits c hc
  · exact .inr h
  · exact .inl ⟨hlow, Char.le_trans hhigh (show 'f' ≤ 'z' by decide)⟩

/-- All stems have one length, so that names of different clusters differ within their stems. -/
theorem IsClusterId.length_stem (hid : IsClusterId id) : (stem id).toList.length = 16 := by
  rw [toList_stem, List.length_append, List.length_cons, String.length_toList, String.length_toList,
    hid.length]
  rfl

theorem IsClusterId.isLabelChar_stem (hid : IsClusterId id) :
    ∀ c ∈ (stem id).toList, isLabelChar c = true := by
  intro c hc
  rw [toList_stem, List.mem_append, List.mem_cons] at hc
  obtain hc | rfl | hc := hc
  · exact List.all_eq_true.1 (by decide) c hc
  · decide
  · rw [isLabelChar, hid.alphanumeric c hc, Bool.true_or]

/-- There is no hyphen at the end of the shared text. -/
theorem IsClusterId.trimRight_stem (hid : IsClusterId id) :
    trimRight (· == '-') (stem id).toList = (stem id).toList := by
  have hright : trimRight (· == '-') id.toList = id.toList := by
    refine List.rdropWhile_eq_self_iff.2 fun hne hlast => ?_
    have hkept := hid.alphanumeric _ (List.getLast_mem hne)
    rw [beq_iff_eq.1 hlast] at hkept
    exact absurd hkept (by decide)
  rw [toList_stem, List.append_cons, trimRight_append, hright, if_neg hid.ne_nil]

/-- There is no hyphen at the start of a name. -/
theorem trim_stem_append (id : String) (ys : List Char) :
    trim (· == '-') ((stem id).toList ++ ys) = trimRight (· == '-') ((stem id).toList ++ ys) := by
  rw [toList_stem]
  rfl

/-- Folding a container's name leaves the stem as it is. -/
theorem IsClusterId.spelled_containerName (hid : IsClusterId id) (name : String) :
    spelled (Container.nameFor id name) = (stem id).toList ++ '-' :: spelled name := by
  have hhyphen : spelled "-" = ['-'] := spelled_eq_toList (List.all_eq_true.1 (by decide))
  rw [containerName_eq, spelled_append, spelled_append, spelled_eq_toList hid.isLabelChar_stem, hhyphen,
    List.singleton_append]

/-! ### Folded names -/

/-- A name folded for a host begins with the shared text, and goes on with the host name of the node. -/
theorem IsClusterId.hostName_of_container (hid : IsClusterId id) (name : String) :
    (hyphenate isAlphanumeric (lower (Container.nameFor id name)).toList).drop 17 =
      hyphenate isAlphanumeric (lower name).toList := by
  rw [← hyphenate_spelled rfl rfl, ← hyphenate_spelled rfl rfl name]
  set rest := hyphenateFrom isAlphanumeric true (spelled name) with hrest
  have hname : hyphenate isAlphanumeric (spelled name) = trimRight (· == '-') rest :=
    (trimRight_hyphenateFrom rfl _).symm
  have hfolded : hyphenate isAlphanumeric (spelled (Container.nameFor id name)) =
      trimRight (· == '-') ((stem id).toList ++ '-' :: rest) := by
    rw [hid.spelled_containerName, hyphenate, ← trim_stem_append, toList_stem, List.append_assoc,
      List.cons_append, hyphenateFrom_kept (List.all_eq_true.1 (by decide)) (by decide),
      hyphenateFrom_cons_hyphen rfl,
      hyphenateFrom_kept hid.alphanumeric hid.ne_nil, hyphenateFrom_cons_hyphen rfl, List.append_assoc,
      List.cons_append]
  rw [hfolded, hname, List.append_cons, trimRight_append]
  split
  · next hempty =>
    -- The hyphen behind the shared text is trimmed too.
    rw [hempty, trimRight_append, if_pos (by rfl), hid.trimRight_stem]
    exact List.drop_eq_nil_of_le (by rw [hid.length_stem]; decide)
  · exact List.drop_left' (by rw [List.length_append, hid.length_stem]; rfl)

/-- Every folded name begins with the shared text. -/
theorem IsClusterId.stem_prefix_normalName (hid : IsClusterId id) (name : String) :
    (stem id).toList <+: normalName (Container.nameFor id name) := by
  rw [normalName, ← hyphenate_spelled rfl rfl, hid.spelled_containerName, hyphenate,
    hyphenateFrom_kept hid.isLabelChar_stem (List.ne_nil_of_length_pos (by rw [hid.length_stem]; decide)),
    trim_stem_append]
  exact prefix_trimRight_append hid.trimRight_stem

/-- The hash in a shortened name has eight letters. -/
theorem length_nameDigest (containerName : String) : (nameDigest containerName).length = 8 := by
  have hlength : (Sha1.hexDigest containerName.toUTF8.toList).toList.length = 40 := by
    simp [Sha1.hexDigest]
  rw [nameDigest, List.length_take, hlength]
  rfl

theorem nameFor_of_short {containerName : String} (h : (normalName containerName).length ≤ 63) :
    nameFor containerName = String.ofList (normalName containerName) := by
  rw [nameFor]
  exact if_pos h

/-- A longer name is cut to 54 characters, and the hash stands behind the cut. -/
theorem nameFor_of_long {containerName : String} (h : 63 < (normalName containerName).length) :
    nameFor containerName = String.ofList
      (trimRight (· == '-') ((normalName containerName).take 54) ++ '-' :: nameDigest containerName) := by
  rw [nameFor]
  exact if_neg (Nat.not_le.2 h)

/-- Every name of a pod begins with the shared text, which is too short to be cut. -/
theorem IsClusterId.stem_prefix_nameFor (hid : IsClusterId id) (name : String) :
    (stem id).toList <+: (nameFor (Container.nameFor id name)).toList := by
  have hnormal := hid.stem_prefix_normalName name
  rcases Nat.lt_or_ge 63 (normalName (Container.nameFor id name)).length with hlong | hshort
  · obtain ⟨rest, hrest⟩ := hnormal
    rw [nameFor_of_long hlong, String.toList_ofList, ← hrest, List.take_append, hid.length_stem,
      List.take_of_length_le (by rw [hid.length_stem]; decide)]
    exact (prefix_trimRight_append hid.trimRight_stem).trans (List.prefix_append _ _)
  · rwa [nameFor_of_short hshort, String.toList_ofList]

/-! ### Different nodes, different names -/

/-- The two container names differ even when case is ignored, with any domain behind them, and the names of
their pods agree at most where a name was cut and the digest of it is met. -/
structure Apart (one other : String) : Prop where
  containers : lower one ≠ lower other
  hosts : ∀ suffix : String, lower s!"{one}.{suffix}" ≠ lower s!"{other}.{suffix}"
  short : (normalName one).length ≤ 63 → (normalName other).length ≤ 63 → nameFor one ≠ nameFor other
  long : 63 < (normalName one).length → 63 < (normalName other).length → nameFor one = nameFor other →
    (Sha1.hexDigest one.toUTF8.toList).toList.take 8 = (Sha1.hexDigest other.toUTF8.toList).toList.take 8
  shortLong : (normalName one).length ≤ 63 → 63 < (normalName other).length → nameFor one = nameFor other →
    '-' :: (Sha1.hexDigest other.toUTF8.toList).toList.take 8 <:+ normalName one
  longShort : 63 < (normalName one).length → (normalName other).length ≤ 63 → nameFor one = nameFor other →
    '-' :: (Sha1.hexDigest one.toUTF8.toList).toList.take 8 <:+ normalName other

/-- A name that was cut, but agrees with another one, ends in the digest. -/
theorem digest_suffix_nameFor {containerName : String} (h : 63 < (normalName containerName).length) :
    '-' :: nameDigest containerName <:+ (nameFor containerName).toList := by
  rw [nameFor_of_long h, String.toList_ofList]
  exact List.suffix_append _ _

/-- Names that differ with every other sign folded to hyphens are apart, since each of the ways to make a name
of them folds no more than that. -/
theorem apart_of_folded_ne {one other : String}
    (h : hyphenate isAlphanumeric (lower one).toList ≠ hyphenate isAlphanumeric (lower other).toList) :
    Apart one other := by
  have hlower : lower one ≠ lower other := fun heq => h (by rw [heq])
  have hnormal : normalName one ≠ normalName other := by
    intro heq
    -- Normalising keeps hyphens that folding for a host drops, so it can be done first without a trace.
    have hfold (cs : List Char) : hyphenate isAlphanumeric (hyphenate isLabelChar cs) =
        hyphenate isAlphanumeric cs :=
      hyphenate_hyphenate (fun c hc => by rw [isLabelChar, hc, Bool.true_or]) rfl cs
    rw [← hfold, ← hfold (lower other).toList] at h
    exact h (congrArg (hyphenate isAlphanumeric) heq)
  constructor
  case containers => exact hlower
  case hosts =>
    intro suffix heq
    change lower (one ++ "." ++ suffix) = lower (other ++ "." ++ suffix) at heq
    -- Letter case is compared on all of the text, which the suffix then leaves by its spelling alone.
    have hspelled : spelled (one ++ "." ++ suffix) = spelled (other ++ "." ++ suffix) := by
      rw [spelled, heq, spelled]
    rw [String.append_assoc, String.append_assoc, spelled_append one, spelled_append other] at hspelled
    refine h ?_
    rw [← hyphenate_spelled rfl rfl, ← hyphenate_spelled rfl rfl other, List.append_cancel_right hspelled]
  case short =>
    intro hone hother heq
    rw [nameFor_of_short hone, nameFor_of_short hother] at heq
    exact hnormal (String.ofList_injective heq)
  case long =>
    intro hone hother heq
    have hsuffix := digest_suffix_nameFor hone
    rw [heq] at hsuffix
    have hlength : ('-' :: nameDigest one).length = ('-' :: nameDigest other).length := by
      rw [List.length_cons, List.length_cons, length_nameDigest, length_nameDigest]
    have hdigest := List.suffix_of_suffix_length_le hsuffix (digest_suffix_nameFor hother) hlength.le
    exact List.cons_injective (hdigest.eq_of_length hlength)
  case shortLong =>
    intro hone hother heq
    have hsuffix := digest_suffix_nameFor hother
    rwa [← heq, nameFor_of_short hone, String.toList_ofList] at hsuffix
  case longShort =>
    intro hone hother heq
    have hsuffix := digest_suffix_nameFor hone
    rwa [heq, nameFor_of_short hother, String.toList_ofList] at hsuffix

end Id

/-- No two nodes that a cluster may have together share a name, and no two clusters do. -/
theorem names_stay_apart {id : String} (hid : IsClusterId id) :
    (∀ one other : NodeDemand, one.hostName ≠ other.hostName →
      Apart (Container.nameFor id one.name) (Container.nameFor id other.name)) ∧
    (∀ (demand : ClusterDemand) limits nodes, demand.checked limits = .ok nodes →
      nodes.Pairwise fun one other =>
        Apart (Container.nameFor id one.name) (Container.nameFor id other.name)) ∧
    ∀ id', IsClusterId id' → id ≠ id' → ∀ name name' : String,
      nameFor (Container.nameFor id name) ≠ nameFor (Container.nameFor id' name') := by
  have hnodes (one other : NodeDemand) (h : one.hostName ≠ other.hostName) :
      Apart (Container.nameFor id one.name) (Container.nameFor id other.name) := by
    refine apart_of_folded_ne fun heq => h ?_
    -- Behind the shared stem and its hyphen stand the two host names.
    have hdrop := congrArg (List.drop 17) heq
    rw [hid.hostName_of_container, hid.hostName_of_container] at hdrop
    rw [NodeDemand.hostName, NodeDemand.hostName, hdrop]
  refine ⟨hnodes, ?_, ?_⟩
  · intro demand limits nodes hchecked
    have hnodup := (ClusterDemand.checked_ok hchecked).hostNames
    exact (List.pairwise_map.1 hnodup).imp fun {one other} => hnodes one other
  · intro id' hid' hne name name' heq
    -- A pod's name begins with the stem, cut or not, and stems have one length.
    have hprefix := hid.stem_prefix_nameFor name
    rw [heq] at hprefix
    have hstem := List.prefix_of_prefix_length_le hprefix (hid'.stem_prefix_nameFor name')
      (by rw [hid.length_stem, hid'.length_stem])
    have hstem := hstem.eq_of_length (by rw [hid.length_stem, hid'.length_stem])
    rw [toList_stem, toList_stem, List.append_cancel_left_eq, List.cons.injEq] at hstem
    exact hne (String.toList_inj.1 hstem.2)

namespace Sample

instance (id : String) : Decidable (IsClusterId id) :=
  haveI := List.decidableBAll (fun c => ('0' ≤ c ∧ c ≤ '9') ∨ ('a' ≤ c ∧ c ≤ 'f')) id.toList
  decidable_of_iff (id.length = 8 ∧ ∀ c ∈ id.toList, ('0' ≤ c ∧ c ≤ '9') ∨ ('a' ≤ c ∧ c ≤ 'f'))
    ⟨fun h => ⟨h.1, h.2⟩, fun h => ⟨h.length, h.digits⟩⟩

/-- Two nodes whose names differ behind what is cut off. -/
def longNames : ClusterDemand :=
  ⟨⟨1800 * Duration.second, by decide⟩,
    [⟨"Analytics node of the rebalance test with many indexes, NO. 1", "centos7", "6.6.1-2134", none⟩,
      ⟨"analytics node of the rebalance test with many indexes (no. 2)", "centos7", "7.0.1", none⟩]⟩

def limits : ClusterDemand.Limits := ⟨.ok ⟨7200 * Duration.second, by decide⟩, 2⟩

end Sample

open Sample in
/-- The folded names are too long, and agree as far as they are kept. -/
theorem names_stay_apart_of_longNames : IsClusterId "0a1b2c3d" ∧ IsClusterId "0a1b2c3e" ∧
    (∃ nodes, longNames.checked limits = .ok nodes ∧
      (∀ node ∈ nodes, 63 < (normalName (Container.nameFor "0a1b2c3d" node.name)).length) ∧
      nodes.Pairwise fun one other =>
        Apart (Container.nameFor "0a1b2c3d" one.name) (Container.nameFor "0a1b2c3d" other.name)) ∧
    nameFor (Container.nameFor "0a1b2c3d" "kv") ≠ nameFor (Container.nameFor "0a1b2c3e" "kv") := by
  have hid : IsClusterId "0a1b2c3d" := by decide +kernel
  have hid' : IsClusterId "0a1b2c3e" := by decide +kernel
  obtain ⟨-, hchecked, hclusters⟩ := names_stay_apart hid
  have hnodes : longNames.checked limits = .ok
      [⟨"Analytics node of the rebalance test with many indexes, NO. 1", "centos7", "6.6.1-2134",
          some ⟨"6.6.1", "mad-hatter", "2134"⟩⟩,
        ⟨"analytics node of the rebalance test with many indexes (no. 2)", "centos7", "7.0.1",
          some ⟨"7.0.1", "cheshire-cat", ""⟩⟩] := by
    decide +kernel
  exact ⟨hid, hid', ⟨_, hnodes, by decide +kernel, hchecked _ _ _ hnodes⟩,
    hclusters _ hid' (by decide +kernel) _ _⟩

end ClusterLease.Pod
