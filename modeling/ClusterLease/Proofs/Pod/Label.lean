import ClusterLease.Proofs.Pod.Name

/-!
The names of pods are labels of hosts.

Whatever a container is called, as long as there is a letter or digit in its name the name of its pod is a
label of a host, and it is its own pod name (`label_nameFor`). A name that is too long may be cut anywhere,
between hyphens as well as between letters: what is left starts as before, and the digest behind it is made
of letters and digits (`isHostLabel_cut`).

All this is about names that are texts. A name from elsewhere that is not, because a lone surrogate is in it, still
has a pod name if it is short. If it is long it has none, for want of bytes to make a digest of (`label_nameOf`).
-/

namespace ClusterLease.Pod

open Text

/-- A small letter or a digit. -/
def LetterOrDigit (c : Char) : Prop := ('a' ≤ c ∧ c ≤ 'z') ∨ ('0' ≤ c ∧ c ≤ '9')

/-- The label of a host: up to 63 letters, digits and hyphens, with a letter or digit at both ends. -/
structure IsHostLabel (label : String) : Prop where
  nonempty : 1 ≤ label.length
  length : label.length ≤ 63
  chars : ∀ c ∈ label.toList, LetterOrDigit c ∨ c = '-'
  first : ∀ c, label.toList.head? = some c → LetterOrDigit c
  last : ∀ c, label.toList.getLast? = some c → LetterOrDigit c

theorem letterOrDigit_iff {c : Char} : LetterOrDigit c ↔ isAlphanumeric c = true := by
  simp [LetterOrDigit, isAlphanumeric]

theorem letterOrDigit_or_hyphen_iff {c : Char} : LetterOrDigit c ∨ c = '-' ↔ isLabelChar c = true := by
  simp [letterOrDigit_iff, isLabelChar]

theorem LetterOrDigit.ne_hyphen {c : Char} (h : LetterOrDigit c) : c ≠ '-' := by
  rintro rfl
  exact absurd (letterOrDigit_iff.1 h) (by decide)

/-! ### Folded names -/

variable {containerName : String} {c : Char}

/-- Normalising leaves nothing but letters, digits and hyphens. -/
theorem mem_normalName (h : c ∈ normalName containerName) : LetterOrDigit c ∨ c = '-' := by
  by_cases hc : c = '-'
  · exact .inr hc
  · exact letterOrDigit_or_hyphen_iff.2 ((mem_hyphenate hc).1 h).2

/-- A normalised name never begins with a hyphen. -/
theorem normalName_head? (h : (normalName containerName).head? = some c) : LetterOrDigit c := by
  have hne : (c == '-') = false := trim_head? (p := (· == '-')) h
  exact (mem_normalName (List.mem_of_head? h)).resolve_right (beq_eq_false_iff_ne.1 hne)

/-- A normalised name never ends with a hyphen. -/
theorem normalName_getLast? (h : (normalName containerName).getLast? = some c) : LetterOrDigit c := by
  have hne : (c == '-') = false := trimRight_getLast? (p := (· == '-')) h
  exact (mem_normalName (List.mem_of_getLast? h)).resolve_right (beq_eq_false_iff_ne.1 hne)

/-- A folded name is empty just if there is no letter and no digit to keep. -/
theorem normalName_ne_nil : normalName containerName ≠ [] ↔
    ∃ c ∈ (lower containerName).toList, LetterOrDigit c := by
  constructor
  · intro hne
    have hfirst := normalName_head? (List.head?_eq_some_head hne)
    have hmem := (mem_hyphenate hfirst.ne_hyphen).1 (List.head_mem hne)
    exact ⟨_, hmem.1, hfirst⟩
  · rintro ⟨c, hc, hkept⟩ hnil
    have hmem : c ∈ normalName containerName :=
      (mem_hyphenate hkept.ne_hyphen).2 ⟨hc, letterOrDigit_or_hyphen_iff.1 (.inl hkept)⟩
    rw [hnil] at hmem
    cases hmem

/-! ### Names that are cut -/

theorem mem_nameDigest (h : c ∈ nameDigest containerName) : LetterOrDigit c := by
  have hdigit : ∀ n < 16, isAlphanumeric (hexDigit n) = true := by decide
  have hpadded {width n : Nat} (h : c ∈ hexPadded width n) : LetterOrDigit c := by
    induction width generalizing n with
    | zero => cases h
    | succ width ih =>
      rw [hexPadded, List.mem_append, List.mem_singleton] at h
      obtain h | rfl := h
      · exact ih h
      · exact letterOrDigit_iff.2 (hdigit _ (Nat.mod_lt _ (by decide)))
  rw [nameDigest, Sha1.hexDigest, String.toList_ofList] at h
  obtain ⟨word, -, hword⟩ := List.mem_flatMap.1 (List.mem_of_mem_take h)
  exact hpadded hword

/-- Wherever a folded name is cut, with the digest behind it it is a label. -/
theorem isHostLabel_cut (hne : normalName containerName ≠ []) {cut : Nat} (hcut : 0 < cut)
    (hmost : cut ≤ 54) : IsHostLabel (String.ofList
      (trimRight (· == '-') ((normalName containerName).take cut) ++ '-' :: nameDigest containerName)) := by
  obtain ⟨first, rest, hname⟩ := List.exists_cons_of_ne_nil hne
  have hfirst : LetterOrDigit first := normalName_head? (by rw [hname]; rfl)
  -- The first character is no hyphen, so that it is not trimmed with those before the cut.
  obtain ⟨kept, hkept⟩ : [first] <+: trimRight (· == '-') ((normalName containerName).take cut) := by
    obtain ⟨more, rfl⟩ := Nat.exists_eq_succ_of_ne_zero hcut.ne'
    rw [hname, List.take_succ_cons, ← List.singleton_append]
    have hkept : trimRight (· == '-') ([] ++ [first]) = [] ++ [first] :=
      trimRight_append_of_neg (beq_eq_false_iff_ne.2 hfirst.ne_hyphen)
    exact prefix_trimRight_append hkept
  have hstart : trimRight (· == '-') ((normalName containerName).take cut) <+:
      (normalName containerName).take cut := List.rdropWhile_prefix _ _
  have hlength := hstart.length_le.trans (List.length_take_le _ _)
  have hdigest : nameDigest containerName ≠ [] :=
    List.ne_nil_of_length_pos (by rw [length_nameDigest]; decide)
  constructor
  case nonempty => simp [← hkept]
  case length =>
    rw [← String.length_toList, String.toList_ofList, List.length_append, List.length_cons, length_nameDigest]
    omega
  case chars =>
    intro c hc
    rw [String.toList_ofList, List.mem_append, List.mem_cons] at hc
    obtain hc | rfl | hc := hc
    · exact mem_normalName (List.mem_of_mem_take (hstart.subset hc))
    · exact .inr rfl
    · exact .inl (mem_nameDigest hc)
  case first =>
    intro c hc
    rw [String.toList_ofList, ← hkept] at hc
    cases hc
    exact hfirst
  case last =>
    intro c hc
    rw [String.toList_ofList, List.getLast?_append_cons, List.getLast?_cons_of_ne_nil hdigest] at hc
    exact mem_nameDigest (List.mem_of_getLast? hc)

/-! ### Names of pods -/

theorem isHostLabel_nameFor (hne : normalName containerName ≠ []) : IsHostLabel (nameFor containerName) := by
  rcases Nat.lt_or_ge 63 (normalName containerName).length with hlong | hshort
  · rw [nameFor_of_long hlong]
    exact isHostLabel_cut hne (by decide) (by decide)
  · rw [nameFor_of_short hshort]
    constructor
    case nonempty =>
      rw [← String.length_toList, String.toList_ofList]
      exact List.length_pos_iff.2 hne
    case length => rwa [← String.length_toList, String.toList_ofList]
    all_goals
      rw [String.toList_ofList]
      intro c hc
    case chars => exact mem_normalName hc
    case first => exact normalName_head? hc
    case last => exact normalName_getLast? hc

/-- A name without any letter or digit gets the empty text, which is no label. -/
theorem nameFor_of_nil (h : normalName containerName = []) : nameFor containerName = "" := by
  rw [nameFor_of_short (by rw [h]; decide), h]

/-- There is nothing to fold in a label, and it is short enough. -/
theorem IsHostLabel.nameFor_eq_self {label : String} (h : IsHostLabel label) : nameFor label = label := by
  have hchars : ∀ c ∈ label.toList, isLabelChar c = true := fun c hc =>
    letterOrDigit_or_hyphen_iff.1 (h.chars c hc)
  have hnormal : normalName label = label.toList := by
    rw [normalName, lower_eq_self hchars]
    exact hyphenate_eq_self hchars (fun hfirst => (h.first _ hfirst).ne_hyphen rfl)
      fun hlast => (h.last _ hlast).ne_hyphen rfl
  have hshort : (normalName label).length ≤ 63 := by
    rw [hnormal, String.length_toList]
    exact h.length
  rw [nameFor_of_short hshort, hnormal, String.ofList_toList]

/-- The name of a pod is a label just if the container's name has a letter or digit once capitals are small,
and in any case it is the name of its own pod. -/
theorem label_nameFor (containerName : String) :
    (IsHostLabel (nameFor containerName) ↔ ∃ c ∈ (lower containerName).toList, LetterOrDigit c) ∧
      nameFor (nameFor containerName) = nameFor containerName := by
  rw [← normalName_ne_nil]
  by_cases hne : normalName containerName = []
  · have hempty := nameFor_of_nil hne
    rw [hempty]
    refine ⟨⟨fun h => absurd h.nonempty (by decide), fun h => absurd hne h⟩, ?_⟩
    exact nameFor_of_nil (by decide)
  · have hlabel := isHostLabel_nameFor hne
    exact ⟨iff_of_true hlabel hne, hlabel.nameFor_eq_self⟩

/-- The cut falls among hyphens, which are dropped before the digest. -/
example : nameFor "Node ------------------------------------------------------------ x" =
    "node-a999ccc7" := by decide +kernel

/-! ### Names from elsewhere -/

/-- There is a surrogate without its other half. -/
def HoldsSurrogate (points : List CodePoint) : Prop := ∃ code, CodePoint.surrogate code ∈ points

theorem shown_codePoints (s : String) : shown (codePoints s) = s := by
  have hself : CodePoint.shown ∘ CodePoint.char = id := rfl
  rw [shown, codePoints, List.map_map, hself, List.map_id, String.ofList_toList]

theorem encode?_codePoints (s : String) : Utf8.encode? (codePoints s) = some s.toUTF8.toList := by
  have hchars (cs : List Char) : (cs.map CodePoint.char).mapM CodePoint.char? = some cs := by
    induction cs with
    | nil => rfl
    | cons c rest ih =>
      rw [List.map_cons, List.mapM_cons, ih]
      rfl
  rw [Utf8.encode?, codePoints, hchars, Option.map_some, String.ofList_toList]

theorem not_holdsSurrogate_codePoints (s : String) : ¬HoldsSurrogate (codePoints s) := by
  rintro ⟨code, hcode⟩
  obtain ⟨c, -, hc⟩ := List.mem_map.1 hcode
  cases hc

/-- What is no text has no bytes. -/
theorem eq_codePoints_or (points : List CodePoint) :
    (∃ s, points = codePoints s) ∨ HoldsSurrogate points ∧ Utf8.encode? points = none := by
  have hpoints : (∃ cs : List Char, points = cs.map CodePoint.char) ∨
      HoldsSurrogate points ∧ points.mapM CodePoint.char? = none := by
    -- Up to the first surrogate the points are characters, and from there on nothing can be encoded.
    induction points with
    | nil => exact .inl ⟨[], rfl⟩
    | cons point rest ih =>
      cases point with
      | surrogate code => exact .inr ⟨⟨code, List.mem_cons_self⟩, rfl⟩
      | char c =>
        obtain ⟨cs, rfl⟩ | ⟨⟨code, hcode⟩, hnone⟩ := ih
        · exact .inl ⟨c :: cs, rfl⟩
        · refine .inr ⟨⟨code, List.mem_cons_of_mem _ hcode⟩, ?_⟩
          rw [List.mapM_cons, hnone]
          rfl
  obtain ⟨cs, rfl⟩ | ⟨hheld, hnone⟩ := hpoints
  · exact .inl ⟨String.ofList cs, by rw [codePoints, String.toList_ofList]⟩
  · exact .inr ⟨hheld, by rw [Utf8.encode?, hnone]; rfl⟩

section NameOf

variable {points : List CodePoint}

/-- A short name is not hashed, so a surrogate in it is folded away like any other sign. -/
theorem nameOf_of_short (h : (normalName (shown points)).length ≤ 63) :
    nameOf points = .ok (nameFor (shown points)) := by
  rw [nameOf, nameFor_of_short h]
  exact if_pos h

/-- A long name is hashed, and a text that cannot be encoded has no hash. -/
theorem nameOf_of_long (h : 63 < (normalName (shown points)).length) (hnone : Utf8.encode? points = none) :
    nameOf points = .error (.mishap .unencodable) := by
  rw [nameOf, hnone]
  exact if_neg (Nat.not_le.2 h)

/-- A name that is a text makes the name of its pod. -/
theorem nameOf_codePoints (containerName : String) : nameOf (codePoints containerName) = .ok (nameFor containerName) := by
  rw [nameOf, shown_codePoints, encode?_codePoints, nameFor]
  split <;> rfl

end NameOf

/-- The folded name has to be cut, and there is nothing to make a digest of. -/
def Unnameable (containerName : List CodePoint) : Prop :=
  63 < (normalName (shown containerName)).length ∧ HoldsSurrogate containerName

/-- What there is instead of a name for a pod, or what is known of the name: it is a label just if the container's
name has a letter or digit once capitals are small, and in any case it is the name of its own pod. -/
inductive Named (containerName : List CodePoint) : Except Fault String → Prop where
  | refused (unnameable : Unnameable containerName) : Named containerName (.error (.mishap .unencodable))
  | named {name : String} (nameable : ¬Unnameable containerName)
      (label : IsHostLabel name ↔ ∃ c ∈ (lower (shown containerName)).toList, LetterOrDigit c)
      (self : nameOf (codePoints name) = .ok name) : Named containerName (.ok name)

/-- There is no name for a pod just if the folded name is too long and a lone surrogate is in the container's name. -/
theorem label_nameOf (containerName : List CodePoint) : Named containerName (nameOf containerName) := by
  have hself (name : String) : nameOf (codePoints (nameFor name)) = .ok (nameFor name) := by
    rw [nameOf_codePoints, (label_nameFor name).2]
  obtain ⟨name, rfl⟩ | ⟨hheld, hnone⟩ := eq_codePoints_or containerName
  · rw [nameOf_codePoints]
    refine .named (fun h => not_holdsSurrogate_codePoints name h.2) ?_ (hself name)
    rw [shown_codePoints]
    exact (label_nameFor name).1
  · rcases Nat.lt_or_ge 63 (normalName (shown containerName)).length with hlong | hshort
    · rw [nameOf_of_long hlong hnone]
      exact .refused ⟨hlong, hheld⟩
    · rw [nameOf_of_short hshort]
      exact .named (fun h => Nat.not_lt.2 hshort h.1) (label_nameFor _).1 (hself _)

namespace Sample

/-- Sixty letters behind what all containers of a cluster share, and half of a character. -/
def broken : List CodePoint :=
  codePoints ("dynclsr-0a1b2c3d-" ++ String.ofList (List.replicate 60 'a')) ++ [.surrogate 0xD800]

end Sample

open Sample in
/-- A long name may be full of letters and have no pod name. -/
theorem no_name_of_broken : (∃ c ∈ (lower (shown broken)).toList, LetterOrDigit c) ∧
    nameOf broken = .error (.mishap .unencodable) :=
  ⟨normalName_ne_nil.1 (by decide +kernel), by decide +kernel⟩

end ClusterLease.Pod
