import ClusterLease.Proofs.Number.Integer
import ClusterLease.Version

/-!
What versions are resolved to, and what the names of their artifacts tell about them.

`Resolution` says, part by part of a version text, what becomes of it; `resolve` does just that
(`resolve_eq_iff`). The number of a version has no hyphen, so that a name with the number and the
build in it tells where the one ends and the other starts (`numberAndBuild_inj`).
-/

namespace ClusterLease.Version

/-! ### The parts of a version text -/

/-- What stands before the first hyphen of a text, and what stands after it. -/
inductive Splits : String → List Char → List Char → Prop where
  | release {number : List Char} (hnumber : '-' ∉ number) : Splits (String.ofList number) number []
  | build {number build : List Char} (hnumber : '-' ∉ number) :
    Splits (String.ofList (number ++ '-' :: build)) number build

/-- The first two components of a dotted number, which may have more of them. -/
inductive Leads : List Char → List Char → List Char → Prop where
  | two {major minor : List Char} (hmajor : '.' ∉ major) (hminor : '.' ∉ minor) :
    Leads (major ++ '.' :: minor) major minor
  | more {major minor : List Char} (hmajor : '.' ∉ major) (hminor : '.' ∉ minor) (rest : List Char) :
    Leads (major ++ '.' :: (minor ++ '.' :: rest)) major minor

/-- What becomes of a version text. The first three kinds are invalid versions, and the fourth is a version
without a known flavor. -/
inductive Resolution (text : String) : Except Fault Version → Prop where
  | noMinor {number build : List Char} (hsplit : Splits text number build) (hdots : '.' ∉ number) :
    Resolution text (.error (.rejected (.noMinorVersion (String.ofList number))))
  | majorNoNumber {number build major minor : List Char} (hsplit : Splits text number build)
    (hleads : Leads number major minor) (hmajor : ¬∃ n, Numeral.Writes major n) :
    Resolution text (.error (.rejected (.majorNotNumber (String.ofList number))))
  | minorNoNumber {number build major minor : List Char} {m : Int} (hsplit : Splits text number build)
    (hleads : Leads number major minor) (hmajor : Numeral.Writes major m)
    (hminor : ¬∃ n, Numeral.Writes minor n) :
    Resolution text (.error (.rejected (.minorNotNumber (String.ofList number))))
  | unknown {number build major minor : List Char} {m n : Int} (hsplit : Splits text number build)
    (hleads : Leads number major minor) (hmajor : Numeral.Writes major m) (hminor : Numeral.Writes minor n)
    (hflavor : ∀ flavor, ((m, if 5 ≤ n then 5 else 0), flavor) ∉ flavors) :
    Resolution text (.error (.rejected (.unknownFlavor m (if 5 ≤ n then 5 else 0))))
  | known {number build major minor : List Char} {m n : Int} {flavor : String}
    (hsplit : Splits text number build) (hleads : Leads number major minor)
    (hmajor : Numeral.Writes major m) (hminor : Numeral.Writes minor n)
    (hflavor : ((m, if 5 ≤ n then 5 else 0), flavor) ∈ flavors) :
    Resolution text (.ok ⟨String.ofList number, flavor, String.ofList build⟩)

theorem takeWhile_of_not_mem {c : Char} {cs : List Char} (h : c ∉ cs) (rest : List Char) :
    (cs ++ c :: rest).takeWhile (· != c) = cs ∧ (cs ++ c :: rest).dropWhile (· != c) = c :: rest := by
  have hall : ∀ d ∈ cs, (d != c) = true := fun d hd => bne_iff_ne.2 fun heq => h (heq ▸ hd)
  constructor
  · rw [List.takeWhile_append_of_pos hall, List.takeWhile_cons_of_neg (by simp), List.append_nil]
  · rw [List.dropWhile_append_of_pos hall, List.dropWhile_cons_of_neg (by simp)]

/-- Splitting a text at its first hyphen gives its two parts. -/
theorem Splits.splitAtFirst {text : String} {number build : List Char} (h : Splits text number build) :
    splitAtFirst '-' text.toList = (number, build) := by
  cases h with
  | release hnumber =>
    have hall : ∀ d ∈ number, (d != '-') = true := fun d hd => bne_iff_ne.2 fun heq => hnumber (heq ▸ hd)
    rw [String.toList_ofList, Version.splitAtFirst, List.takeWhile_eq_self_iff.2 hall,
      List.dropWhile_eq_nil_iff.2 hall]
    rfl
  | build hnumber =>
    obtain ⟨htake, hdrop⟩ := takeWhile_of_not_mem hnumber build
    rw [String.toList_ofList, Version.splitAtFirst, htake, hdrop]
    rfl

theorem exists_splits (text : String) : ∃ number build, Splits text number build := by
  rw [← String.ofList_toList (s := text)]
  by_cases h : '-' ∈ text.toList
  · obtain ⟨number, build, hsplit, hnumber⟩ := List.eq_append_cons_of_mem h
    exact ⟨number, build, hsplit ▸ .build hnumber⟩
  · exact ⟨text.toList, [], .release h⟩

/-- With the same number and build, two texts differ in a hyphen at their end at most. -/
theorem Splits.text_eq {text other : String} {number build : List Char} (h : Splits text number build)
    (h' : Splits other number build) :
    text = other ∨ build = [] ∧ (text = other ++ "-" ∨ other = text ++ "-") := by
  cases h with
  | release _ =>
    cases h' with
    | release _ => exact .inl rfl
    | build _ => exact .inr ⟨rfl, .inr (String.toList_inj.1 (by simp))⟩
  | build _ =>
    cases h' with
    | release _ => exact .inr ⟨rfl, .inl (String.toList_inj.1 (by simp))⟩
    | build _ => exact .inl rfl

theorem Splits.not_mem {text : String} {number build : List Char} (h : Splits text number build) :
    '-' ∉ number := by
  cases h <;> assumption

/-! ### The components of a dotted number -/

/-- A number that leads with a major and a minor part is split into these and the rest. -/
theorem Leads.splitOn {number major minor : List Char} (h : Leads number major minor) :
    ∃ rest, number.splitOn '.' = major :: minor :: rest := by
  cases h with
  | two hmajor hminor =>
    exact ⟨[], by rw [List.splitOn_append_cons_self_of_not_mem hmajor, List.splitOn_eq_singleton hminor]⟩
  | more hmajor hminor rest =>
    exact ⟨rest.splitOn '.', by rw [List.splitOn_append_cons_self_of_not_mem hmajor,
      List.splitOn_append_cons_self_of_not_mem hminor]⟩

/-- A number has no dot, or leads with two parts. -/
theorem leads_or_no_dot (number : List Char) : '.' ∉ number ∨ ∃ major minor, Leads number major minor := by
  by_cases h : '.' ∈ number
  · obtain ⟨major, rest, rfl, hmajor⟩ := List.eq_append_cons_of_mem h
    refine .inr ?_
    by_cases hrest : '.' ∈ rest
    · obtain ⟨minor, more, rfl, hminor⟩ := List.eq_append_cons_of_mem hrest
      exact ⟨major, minor, .more hmajor hminor more⟩
    · exact ⟨major, rest, .two hmajor hrest⟩
  · exact .inl h

/-! ### Flavors -/

/-- No number has two flavors. -/
theorem flavors_lookup_eq_some_iff {key : Int × Nat} {flavor : String} :
    flavors.lookup key = some flavor ↔ (key, flavor) ∈ flavors := by
  constructor
  · intro h
    obtain ⟨before, after, hsplit, -⟩ := List.lookup_eq_some_iff.1 h
    exact hsplit ▸ List.mem_append_right _ List.mem_cons_self
  · have hdistinct : ∀ entry ∈ flavors, flavors.lookup entry.1 = some entry.2 := by decide
    exact hdistinct (key, flavor)

/-- Without a dot there is no minor version. -/
theorem flavorOf_of_no_dot {number : List Char} (h : '.' ∉ number) :
    flavorOf (String.ofList number) = .error (.rejected (.noMinorVersion (String.ofList number))) := by
  rw [flavorOf, String.toList_ofList, List.splitOn_eq_singleton h]

/-- With both parts there, the flavor is looked up by the two numbers, and the first one that is none is told.
-/
theorem flavorOf_of_leads {number major minor : List Char} (h : Leads number major minor) :
    flavorOf (String.ofList number) =
      match Numeral.int? (String.ofList major), Numeral.int? (String.ofList minor) with
      | none, _ => .error (.rejected (.majorNotNumber (String.ofList number)))
      | some _, none => .error (.rejected (.minorNotNumber (String.ofList number)))
      | some m, some n => match flavors.lookup (m, bucket n) with
        | some flavor => .ok flavor
        | none => .error (.rejected (.unknownFlavor m (bucket n))) := by
  obtain ⟨rest, hrest⟩ := h.splitOn
  rw [flavorOf, String.toList_ofList, hrest]
  dsimp only
  cases Numeral.int? (String.ofList major) <;> cases Numeral.int? (String.ofList minor) <;> rfl

/-! ### What becomes of a text -/

/-- Only the number decides the flavor; the build is carried along. -/
theorem resolve_of_splits {text : String} {number build : List Char} (h : Splits text number build) :
    resolve text = (flavorOf (String.ofList number)).map fun flavor =>
      ⟨String.ofList number, flavor, String.ofList build⟩ := by
  rw [resolve, h.splitAtFirst]

theorem Resolution.resolve {text : String} {outcome : Except Fault Version} (h : Resolution text outcome) :
    resolve text = outcome := by
  -- One case for each message, and one for a flavor that is found.
  cases h with
  | noMinor hsplit hdots => rw [resolve_of_splits hsplit, flavorOf_of_no_dot hdots]; rfl
  | majorNoNumber hsplit hleads hmajor =>
    rw [resolve_of_splits hsplit, flavorOf_of_leads hleads, Numeral.int?_eq_none_iff.2 hmajor]; rfl
  | minorNoNumber hsplit hleads hmajor hminor =>
    rw [resolve_of_splits hsplit, flavorOf_of_leads hleads, Numeral.int?_eq_some_iff.2 hmajor,
      Numeral.int?_eq_none_iff.2 hminor]
    rfl
  | @unknown number build major minor m n hsplit hleads hmajor hminor hflavor =>
    have hlookup : flavors.lookup (m, bucket n) = none :=
      Option.eq_none_iff_forall_ne_some.2 fun flavor hflavors =>
        hflavor flavor (flavors_lookup_eq_some_iff.1 hflavors)
    rw [resolve_of_splits hsplit, flavorOf_of_leads hleads, Numeral.int?_eq_some_iff.2 hmajor,
      Numeral.int?_eq_some_iff.2 hminor]
    dsimp only
    rw [hlookup]
    rfl
  | @known number build major minor m n flavor hsplit hleads hmajor hminor hflavor =>
    have hlookup : flavors.lookup (m, bucket n) = some flavor := flavors_lookup_eq_some_iff.2 hflavor
    rw [resolve_of_splits hsplit, flavorOf_of_leads hleads, Numeral.int?_eq_some_iff.2 hmajor,
      Numeral.int?_eq_some_iff.2 hminor]
    dsimp only
    rw [hlookup]
    rfl

/-- Every text is resolved in one of the ways. -/
theorem exists_resolution (text : String) : ∃ outcome, Resolution text outcome := by
  obtain ⟨number, build, hsplit⟩ := exists_splits text
  rcases leads_or_no_dot number with hdots | ⟨major, minor, hleads⟩
  · exact ⟨_, .noMinor hsplit hdots⟩
  by_cases hmajor : ∃ m, Numeral.Writes major m
  · obtain ⟨m, hm⟩ := hmajor
    by_cases hminor : ∃ n, Numeral.Writes minor n
    · obtain ⟨n, hn⟩ := hminor
      by_cases hflavor : ∃ flavor, ((m, if 5 ≤ n then 5 else 0), flavor) ∈ flavors
      · obtain ⟨flavor, hflavor⟩ := hflavor
        exact ⟨_, .known hsplit hleads hm hn hflavor⟩
      · exact ⟨_, .unknown hsplit hleads hm hn (not_exists.1 hflavor)⟩
    · exact ⟨_, .minorNoNumber hsplit hleads hm hminor⟩
  · exact ⟨_, .majorNoNumber hsplit hleads hmajor⟩

/-- The rules describe the computed outcome and no other. -/
theorem resolve_eq_iff {text : String} {outcome : Except Fault Version} :
    resolve text = outcome ↔ Resolution text outcome := by
  constructor
  · rintro rfl
    obtain ⟨outcome, h⟩ := exists_resolution text
    exact h.resolve ▸ h
  · exact Resolution.resolve

/-- A resolved text is split into the number and the build. -/
theorem Splits.of_resolve {text : String} {v : Version} (h : Version.resolve text = .ok v) :
    Splits text v.number.toList v.build.toList := by
  cases resolve_eq_iff.1 h with
  | known hsplit => simpa using hsplit

/-! ### Names -/

theorem toList_numberAndBuild (v : Version) :
    v.numberAndBuild.toList =
      if v.build = "" then v.number.toList else v.number.toList ++ '-' :: v.build.toList := by
  unfold numberAndBuild
  split
  · rfl
  · have hname : s!"{v.number}-{v.build}" = v.number ++ "-" ++ v.build := rfl
    rw [hname, String.toList_append, String.toList_append, List.append_assoc]
    rfl

theorem image_eq (v : Version) (registry : String) :
    v.image registry = registry ++ "/dynclsr-couchbase_" ++ (v.numberAndBuild ++ ".centos7") := rfl

theorem package_eq (v : Version) :
    v.package = "couchbase-server-enterprise-" ++ v.numberAndBuild ++ "-centos7.x86_64.rpm" := rfl

/-- The first hyphen tells where the build starts. -/
theorem numberAndBuild_inj {v w : Version} (hv : '-' ∉ v.number.toList) (hw : '-' ∉ w.number.toList)
    (h : v.numberAndBuild = w.numberAndBuild) : v.number = w.number ∧ v.build = w.build := by
  have hlist := congrArg String.toList h
  rw [toList_numberAndBuild, toList_numberAndBuild] at hlist
  split at hlist <;> split at hlist
  · next hvb hwb => exact ⟨String.toList_inj.1 hlist, hvb.trans hwb.symm⟩
  · exact absurd (hlist ▸ List.mem_append_right _ List.mem_cons_self) hv
  · exact absurd (hlist ▸ List.mem_append_right _ List.mem_cons_self) hw
  · have htake := congrArg (List.takeWhile (· != '-')) hlist
    have hdrop := congrArg (List.dropWhile (· != '-')) hlist
    rw [(takeWhile_of_not_mem hv _).1, (takeWhile_of_not_mem hw _).1] at htake
    rw [(takeWhile_of_not_mem hv _).2, (takeWhile_of_not_mem hw _).2] at hdrop
    exact ⟨String.toList_inj.1 htake, String.toList_inj.1 (List.cons.inj hdrop).2⟩

/-- From the name of an image, with its registry known, number and build can be read back. -/
theorem numberAndBuild_of_image {v w : Version} {registry : String} (h : v.image registry = w.image registry) :
    v.numberAndBuild = w.numberAndBuild := by
  rw [image_eq, image_eq, String.append_right_inj, String.append_left_inj] at h
  exact h

theorem numberAndBuild_of_package {v w : Version} (h : v.package = w.package) :
    v.numberAndBuild = w.numberAndBuild := by
  rw [package_eq, package_eq, String.append_left_inj, String.append_right_inj] at h
  exact h

/-- A version text is resolved as its parts say, and the names of the image and of the package tell the
text, up to a hyphen at its end. -/
theorem resolved_exactly (text : String) :
    (∀ outcome, resolve text = outcome ↔ Resolution text outcome) ∧
      ∀ v, resolve text = .ok v → '-' ∉ v.number.toList ∧
        ∀ other w, resolve other = .ok w →
          ((∃ registry, v.image registry = w.image registry) ∨ v.package = w.package) →
          v.number = w.number ∧ v.build = w.build ∧
            (text = other ∨ v.build = "" ∧ (text = other ++ "-" ∨ other = text ++ "-")) := by
  refine ⟨fun outcome => resolve_eq_iff, fun v hv => ?_⟩
  have hsplit := Splits.of_resolve hv
  refine ⟨hsplit.not_mem, fun other w hw hnames => ?_⟩
  have hother := Splits.of_resolve hw
  have hsame : v.numberAndBuild = w.numberAndBuild := by
    rcases hnames with ⟨registry, himage⟩ | hpackage
    · exact numberAndBuild_of_image himage
    · exact numberAndBuild_of_package hpackage
  -- There is no hyphen in either number, so that the first one in the name is where number and build meet.
  obtain ⟨hnumber, hbuild⟩ := numberAndBuild_inj hsplit.not_mem hother.not_mem hsame
  rw [← hnumber, ← hbuild] at hother
  exact ⟨hnumber, hbuild, by simpa using hsplit.text_eq hother⟩

/-- A hyphen with nothing after it leads to the names of the release. -/
theorem resolved_exactly_of_hyphen :
    Resolution "7.0.1-" (.ok ⟨"7.0.1", "cheshire-cat", ""⟩) ∧
      ("7.0.1-" = "7.0.1" ∨ "" = "" ∧ ("7.0.1-" = "7.0.1" ++ "-" ∨ "7.0.1" = "7.0.1-" ++ "-")) := by
  have hrelease : resolve "7.0.1" = .ok ⟨"7.0.1", "cheshire-cat", ""⟩ := by decide +kernel
  have hhyphen : resolve "7.0.1-" = .ok ⟨"7.0.1", "cheshire-cat", ""⟩ := by decide +kernel
  obtain ⟨hresolution, hnames⟩ := resolved_exactly "7.0.1-"
  exact ⟨(hresolution _).1 hhyphen, ((hnames _ hhyphen).2 "7.0.1" _ hrelease (.inr rfl)).2.2⟩

end ClusterLease.Version
