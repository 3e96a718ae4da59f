import ClusterLease.Config
import ClusterLease.Proofs.Yaml.Keyed

/-!
What a mapping makes of a configuration.

Each entry changes one setting or none (`taking`), and an update takes one entry after the other
(`outcome_update`). As no key comes twice, the outcome can be told without the order: every setting that
the mapping names gets its converted value, and every other one stays (`Lays`, `foldlM_taking_eq_ok_iff`).

A record of plain values in which each conversion follows the value that is there now goes the same way
(`foldlM_retaking`), so that the kind of a setting never changes.
-/

namespace ClusterLease

namespace Setting

theorem mem_all (setting : Setting) : setting ∈ all := by cases setting <;> decide

theorem nodup_all : all.Nodup := by decide

/-- The key of a setting is read as the setting. -/
theorem ofKey?_key (setting : Setting) : ofKey? (.text setting.key) = some setting := by
  cases setting <;> decide

/-- The keys of settings are texts, and no two settings have the same. -/
theorem ofKey?_eq_some_iff {key : Value} {setting : Setting} :
    ofKey? key = some setting ↔ key = .text setting.key := by
  constructor
  · intro h
    have hsame := List.find?_some h
    exact Value.text_sameKey.1 hsame
  · rintro rfl
    exact ofKey?_key setting

/-- Different settings have different keys. -/
theorem key_injective {setting other : Setting} (h : setting.key = other.key) : setting = other :=
  Option.some.inj ((ofKey?_key setting).symm.trans (ofKey?_eq_some_iff.2 (congrArg Value.text h)))

/-- A key that is that of no setting is unknown. -/
theorem ofKey?_eq_none_iff {key : Value} :
    ofKey? key = none ↔ ∀ setting : Setting, key ≠ .text setting.key := by
  rw [Option.eq_none_iff_forall_ne_some]
  exact forall_congr' fun setting => not_congr ofKey?_eq_some_iff

end Setting

namespace Kind

instance (kind : Kind) : DecidableEq kind.Carrier :=
  match kind with
  | .text => inferInstanceAs (DecidableEq String)
  | .whole => inferInstanceAs (DecidableEq Int)
  | .real => inferInstanceAs (DecidableEq Double)

/-- A value of a kind is converted to itself. -/
theorem convert_toValue (kind : Kind) (v : kind.Carrier) : kind.convert (kind.toValue v) = .ok v := by
  cases kind <;> rfl

/-- The kind of a value that a setting may have. -/
def of? : Value → Option Kind
  | .text _ => some .text
  | .int _ => some .whole
  | .real _ => some .real
  | _ => none

/-- What a setting of a kind is written as is of the kind. -/
theorem of?_toValue (kind : Kind) (v : kind.Carrier) : of? (kind.toValue v) = some kind := by
  cases kind <;> rfl

end Kind

namespace Config

/-- A configuration is given by its settings. -/
theorem ext_get {c d : Config} (h : ∀ setting, c.get setting = d.get setting) : c = d := by
  cases c
  cases d
  rw [Config.mk.injEq]
  exact ⟨h .runtime, h .networkName, h .space, h .registry, h .releaseUrl, h .buildUrl, h .dnsHost, h .dnsPort,
    h .dnsZone, h .dnsDomainSuffix, h .dnsRetries, h .defaultLeaseSeconds, h .maxLeaseSeconds, h .maxNodes,
    h .leaseFile, h .podStartSeconds, h .logLevel⟩

/-! ### One entry -/

/-- What one more key and value makes of a configuration. -/
def taking (config : Config) (entry : Value × Value) : Except Fault Config :=
  match Setting.ofKey? entry.1 with
  | some setting => (setting.kind.convert entry.2).map (config.set setting)
  | none => if entry.1.isShowable then .ok config else .error (.mishap .badValue)

variable {config below above : Config} {entry : Value × Value} {entries : Entries} {setting : Setting}

/-- An entry for a setting is converted to its kind, or the whole fails. -/
theorem taking_of_known (h : entry.1 = .text setting.key) :
    taking config entry = (setting.kind.convert entry.2).map (config.set setting) := by
  rw [taking, Setting.ofKey?_eq_some_iff.2 h]

/-- An unknown key changes nothing. It must be written in a warning, though, and can fail at that. -/
theorem taking_of_unknown (h : ∀ setting : Setting, entry.1 ≠ .text setting.key) :
    taking config entry = if entry.1.isShowable then .ok config else .error (.mishap .badValue) := by
  rw [taking, Setting.ofKey?_eq_none_iff.2 h]

/-- The outcome of taking an entry over goes on from what there is. -/
theorem outcome_take (draft : Draft) (entry : Value × Value) :
    (draft.take entry).outcome = draft.outcome.bind (taking · entry) := by
  unfold Draft.take
  cases houtcome : draft.outcome with
  | error fault => exact houtcome
  | ok config =>
    dsimp only [Except.bind]
    rw [taking, Value.display?]
    cases Setting.ofKey? entry.1 with
    | some setting => rfl
    | none =>
      cases entry.1.isShowable with
      | false => rfl
      | true => rfl

/-- What is logged has no influence on what becomes of the configuration. -/
theorem outcome_update (draft : Draft) (data : Entries) :
    (draft.update data).outcome = draft.outcome.bind fun config => data.foldlM taking config := by
  induction data generalizing draft with
  | nil => cases h : draft.outcome <;> exact h
  | cons entry rest ih =>
    have hupdate : draft.update (entry :: rest) = (draft.take entry).update rest := rfl
    rw [hupdate, ih, outcome_take]
    cases draft.outcome <;> rfl

/-- The outcome is that of taking over one entry after another. -/
theorem outcome_ofEntries (data : Entries) : (ofEntries data).outcome = data.foldlM taking {} :=
  outcome_update Draft.initial data

/-! ### All entries of a mapping -/

/-- A mapping laid over a configuration: it has a value for each setting that it names. -/
structure Lays (entries : Entries) (below above : Config) : Prop where
  given : ∀ setting value, (.text (Setting.key setting), value) ∈ entries →
    setting.kind.convert value = .ok (above.get setting)
  kept : ∀ setting, (∀ value, (.text (Setting.key setting), value) ∉ entries) →
    above.get setting = below.get setting

/-- Whether all values that a mapping has for settings can be converted. -/
def Converts (entries : Entries) : Prop :=
  ∀ setting value, (.text (Setting.key setting), value) ∈ entries → ∃ v, setting.kind.convert value = .ok v

/-- Whether all keys of a mapping that name no settings can be told in a warning. -/
def KeysShown (entries : Entries) : Prop :=
  ∀ entry ∈ entries, (∀ setting : Setting, entry.1 ≠ .text setting.key) → entry.1.isShowable = true

/-- Whether all can be converted can be found out by evaluation. -/
theorem converts_iff : Converts entries ↔ (entries.all fun entry =>
    (Setting.ofKey? entry.1).all fun setting => (setting.kind.convert entry.2).isOk) = true := by
  have hok {α : Type} {outcome : Except Fault α} : outcome.isOk = true ↔ ∃ v, outcome = .ok v := by
    cases outcome with
    | error fault => exact ⟨nofun, nofun⟩
    | ok v => exact ⟨fun _ => ⟨v, rfl⟩, fun _ => rfl⟩
  simp only [List.all_eq_true, Option.all_eq_true, Setting.ofKey?_eq_some_iff, hok]
  constructor
  · exact fun h entry hentry setting hkey => h setting entry.2 (hkey ▸ hentry)
  · exact fun h setting value hmem => h _ hmem setting rfl

instance (entries : Entries) : Decidable (Converts entries) := decidable_of_iff _ converts_iff.symm

/-- Whether all unknown keys can be written out can be found out by evaluation. -/
theorem keysShown_iff : KeysShown entries ↔
    (entries.all fun entry => (Setting.ofKey? entry.1).isSome || entry.1.isShowable) = true := by
  simp only [KeysShown, ← Setting.ofKey?_eq_none_iff, List.all_eq_true, Bool.or_eq_true, Option.isSome_iff_ne_none,
    ne_eq, ← Decidable.imp_iff_not_or]

instance (entries : Entries) : Decidable (KeysShown entries) := decidable_of_iff _ keysShown_iff.symm

theorem lays_nil : Lays [] below above ↔ below = above := by
  constructor
  · exact fun h => ext_get fun setting => (h.kept setting fun _ => List.not_mem_nil).symm
  · rintro rfl
    exact ⟨nofun, fun _ _ => rfl⟩

/-- The first entry of a setting is laid over what is below, and no later one is laid over it. -/
theorem lays_cons_of_known (h : entry.1 = .text setting.key) (hkeyed : Entries.Keyed (entry :: entries))
    {v : setting.kind.Carrier} (hv : setting.kind.convert entry.2 = .ok v) :
    Lays (entry :: entries) below above ↔ Lays entries (below.set setting v) above := by
  have hnew := hkeyed.not_mem h
  have hself : (.text setting.key, entry.2) ∈ entry :: entries := List.mem_cons.2 (.inl (Prod.ext h.symm rfl))
  constructor
  · -- No later entry has the key of this one, so that the setting keeps what the entry gives.
    intro hlays
    refine ⟨fun other value hmem => hlays.given other value (List.mem_cons_of_mem _ hmem), fun other hother => ?_⟩
    by_cases hsetting : other = setting
    · subst hsetting
      rw [get_set_same]
      exact Except.ok.inj ((hlays.given other entry.2 hself).symm.trans hv)
    · rw [get_set_of_ne _ _ hsetting]
      refine hlays.kept other fun value hmem => (List.mem_cons.1 hmem).elim (fun heq => ?_) (hother value)
      exact hsetting (Setting.key_injective (Value.text.inj ((congrArg Prod.fst heq).trans h)))
  · intro hlays
    constructor
    · intro other value hmem
      rcases List.mem_cons.1 hmem with heq | hmem
      · obtain rfl : other = setting := Setting.key_injective (Value.text.inj ((congrArg Prod.fst heq).trans h))
        obtain rfl : value = entry.2 := congrArg Prod.snd heq
        rw [hv, hlays.kept other hnew, get_set_same]
      · exact hlays.given other value hmem
    · intro other hother
      have hsetting : other ≠ setting := by
        rintro rfl
        exact hother entry.2 hself
      rw [hlays.kept other fun value hmem => hother value (List.mem_cons_of_mem _ hmem), get_set_of_ne _ _ hsetting]

theorem mem_cons_of_unknown (h : ∀ setting : Setting, entry.1 ≠ .text setting.key) (setting : Setting)
    (value : Value) : (.text setting.key, value) ∈ entry :: entries ↔ (.text setting.key, value) ∈ entries := by
  refine List.mem_cons.trans (or_iff_right fun heq => ?_)
  exact h setting (congrArg Prod.fst heq).symm

/-- An unknown key lays nothing. -/
theorem lays_cons_of_unknown (h : ∀ setting : Setting, entry.1 ≠ .text setting.key) :
    Lays (entry :: entries) below above ↔ Lays entries below above := by
  have hmem := @mem_cons_of_unknown entry entries h
  constructor
  · exact fun hlays => ⟨fun setting value hvalue => hlays.given setting value ((hmem setting value).2 hvalue),
      fun setting hnone => hlays.kept setting fun value hvalue => hnone value ((hmem setting value).1 hvalue)⟩
  · exact fun hlays => ⟨fun setting value hvalue => hlays.given setting value ((hmem setting value).1 hvalue),
      fun setting hnone => hlays.kept setting fun value hvalue => hnone value ((hmem setting value).2 hvalue)⟩

theorem keysShown_cons : KeysShown (entry :: entries) ↔
    ((∀ setting : Setting, entry.1 ≠ .text setting.key) → entry.1.isShowable = true) ∧ KeysShown entries :=
  List.forall_mem_cons

/-- An update succeeds with the mapping laid over the configuration, or not at all. -/
theorem foldlM_taking_eq_ok_iff (hkeyed : entries.Keyed) :
    entries.foldlM taking below = .ok above ↔ Lays entries below above ∧ KeysShown entries := by
  -- By induction on the entries, for any settings they are laid over: each known one changes those below the
  -- rest.
  induction entries generalizing below with
  | nil =>
    rw [lays_nil]
    exact ⟨fun h => ⟨Except.ok.inj h, nofun⟩, fun h => congrArg Except.ok h.1⟩
  | cons entry rest ih =>
    have hrest := (Entries.keyed_cons.1 hkeyed).2
    rw [List.foldlM_cons, keysShown_cons]
    by_cases hkey : ∃ setting : Setting, entry.1 = .text setting.key
    · obtain ⟨setting, hsetting⟩ := hkey
      have hshown : (∀ setting : Setting, entry.1 ≠ .text setting.key) → entry.1.isShowable = true :=
        fun hunknown => absurd hsetting (hunknown setting)
      rw [taking_of_known hsetting, and_iff_right hshown]
      cases hv : setting.kind.convert entry.2 with
      | error fault =>
        refine ⟨nofun, fun ⟨hlays, _⟩ => ?_⟩
        have hgiven := hlays.given setting entry.2 (List.mem_cons.2 (.inl (Prod.ext hsetting.symm rfl)))
        rw [hv] at hgiven
        cases hgiven
      | ok v =>
        rw [lays_cons_of_known hsetting hkeyed hv]
        exact ih hrest
    · have hunknown := not_exists.1 hkey
      rw [taking_of_unknown hunknown, lays_cons_of_unknown hunknown]
      cases hshow : entry.1.isShowable with
      | false => exact ⟨nofun, fun ⟨_, hshown, _⟩ => absurd (hshown hunknown) Bool.false_ne_true⟩
      | true =>
        rw [and_iff_right fun _ => rfl]
        exact ih hrest

/-- A mapping whose values can be converted can be laid over every configuration. -/
theorem exists_lays (hkeyed : entries.Keyed) (hconverts : Converts entries) (below : Config) :
    ∃ above, Lays entries below above := by
  induction entries generalizing below with
  | nil => exact ⟨below, lays_nil.2 rfl⟩
  | cons entry rest ih =>
    have hrest := (Entries.keyed_cons.1 hkeyed).2
    have hrestConverts : Converts rest := fun setting value hmem =>
      hconverts setting value (List.mem_cons_of_mem _ hmem)
    by_cases hkey : ∃ setting : Setting, entry.1 = .text setting.key
    · obtain ⟨setting, hsetting⟩ := hkey
      obtain ⟨v, hv⟩ := hconverts setting entry.2 (List.mem_cons.2 (.inl (Prod.ext hsetting.symm rfl)))
      obtain ⟨above, habove⟩ := ih hrest hrestConverts (below.set setting v)
      exact ⟨above, (lays_cons_of_known hsetting hkeyed hv).2 habove⟩
    · obtain ⟨above, habove⟩ := ih hrest hrestConverts below
      exact ⟨above, (lays_cons_of_unknown (not_exists.1 hkey)).2 habove⟩

/-- What has been laid has been converted. -/
theorem Lays.converts (h : Lays entries below above) : Converts entries :=
  fun setting value hmem => ⟨_, h.given setting value hmem⟩

/-- A key without a text ends an update, though it names no setting. -/
theorem ofEntries_over_long_key :
    (ofEntries [(.int (Nat.pow 16 4000), .int 1)]).outcome = .error (.mishap .badValue) ∧
      Setting.ofKey? (.int (Nat.pow 16 4000)) = none ∧ (ofEntries []).outcome = .ok {} := by
  have hlong : (Value.int (Nat.pow 16 4000)).isShowable = false := by decide +kernel
  have hunknown : Setting.ofKey? (.int (Nat.pow 16 4000)) = none := Setting.ofKey?_eq_none_iff.2 fun _ => nofun
  refine ⟨?_, hunknown, rfl⟩
  rw [outcome_ofEntries, List.foldlM_cons, taking_of_unknown (Setting.ofKey?_eq_none_iff.1 hunknown), hlong]
  rfl

/-! ### Configurations as mappings -/

/-- A mapping that has at most one value for each setting, in the order of the settings. -/
def rowsOf (f : Setting → Option Value) : Entries :=
  Setting.all.filterMap fun setting => (f setting).map fun value => (.text setting.key, value)

/-- A row is there for each setting that has a value. -/
theorem mem_rowsOf {f : Setting → Option Value} {value : Value} :
    (.text setting.key, value) ∈ rowsOf f ↔ f setting = some value := by
  constructor
  · intro h
    obtain ⟨other, -, hother⟩ := List.mem_filterMap.1 h
    obtain ⟨found, hfound, heq⟩ := Option.map_eq_some_iff.1 hother
    obtain rfl := Setting.key_injective (Value.text.inj (congrArg Prod.fst heq))
    rw [hfound]
    exact congrArg (some ∘ Prod.snd) heq
  · intro h
    refine List.mem_filterMap.2 ⟨setting, Setting.mem_all setting, ?_⟩
    rw [h]
    rfl

/-- The rows of settings have different keys. -/
theorem keyed_rowsOf (f : Setting → Option Value) : (rowsOf f).Keyed := by
  refine List.Pairwise.filterMap _ ?_ Setting.nodup_all
  rintro a b hne x hx y hy
  obtain ⟨_, -, rfl⟩ := Option.map_eq_some_iff.1 hx
  obtain ⟨_, -, rfl⟩ := Option.map_eq_some_iff.1 hy
  exact Bool.eq_false_iff.2 fun hsame =>
    hne (Setting.key_injective (Value.text.inj (Value.sameKey_text.1 hsame)))

/-- Every row is that of a setting. -/
theorem known_of_mem_rowsOf {f : Setting → Option Value} (h : entry ∈ rowsOf f) :
    ∃ setting : Setting, entry.1 = .text setting.key := by
  obtain ⟨setting, -, hsetting⟩ := List.mem_filterMap.1 h
  obtain ⟨_, -, rfl⟩ := Option.map_eq_some_iff.1 hsetting
  exact ⟨setting, rfl⟩

theorem keysShown_rowsOf (f : Setting → Option Value) : KeysShown (rowsOf f) := by
  intro entry hentry hunknown
  obtain ⟨setting, hsetting⟩ := known_of_mem_rowsOf hentry
  exact absurd hsetting (hunknown setting)

/-- A configuration is written as one row for each setting. -/
theorem toEntries_eq (config : Config) :
    config.toEntries = rowsOf fun setting => some (setting.kind.toValue (config.get setting)) := by
  rw [toEntries, rowsOf, ← List.filterMap_eq_map]
  rfl

/-- A configuration that is written out as a mapping is read back. -/
theorem outcome_ofEntries_toEntries (config : Config) : (ofEntries config.toEntries).outcome = .ok config := by
  have hlays : Lays config.toEntries {} config := by
    rw [toEntries_eq]
    constructor
    · intro setting value hmem
      rw [← Option.some.inj (mem_rowsOf.1 hmem), Kind.convert_toValue]
    · exact fun setting hnone => absurd (mem_rowsOf.2 rfl) (hnone _)
  rw [outcome_ofEntries]
  refine (foldlM_taking_eq_ok_iff ?_).2 ⟨hlays, ?_⟩
  · exact toEntries_eq config ▸ keyed_rowsOf _
  · exact toEntries_eq config ▸ keysShown_rowsOf _

/-! ### Records of plain values -/

/-- What one more key and value makes of a record, when the value that is there says how to convert. -/
def retaking (record : Entries) (entry : Value × Value) : Except Fault Entries :=
  match (record.get? entry.1).bind Kind.of? with
  | some kind => (kind.convert entry.2).map fun v => record.put entry.1 (kind.toValue v)
  | none => if entry.1.isShowable then .ok record else .error (.mishap .badValue)

/-- What a configuration has for a setting is of the kind of the setting. -/
theorem kind_toEntries (config : Config) (setting : Setting) :
    (Entries.getText? config.toEntries setting.key).bind Kind.of? = some setting.kind := by
  have hmem : (.text setting.key, setting.kind.toValue (config.get setting)) ∈ config.toEntries :=
    toEntries_eq config ▸ mem_rowsOf.2 rfl
  have hkeyed : Entries.Keyed config.toEntries := toEntries_eq config ▸ keyed_rowsOf _
  rw [hkeyed.getText?_eq_some.2 hmem, Option.bind_some, Kind.of?_toValue]

theorem get?_toEntries_of_unknown (config : Config) (h : ∀ setting : Setting, entry.1 ≠ .text setting.key) :
    Entries.get? config.toEntries entry.1 = none := by
  rw [Entries.get?, Option.map_eq_none_iff, List.find?_eq_none]
  intro row hrow hsame
  rw [toEntries_eq] at hrow
  obtain ⟨setting, hsetting⟩ := known_of_mem_rowsOf hrow
  rw [hsetting] at hsame
  exact h setting (Value.text_sameKey.1 hsame)

/-- Putting a value into a record of a configuration sets the setting. -/
theorem put_toEntries (config : Config) (setting : Setting) (v : setting.kind.Carrier) :
    Entries.put config.toEntries (.text setting.key) (setting.kind.toValue v) = (config.set setting v).toEntries := by
  -- The list of all settings is too special to be taken apart; the induction is on any list without repetition.
  have hput (settings : List Setting) (hmem : setting ∈ settings) (hnodup : settings.Nodup) :
      Entries.put (settings.map fun other => (.text other.key, other.kind.toValue (config.get other)))
        (.text setting.key) (setting.kind.toValue v) =
      settings.map fun other => (.text other.key, other.kind.toValue ((config.set setting v).get other)) := by
    induction settings with
    | nil => cases hmem
    | cons other rest ih =>
      obtain ⟨hnew, hrest⟩ := List.nodup_cons.1 hnodup
      rw [List.map_cons, List.map_cons, Entries.put]
      by_cases hsetting : other = setting
      · subst hsetting
        rw [if_pos (Value.sameKey_text.2 rfl), get_set_same]
        congr 1
        refine List.map_congr_left fun later hlater => ?_
        have hne : later ≠ other := fun heq => hnew (heq ▸ hlater)
        rw [get_set_of_ne _ _ hne]
      · have hkey : ¬(Value.text other.key).sameKey (.text setting.key) = true := fun hsame =>
          hsetting (Setting.key_injective (Value.text.inj (Value.sameKey_text.1 hsame)))
        rw [if_neg hkey, get_set_of_ne _ _ hsetting,
          ih ((List.mem_cons.1 hmem).resolve_left (Ne.symm hsetting)) hrest]
  exact hput Setting.all (Setting.mem_all setting) Setting.nodup_all

/-- A record that is a configuration stays one, whatever is put into it. -/
theorem retaking_toEntries (config : Config) (entry : Value × Value) :
    retaking config.toEntries entry = (taking config entry).map toEntries := by
  rw [retaking]
  by_cases hkey : ∃ setting : Setting, entry.1 = .text setting.key
  · obtain ⟨setting, hsetting⟩ := hkey
    have hkind : (Entries.get? config.toEntries entry.1).bind Kind.of? = some setting.kind :=
      hsetting ▸ kind_toEntries config setting
    rw [hkind, taking_of_known hsetting]
    dsimp only
    cases setting.kind.convert entry.2 with
    | error fault => rfl
    | ok v => exact congrArg Except.ok (hsetting ▸ put_toEntries config setting v)
  · have hunknown := not_exists.1 hkey
    rw [get?_toEntries_of_unknown config hunknown, taking_of_unknown hunknown]
    dsimp only [Option.bind]
    split <;> rfl

/-- No kind of a value changes: converting by what is there now comes to the same. -/
theorem foldlM_retaking (config : Config) (data : Entries) :
    data.foldlM retaking config.toEntries = (data.foldlM taking config).map toEntries := by
  induction data generalizing config with
  | nil => rfl
  | cons entry rest ih =>
    rw [List.foldlM_cons, List.foldlM_cons, retaking_toEntries]
    cases taking config entry with
    | error fault => rfl
    | ok updated => exact ih updated

end Config

end ClusterLease
