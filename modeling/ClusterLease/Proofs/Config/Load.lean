import ClusterLease.Config.Load
import ClusterLease.Proofs.Config.Update
import ClusterLease.Proofs.Table
import ClusterLease.Proofs.Text.Bytes
import ClusterLease.Proofs.Value.Equality

/-!
What the daemon's settings are loaded from.

Every setting has the value of its variable in the environment, or else that of the configuration file, or
else the usual one (`load_layers`); what the file says about other things changes nothing, as long as it can
be told in a warning. A file that holds no mapping changes nothing at all (`load_over_unusable`), unless the
reader of documents has a mishap over it.
-/

namespace ClusterLease.Config

variable {format : Format} {given path : String} {environment : Table String} {files : String → FileView}
  {content : List UInt8} {entries : Entries}

/-! ### The environment -/

/-- Whether all values that the environment has for settings can be converted. -/
def EnvironmentConverts (environment : Table String) : Prop :=
  ∀ (setting : Setting) (text : String), environment.get? setting.variableName = some text →
    ∃ v, setting.kind.convert (.text text) = .ok v

/-- The environment gives a row for each setting whose variable is set. -/
theorem overrides_eq (environment : Table String) :
    overrides environment = rowsOf fun setting => (environment.get? setting.variableName).map .text := by
  rw [overrides, rowsOf]
  congr 1
  funext setting
  rw [Option.map_map]
  rfl

/-- A setting is overridden by the text of its variable. -/
theorem mem_overrides {setting : Setting} {value : Value} :
    (.text setting.key, value) ∈ overrides environment ↔
      ∃ text, environment.get? setting.variableName = some text ∧ .text text = value := by
  rw [overrides_eq, mem_rowsOf, Option.map_eq_some_iff]

/-- No setting is overridden twice. -/
theorem keyed_overrides (environment : Table String) : (overrides environment).Keyed :=
  overrides_eq environment ▸ keyed_rowsOf _

/-- All keys of overrides are known. -/
theorem keysShown_overrides (environment : Table String) : KeysShown (overrides environment) :=
  overrides_eq environment ▸ keysShown_rowsOf _

/-- Overrides can be converted just if the texts of all variables can. -/
theorem converts_overrides : Converts (overrides environment) ↔ EnvironmentConverts environment := by
  constructor
  · exact fun h setting text htext => h setting (.text text) (mem_overrides.2 ⟨text, htext, rfl⟩)
  · intro h setting value hmem
    obtain ⟨text, htext, rfl⟩ := mem_overrides.1 hmem
    exact h setting text htext

instance (environment : Table String) : Decidable (EnvironmentConverts environment) :=
  decidable_of_iff _ converts_overrides

/-- The variable for the path of the file is not that of a setting. -/
theorem variableName_ne_pathVariable (setting : Setting) : setting.variableName ≠ pathVariable := by
  cases setting <;> decide +kernel

/-- The variable that names the configuration file holds no setting. -/
theorem overrides_erase (environment : Table String) :
    overrides (environment.erase pathVariable) = overrides environment := by
  rw [overrides_eq, overrides_eq]
  congr 1
  funext setting
  rw [Table.get?_erase, if_neg (variableName_ne_pathVariable setting)]

/-! ### The file -/

/-- A file that cannot be read, or that holds no mapping. -/
inductive Unusable (format : Format) : FileView → Prop where
  | missing : Unusable format .missing
  | unreadable : Unusable format .unreadable
  | malformed {content : List UInt8} (hread : format.read content = .error .malformed) :
    Unusable format (.bytes content)
  | noMapping {content : List UInt8} {document : Value} (hread : format.read content = .ok document)
    (hdocument : ∀ entries, document ≠ .map entries) : Unusable format (.bytes content)

theorem readMapping_of_map (hread : format.read content = .ok (.map entries)) (path : String) :
    readMapping format path (.bytes content) = .ok (entries, []) := by
  rw [readMapping, hread]
  cases entries <;> rfl

/-- A mishap of the reader is not caught. -/
theorem readMapping_of_mishap {what : Mishap} (hread : format.read content = .error (.mishap what)) (path : String) :
    readMapping format path (.bytes content) = .error (.mishap what) := by
  rw [readMapping, hread]

/-- A file that cannot be used leaves no entries, and a warning. -/
theorem readMapping_of_unusable {view : FileView} (h : Unusable format view) (path : String) :
    ∃ warnings, readMapping format path view = .ok ([], warnings) := by
  cases h with
  | missing => exact ⟨_, rfl⟩
  | unreadable => exact ⟨_, rfl⟩
  | malformed hread => exact ⟨_, by rw [readMapping, hread]⟩
  | @noMapping content document hread hdocument =>
    rw [readMapping, hread]
    cases htruthy : document.isTruthy with
    | false => exact ⟨[], by simp [htruthy]⟩
    | true =>
      cases document with
      | map entries => exact absurd rfl (hdocument entries)
      | _ => exact ⟨_, by simp only [htruthy]; rfl⟩

/-- Warnings do not change what has been taken over so far. -/
theorem outcome_log (draft : Draft) (warnings : List Log.Entry) :
    (warnings.foldl Draft.log draft).outcome = draft.outcome := by
  induction warnings generalizing draft with
  | nil => rfl
  | cons warning rest ih => exact ih (draft.log warning)

/-- Warnings about a file do not change what is read from it. -/
theorem outcome_readFile_of_ok {warnings : List Log.Entry}
    (h : readMapping format path (.bytes content) = .ok (entries, warnings)) :
    (Draft.initial.readFile format path (.bytes content)).outcome = entries.foldlM taking {} := by
  have hupdate : ((warnings.foldl Draft.log Draft.initial).update entries).outcome = entries.foldlM taking {} := by
    rw [outcome_update, outcome_log]
    rfl
  rw [← hupdate, Draft.readFile, h]
  · dsimp only
    cases houtcome : ((warnings.foldl Draft.log Draft.initial).update entries).outcome <;> exact houtcome
  · exact nofun

theorem outcome_readFile_of_mishap {what : Mishap} (hread : format.read content = .error (.mishap what))
    (path : String) : (Draft.initial.readFile format path (.bytes content)).outcome = .error (.mishap what) := by
  rw [Draft.readFile, readMapping_of_mishap hread path]
  exact nofun

/-- Over a file that cannot be used the defaults stand. -/
theorem outcome_readFile_of_unusable {view : FileView} (h : Unusable format view) (path : String) :
    (Draft.initial.readFile format path view).outcome = .ok {} := by
  obtain ⟨warnings, hwarnings⟩ := readMapping_of_unusable h path
  cases view with
  | missing => rfl
  | unreadable => rfl
  | bytes content => exact outcome_readFile_of_ok hwarnings

/-! ### Loading -/

/-- What the environment makes of the settings of the file. -/
theorem outcome_load (hpath : path? given environment = some path) :
    (load format given environment files).outcome =
      (Draft.initial.readFile format path (files path)).outcome.bind fun config =>
        (overrides environment).foldlM taking config := by
  rw [load, hpath]
  dsimp only
  cases h : (Draft.initial.readFile format path (files path)).outcome with
  | error fault => exact h
  | ok config => rw [outcome_update, h]

theorem outcome_load_without_file (format : Format) (environment : Table String) (files : String → FileView) :
    (load format "" (environment.erase pathVariable) files).outcome = (overrides environment).foldlM taking {} := by
  have hpath : path? "" (environment.erase pathVariable) = none := by
    rw [path?, Table.get?_erase, if_pos rfl]
    rfl
  rw [load, hpath, overrides_erase]
  exact outcome_update Draft.initial _

/-- First the file is taken over, and then the environment over it. -/
theorem outcome_load_of_map (hpath : path? given environment = some path) (hfile : files path = .bytes content)
    (hread : format.read content = .ok (.map entries)) :
    (load format given environment files).outcome =
      (entries.foldlM taking {}).bind fun config => (overrides environment).foldlM taking config := by
  rw [outcome_load hpath, hfile, outcome_readFile_of_ok (readMapping_of_map hread path)]

/-! ### Where the values of settings come from -/

/-- The value of a setting: from its variable in the environment, or else from the file, or else the usual one. -/
def settled (environment : Table String) (entries : Entries) (setting : Setting) :
    Except Fault setting.kind.Carrier :=
  match environment.get? setting.variableName, entries.getText? setting.key with
  | some text, _ => setting.kind.convert (.text text)
  | none, some .null => .ok setting.kind.zero
  | none, some value => setting.kind.convert value
  | none, none => .ok (Config.get {} setting)

/-- What ends up in a setting is the text of its variable, else the entry of the file, else the default. -/
theorem settled_of_lays {fromFile config : Config} (hkeyed : entries.Keyed) (hfile : Lays entries {} fromFile)
    (henvironment : Lays (overrides environment) fromFile config) (setting : Setting) :
    settled environment entries setting = .ok (config.get setting) := by
  rw [settled]
  cases hvariable : environment.get? setting.variableName with
  | some text => exact henvironment.given setting _ (mem_overrides.2 ⟨text, hvariable, rfl⟩)
  | none =>
    -- Without a variable of its own no override is for this setting, so that the file decides.
    have hunset (value : Value) : (.text setting.key, value) ∉ overrides environment := by
      intro hmem
      obtain ⟨text, htext, -⟩ := mem_overrides.1 hmem
      rw [hvariable] at htext
      cases htext
    rw [henvironment.kept setting hunset]
    cases hfound : entries.getText? setting.key with
    | none => rw [hfile.kept setting (hkeyed.getText?_eq_none.1 hfound)]
    | some value =>
      have hv := hfile.given setting value (hkeyed.getText?_eq_some.1 hfound)
      cases value <;> exact hv

/-- Loading succeeds with the mapping of the file and then the environment laid over the usual settings. -/
theorem outcome_load_eq_ok_iff {config : Config} (hpath : path? given environment = some path)
    (hfile : files path = .bytes content) (hread : format.read content = .ok (.map entries)) (hkeyed : entries.Keyed) :
    (load format given environment files).outcome = .ok config ↔
      KeysShown entries ∧ ∃ fromFile, Lays entries {} fromFile ∧ Lays (overrides environment) fromFile config := by
  rw [outcome_load_of_map hpath hfile hread]
  -- The file is laid over the defaults first, and the variables over what comes of it.
  constructor
  · intro h
    cases hfromFile : entries.foldlM taking {} with
    | error fault =>
      rw [hfromFile] at h
      cases h
    | ok fromFile =>
      rw [hfromFile] at h
      obtain ⟨hlays, hshown⟩ := (foldlM_taking_eq_ok_iff hkeyed).1 hfromFile
      exact ⟨hshown, fromFile, hlays, ((foldlM_taking_eq_ok_iff (keyed_overrides environment)).1 h).1⟩
  · rintro ⟨hshown, fromFile, hlays, henvironment⟩
    rw [(foldlM_taking_eq_ok_iff hkeyed).2 ⟨hlays, hshown⟩]
    exact (foldlM_taking_eq_ok_iff (keyed_overrides environment)).2 ⟨henvironment, keysShown_overrides environment⟩

/-- Only what a mapping has under the keys of settings counts, and not in which order. -/
theorem Lays.congr {other : Entries} {below above : Config} (h : Lays entries below above) (hkeyed : entries.Keyed)
    (hother : other.Keyed)
    (hsame : ∀ setting : Setting, entries.getText? setting.key = other.getText? setting.key) :
    Lays other below above := by
  have hmem (setting : Setting) (value : Value) :
      (.text setting.key, value) ∈ entries ↔ (.text setting.key, value) ∈ other := by
    rw [← hkeyed.getText?_eq_some, ← hother.getText?_eq_some, hsame]
  exact ⟨fun setting value hvalue => h.given setting value ((hmem setting value).2 hvalue),
    fun setting hnone => h.kept setting fun value hvalue => hnone value ((hmem setting value).1 hvalue)⟩

/-- Two outcomes that succeed alike have the same value, if any. -/
theorem toOption_eq_of_ok_iff {ε α : Type} {x y : Except ε α} (h : ∀ a, x = .ok a ↔ y = .ok a) :
    x.toOption = y.toOption := by
  cases x with
  | ok a => rw [(h a).1 rfl]
  | error fault =>
    cases y with
    | ok b => cases (h b).2 rfl
    | error other => rfl

section Mapping

variable (hpath : path? given environment = some path) (hfile : files path = .bytes content)
  (hread : Format.yaml.read content = .ok (.map entries))

include hpath hfile hread

/-- If everything can be converted and every key written out, there is a configuration, and each setting is
settled in it. -/
theorem load_of_converts (hconverts : Converts entries) (henvironment : EnvironmentConverts environment)
    (hshown : KeysShown entries) :
    ∃ config, (load Format.yaml given environment files).outcome = .ok config ∧
      ∀ setting, settled environment entries setting = .ok (config.get setting) := by
  have hkeyed := Format.keyed_of_read hread
  obtain ⟨fromFile, hfromFile⟩ := exists_lays hkeyed hconverts {}
  obtain ⟨config, hconfig⟩ :=
    exists_lays (keyed_overrides environment) (converts_overrides.2 henvironment) fromFile
  exact ⟨config, (outcome_load_eq_ok_iff hpath hfile hread hkeyed).2 ⟨hshown, fromFile, hfromFile, hconfig⟩,
    settled_of_lays hkeyed hfromFile hconfig⟩

/-- Otherwise there is none. -/
theorem load_error_of_not
    (h : ¬(Converts entries ∧ EnvironmentConverts environment ∧ KeysShown entries)) :
    ∃ fault, (load Format.yaml given environment files).outcome = .error fault := by
  cases houtcome : (load Format.yaml given environment files).outcome with
  | error fault => exact ⟨fault, rfl⟩
  | ok config =>
    obtain ⟨hshown, fromFile, hfromFile, hconfig⟩ :=
      (outcome_load_eq_ok_iff hpath hfile hread (Format.keyed_of_read hread)).1 houtcome
    exact absurd ⟨hfromFile.converts, converts_overrides.1 hconfig.converts, hshown⟩ h

/-- A record of plain values goes the way of the configuration through both mappings. -/
theorem retaking_load :
    (entries.foldlM retaking (toEntries {})).bind (fun record => (overrides environment).foldlM retaking record) =
      (load Format.yaml given environment files).outcome.map toEntries := by
  rw [outcome_load_of_map hpath hfile hread, foldlM_retaking]
  cases entries.foldlM taking {} with
  | error fault => rfl
  | ok fromFile => exact foldlM_retaking fromFile (overrides environment)

/-- Two files that say the same of the settings lead to the same configuration. -/
theorem load_congr {otherFiles : String → FileView} {otherContent : List UInt8} {other : Entries}
    (hotherFile : otherFiles path = .bytes otherContent) (hotherRead : Format.yaml.read otherContent = .ok (.map other))
    (hshown : KeysShown entries) (hotherShown : KeysShown other)
    (hsame : ∀ setting : Setting, entries.getText? setting.key = other.getText? setting.key) :
    (load Format.yaml given environment files).outcome.toOption =
      (load Format.yaml given environment otherFiles).outcome.toOption := by
  have hkeyed := Format.keyed_of_read hread
  have hother := Format.keyed_of_read hotherRead
  refine toOption_eq_of_ok_iff fun config => ?_
  rw [outcome_load_eq_ok_iff hpath hfile hread hkeyed, outcome_load_eq_ok_iff hpath hotherFile hotherRead hother,
    and_iff_right hshown, and_iff_right hotherShown]
  exact exists_congr fun fromFile => and_congr_left fun _ =>
    ⟨fun h => h.congr hkeyed hother hsame, fun h => h.congr hother hkeyed fun setting => (hsame setting).symm⟩

/--
The settings over a configuration file that holds a mapping. If all values can be converted, and all keys
that name no settings can be told in a warning, every setting has the value of its variable, or else that of
the file, or else the usual one, and all values are of the kinds of the usual ones; the configuration is read
back from what it is written to. Otherwise there is none. A record of plain values, each converted to the kind
of the value that is there, goes the same way, and files that say the same of the settings lead to the same
configuration.
-/
theorem load_layers :
    (Converts entries ∧ EnvironmentConverts environment ∧ KeysShown entries →
      ∃ config, (load Format.yaml given environment files).outcome = .ok config ∧
        (∀ setting, settled environment entries setting = .ok (config.get setting)) ∧
        (∀ setting : Setting, (Entries.getText? config.toEntries setting.key).bind Kind.of? =
          (Entries.getText? (toEntries {}) setting.key).bind Kind.of?) ∧
        (ofEntries config.toEntries).outcome = .ok config) ∧
    (¬(Converts entries ∧ EnvironmentConverts environment ∧ KeysShown entries) →
      ∃ fault, (load Format.yaml given environment files).outcome = .error fault) ∧
    (entries.foldlM retaking (toEntries {})).bind (fun record => (overrides environment).foldlM retaking record) =
      (load Format.yaml given environment files).outcome.map toEntries ∧
    ∀ (otherFiles : String → FileView) (otherContent : List UInt8) (other : Entries),
      otherFiles path = .bytes otherContent → Format.yaml.read otherContent = .ok (.map other) →
      KeysShown entries → KeysShown other →
      (∀ setting : Setting, entries.getText? setting.key = other.getText? setting.key) →
      (load Format.yaml given environment files).outcome.toOption =
        (load Format.yaml given environment otherFiles).outcome.toOption := by
  refine ⟨?_, load_error_of_not hpath hfile hread, retaking_load hpath hfile hread, ?_⟩
  · -- Kinds are compared through the defaults, whose kinds the settings have by definition.
    rintro ⟨hconverts, henvironment, hshown⟩
    obtain ⟨config, houtcome, hsettled⟩ := load_of_converts hpath hfile hread hconverts henvironment hshown
    exact ⟨config, houtcome, hsettled,
      fun setting => (kind_toEntries config setting).trans (kind_toEntries {} setting).symm,
      outcome_ofEntries_toEntries config⟩
  · intro otherFiles otherContent other hotherFile hotherRead hshown hotherShown hsame
    exact load_congr hpath hfile hread hotherFile hotherRead hshown hotherShown hsame

end Mapping

namespace Sample

/-- The same file under every path. -/
def only (content : List UInt8) : String → FileView := fun _ => .bytes content

/-- A file with a port as a text, a null, and a key that names no setting. -/
def mixed : List UInt8 := Text.utf8 "dns_port: '8053'\nmax_nodes:\nbogus: 1\ndns_host: 10.1.1.53\n"

/-- Known and unknown keys, with values of several kinds. -/
def mixedEntries : Entries :=
  [(.text "dns_port", .text "8053"), (.text "max_nodes", .null), (.text "bogus", .int 1),
    (.text "dns_host", .text "10.1.1.53")]

end Sample

open Sample in
/-- The environment wins over the file, and null is the zero of a number. -/
theorem load_layers_of_mixed :
    (load Format.yaml "dyncluster.yaml" [("DYNCLUSTER_DNS_PORT", "53")] (only mixed)).outcome =
      .ok { dnsPort := 53, maxNodes := 0, dnsHost := "10.1.1.53" } := by
  have hread : Format.yaml.read mixed = .ok (.map mixedEntries) := by decide +kernel
  have hconverts : Converts mixedEntries ∧ EnvironmentConverts [("DYNCLUSTER_DNS_PORT", "53")] ∧
    KeysShown mixedEntries := by decide +kernel
  have hpath : path? "dyncluster.yaml" [("DYNCLUSTER_DNS_PORT", "53")] = some "dyncluster.yaml" := rfl
  have hfile : only mixed "dyncluster.yaml" = .bytes mixed := rfl
  obtain ⟨config, houtcome, hsettled, -⟩ := (load_layers hpath hfile hread).1 hconverts
  have hmixed (setting : Setting) : settled [("DYNCLUSTER_DNS_PORT", "53")] mixedEntries setting =
      .ok (Config.get { dnsPort := 53, maxNodes := 0, dnsHost := "10.1.1.53" } setting) := by
    cases setting <;> decide +kernel
  rw [houtcome, ext_get fun setting => Except.ok.inj ((hsettled setting).symm.trans (hmixed setting))]

/-! ### Files without settings -/

/--
A file that cannot be read or that holds no mapping leaves all settings as they are without a file, whatever
the environment holds; only a mishap of the reader of documents ends the loading.
-/
theorem load_over_unusable (hpath : path? given environment = some path) :
    (Unusable format (files path) →
      (load format given environment files).outcome =
        (load format "" (environment.erase pathVariable) files).outcome ∧
      (EnvironmentConverts environment → ∃ config, (load format given environment files).outcome = .ok config)) ∧
    ∀ content what, files path = .bytes content → format.read content = .error (.mishap what) →
      (load format given environment files).outcome = .error (.mishap what) := by
  constructor
  · intro hunusable
    -- A file that is not usable leaves the empty mapping, and only the variables remain.
    have hload : (load format given environment files).outcome = (overrides environment).foldlM taking {} := by
      rw [outcome_load hpath, outcome_readFile_of_unusable hunusable path]
      rfl
    refine ⟨hload.trans (outcome_load_without_file format environment files).symm, fun hconverts => ?_⟩
    obtain ⟨config, hconfig⟩ := exists_lays (keyed_overrides environment) (converts_overrides.2 hconverts) {}
    exact ⟨config, hload.trans ((foldlM_taking_eq_ok_iff (keyed_overrides environment)).2
      ⟨hconfig, keysShown_overrides environment⟩)⟩
  · intro content what hfile hread
    rw [outcome_load hpath, hfile, outcome_readFile_of_mishap hread path]
    rfl

namespace Sample

/-- A file with a list instead of a mapping. -/
def listed : List UInt8 := Text.utf8 "- just\n- a list\n"

/-- A file with a day of which there is none. -/
def impossible : List UInt8 := Text.utf8 "a: 2024-13-45\n"

/-- A byte with which no text starts. -/
def undecodable : List UInt8 := [0xFF]

end Sample

open Sample in
theorem load_over_unusable_of_listed :
    (load Format.yaml "" [(pathVariable, "dyncluster.yaml"), ("DYNCLUSTER_DNS_PORT", "53")] (only listed)).outcome =
      .ok { dnsPort := 53 } := by
  have hread : Format.yaml.read listed = .ok (.list [.text "just", .text "a list"]) := by decide +kernel
  have hpath : path? "" [(pathVariable, "dyncluster.yaml"), ("DYNCLUSTER_DNS_PORT", "53")] = some "dyncluster.yaml" := by
    decide +kernel
  have hunusable : Unusable Format.yaml (only listed "dyncluster.yaml") := .noMapping hread fun _ => nofun
  rw [((load_over_unusable hpath).1 hunusable).1, outcome_load_without_file]
  decide +kernel

open Sample in
/-- Bytes that are no text, and days of which there are none, keep the settings from being loaded. -/
theorem load_over_impossible_day :
    (load Format.yaml "dyncluster.yaml" [] (only impossible)).outcome = .error (.mishap .badValue) ∧
    (load Format.yaml "dyncluster.yaml" [] (only undecodable)).outcome = .error (.mishap .undecodable) ∧
    (load Format.yaml "" [] (only impossible)).outcome = .ok {} := by
  have himpossible : Format.yaml.read impossible = .error (.mishap .badValue) := by decide +kernel
  have hundecodable : Format.yaml.read undecodable = .error (.mishap .undecodable) := by decide +kernel
  have hpath : path? "dyncluster.yaml" [] = some "dyncluster.yaml" := rfl
  have hfile (content : List UInt8) : only content "dyncluster.yaml" = .bytes content := rfl
  refine ⟨?_, ?_, rfl⟩
  · rw [outcome_load hpath, hfile, outcome_readFile_of_mishap himpossible]
    rfl
  · rw [outcome_load hpath, hfile, outcome_readFile_of_mishap hundecodable]
    rfl

end ClusterLease.Config
