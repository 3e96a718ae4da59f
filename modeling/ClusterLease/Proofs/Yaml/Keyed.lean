import Mathlib.Data.List.Pairwise
import ClusterLease.Lease.Store
import ClusterLease.Yaml.Document

/-!
Mappings in which no key comes twice.

A mapping that is put together pair by pair is like that (`keyed_ofPairs`), and so is every mapping that
is read from a YAML document (`keyed_of_read`). What such a mapping holds under a text does not depend
on the order of its entries (`Keyed.getText?_eq_some`).
-/

namespace ClusterLease

namespace Value

/-- Only the text itself is the same key as a text. -/
theorem sameKey_text {key : Value} {s : String} : key.sameKey (.text s) = true ↔ key = .text s := by
  constructor
  · intro h
    cases key with
    | text other => exact congrArg Value.text (eq_of_beq h)
    | real x => cases hx : x.toInt? <;> simp [sameKey, wholeNumber?, hx] at h
    | _ => cases h
  · rintro rfl
    exact beq_self_eq_true s

/-- A text is the same key as itself only, from the other side. -/
theorem text_sameKey {key : Value} {s : String} : (Value.text s).sameKey key = true ↔ key = .text s := by
  constructor
  · intro h
    cases key with
    | text other => exact congrArg Value.text (eq_of_beq h).symm
    | real x => cases hx : x.toInt? <;> simp [sameKey, wholeNumber?, hx] at h
    | _ => cases h
  · rintro rfl
    exact beq_self_eq_true s

end Value

namespace Entries

variable {entries : Entries} {entry : Value × Value} {key : String} {value : Value}

/-- No key of a mapping is the same as a later one. -/
def Keyed (entries : Entries) : Prop := entries.Pairwise fun a b => a.1.sameKey b.1 = false

theorem keyed_nil : Keyed [] := List.Pairwise.nil

/-- A key comes first and never again. -/
theorem keyed_cons : Keyed (entry :: entries) ↔
    (∀ other ∈ entries, entry.1.sameKey other.1 = false) ∧ Keyed entries := List.pairwise_cons

/-- Under a key that was put, there is the value of it, and all other entries were there before. -/
theorem of_mem_put {key value : Value} (h : entry ∈ put entries key value) :
    (∃ old, (entry.1, old) ∈ entries) ∨ entry.1 = key := by
  induction entries with
  | nil => exact .inr (congrArg Prod.fst (List.mem_singleton.1 h))
  | cons first rest ih =>
    obtain ⟨k, old⟩ := first
    rw [put] at h
    split at h
    · rcases List.mem_cons.1 h with rfl | hrest
      · exact .inl ⟨old, List.mem_cons_self⟩
      · exact .inl ⟨entry.2, List.mem_cons_of_mem _ hrest⟩
    · rcases List.mem_cons.1 h with rfl | hrest
      · exact .inl ⟨old, List.mem_cons_self⟩
      · exact (ih hrest).imp_left fun ⟨old, hold⟩ => ⟨old, List.mem_cons_of_mem _ hold⟩

/-- Putting a value replaces the one of the same key, so that still no key comes twice. -/
theorem Keyed.put (h : Keyed entries) (key value : Value) : Keyed (entries.put key value) := by
  induction entries with
  | nil => exact List.pairwise_singleton _ _
  | cons first rest ih =>
    obtain ⟨k, old⟩ := first
    obtain ⟨hfirst, hrest⟩ := keyed_cons.1 h
    rw [Entries.put]
    split
    · exact keyed_cons.2 ⟨hfirst, hrest⟩
    · next hnew =>
      refine keyed_cons.2 ⟨fun other hother => ?_, ih hrest⟩
      -- What comes after the first entry was there before, or has the new key, which is not the first.
      rcases of_mem_put hother with ⟨old, hold⟩ | hkey
      · exact hfirst (other.1, old) hold
      · rw [hkey]
        exact Bool.not_eq_true _ ▸ hnew

/-- Later pairs replace earlier ones of the same key. -/
theorem keyed_ofPairs (pairs : List (Value × Value)) : Keyed (ofPairs pairs) :=
  List.foldlRecOn pairs _ keyed_nil fun _ hentries pair _ => hentries.put pair.1 pair.2

/-! ### What is found under a text -/

theorem getText?_cons_self (h : entry.1 = .text key) : getText? (entry :: entries) key = some entry.2 := by
  rw [getText?, get?, List.find?_cons, Value.sameKey_text.2 h]
  rfl

theorem getText?_cons_of_ne (h : entry.1 ≠ .text key) : getText? (entry :: entries) key = getText? entries key := by
  rw [getText?, get?, List.find?_cons, Bool.eq_false_iff.2 (mt Value.sameKey_text.1 h)]
  rfl

/-- The key of the first entry is not met again behind it. -/
theorem Keyed.not_mem (h : Keyed (entry :: entries)) (hkey : entry.1 = .text key) (value : Value) :
    (.text key, value) ∉ entries := by
  intro hmem
  have hsame := (keyed_cons.1 h).1 _ hmem
  rw [hkey, Value.sameKey_text.2 rfl] at hsame
  cases hsame

/-- The search finds the first entry of a key, which is the only one. -/
theorem Keyed.getText?_eq_some (h : Keyed entries) :
    entries.getText? key = some value ↔ (.text key, value) ∈ entries := by
  induction entries with
  | nil => exact ⟨nofun, nofun⟩
  | cons entry rest ih =>
    by_cases hkey : entry.1 = .text key
    · rw [getText?_cons_self hkey, Option.some_inj, List.mem_cons, or_iff_left (h.not_mem hkey value), Prod.ext_iff]
      exact ⟨fun hvalue => ⟨hkey.symm, hvalue.symm⟩, fun heq => heq.2.symm⟩
    · rw [getText?_cons_of_ne hkey, ih (keyed_cons.1 h).2, List.mem_cons]
      exact ⟨.inr, fun hmem => hmem.resolve_left fun heq => hkey (congrArg Prod.fst heq).symm⟩

/-- Nothing is found under a key that is in no entry. -/
theorem Keyed.getText?_eq_none (h : Keyed entries) :
    entries.getText? key = none ↔ ∀ value, (.text key, value) ∉ entries := by
  rw [Option.eq_none_iff_forall_ne_some]
  exact forall_congr' fun value => not_congr h.getText?_eq_some

end Entries

/-! ### Documents -/

namespace Yaml

/-- No scalar is a mapping, whatever its tag makes of it. -/
theorem Scalar.value_ne_map {tag : Tag} {s : String} {entries : Entries} :
    Scalar.value tag s ≠ .ok (.map entries) := by
  have hmap {α : Type} {f : α → Value} (hf : ∀ a, f a ≠ .map entries) (outcome : Except Problem α) :
      outcome.map f ≠ .ok (.map entries) := by
    cases outcome with
    | error problem => exact nofun
    | ok a => exact fun h => hf a (Except.ok.inj h)
  cases tag with
  | bool => exact hmap nofun _
  | int => exact hmap nofun _
  | float => exact hmap nofun _
  | binary =>
    intro h
    rw [Scalar.value, Scalar.binary] at h
    split at h
    · split at h <;> cases h
    · cases h
  -- A stamp is a day, a moment, or no stamp.
  | timestamp =>
    rw [Scalar.value, Scalar.timestamp]
    cases Scalar.orFail .missingMember (Stamp.ofTagged? s.toList) with
    | error problem => exact nofun
    | ok stamp =>
      dsimp only [bind, Except.bind]
      split
      · exact nofun
      · split
        · exact nofun
        · exact @hmap _ Value.moment (fun _ => Value.noConfusion) _
  | _ => exact nofun

/-- What a scalar gives is not changed when it becomes part of a document. -/
theorem Built.value_ofScalar {outcome : Except Problem Value} {entries : Entries}
    (h : (Built.ofScalar outcome).value = .map entries) : outcome = .ok (.map entries) := by
  cases outcome with
  | error problem => cases h
  | ok value => exact congrArg Except.ok h

/-- A mapping of a document is put together pair by pair. -/
theorem Built.keyed_mapping {found : Option (List (Built × Built))} {entries : Entries}
    (h : ((found.map mapping).getD broken).value = .map entries) : entries.Keyed := by
  cases found with
  | none => cases h
  | some all =>
    cases h
    exact Entries.keyed_ofPairs _

/-- A set of a document is no mapping. -/
theorem Built.value_set {found : Option (List (Built × Built))} {entries : Entries} :
    ((found.map set).getD broken).value ≠ .map entries := by
  cases found <;> exact nofun

/-- Whatever a node looks like, only its being made into a mapping makes it one. -/
theorem Node.keyed_build {left : Nat} {node : Node} {entries : Entries}
    (h : (node.build left).value = .map entries) : entries.Keyed := by
  cases left with
  | zero => cases h
  | succ left =>
    unfold Node.build at h
    dsimp only at h
    split at h
    -- Mappings with and without order, sets and plain scalars are the kinds that come near to one.
    case h_2 => exact Built.keyed_mapping h
    case h_3 => exact absurd h Built.value_set
    case h_11 =>
      split at h
      · exact absurd (Built.value_ofScalar h) Scalar.value_ne_map
      · cases Built.value_ofScalar h
    all_goals cases h

/-- A document that is a mapping was built from one node. -/
theorem keyed_of_read {cs : List Char} {entries : Entries} (h : read cs = .ok (.map entries)) : entries.Keyed := by
  unfold read at h
  cases hnode : Node.ofText? cs with
  | error problem =>
    rw [hnode] at h
    cases h
  | ok found =>
    rw [hnode] at h
    cases found with
    | none => cases h
    | some node =>
      have hvalue : node.toValue = .ok (.map entries) := h
      unfold Node.toValue at hvalue
      dsimp only at hvalue
      split at hvalue
      · cases hvalue
      · exact Node.keyed_build (Except.ok.inj hvalue)

end Yaml

/-- The mapping of a file has no key twice. -/
theorem Format.keyed_of_read {content : List UInt8} {entries : Entries}
    (h : Format.yaml.read content = .ok (.map entries)) : entries.Keyed := by
  unfold Format.yaml at h
  dsimp only at h
  split at h
  · exact Yaml.keyed_of_read h
  · cases h

end ClusterLease
