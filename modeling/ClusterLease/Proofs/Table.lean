import Mathlib.Data.List.Nodup
import Mathlib.Data.List.Perm.Basic
import ClusterLease.Table

/-!
Tables in which no key has two values.

Putting values keeps a table like that (`Distinct.put`), and what it holds does not depend on its
order: it is what `get?` finds (`Distinct.get?_eq_some`), and two such tables in which the same is
found have the same entries (`Distinct.perm_iff`). Sorted by their keys they are equal
(`Distinct.mergeSort_eq_of_perm`).
-/

namespace ClusterLease.Table

variable {α β : Type} {table other : Table α} {rows : Table α} {key : String} {value : α}

/-- No key of a table comes twice. -/
def Distinct (table : Table α) : Prop := (table.map (·.1)).Nodup

instance (table : Table α) : Decidable (Distinct table) := inferInstanceAs (Decidable (List.Nodup _))

theorem distinct_nil : Distinct ([] : Table α) := List.nodup_nil

theorem distinct_cons {entry : String × α} :
    Distinct (entry :: table) ↔ entry.1 ∉ table.map (·.1) ∧ Distinct table := List.nodup_cons

/-- Putting an entry adds its key behind the others, unless it is there. -/
theorem keys_put (table : Table α) (key : String) (value : α) :
    (table.put key value).map (·.1) =
      if key ∈ table.map (·.1) then table.map (·.1) else table.map (·.1) ++ [key] := by
  induction table with
  | nil => rfl
  | cons entry rest ih =>
    obtain ⟨k, old⟩ := entry
    rw [put]
    by_cases hk : k = key
    · simp [hk]
    · rw [if_neg hk, List.map_cons, List.map_cons, ih]
      by_cases hmem : key ∈ rest.map (·.1)
      · rw [if_pos hmem, if_pos (List.mem_cons_of_mem _ hmem)]
      · rw [if_neg hmem, if_neg (by simpa [Ne.symm hk] using hmem)]
        rfl

theorem Distinct.put (h : Distinct table) (key : String) (value : α) :
    Distinct (table.put key value) := by
  rw [Distinct, keys_put]
  split
  · exact h
  · next hnew => exact List.nodup_append.2 ⟨h, by simp, by
      intro k hk other hother heq
      rw [List.mem_singleton.1 hother] at heq
      exact hnew (heq ▸ hk)⟩

/-- A new key goes to the end. -/
theorem put_of_new (h : key ∉ table.map (·.1)) : table.put key value = table ++ [(key, value)] := by
  induction table with
  | nil => rfl
  | cons entry rest ih =>
    obtain ⟨k, old⟩ := entry
    rw [List.map_cons, List.mem_cons, not_or] at h
    rw [Table.put, if_neg (Ne.symm h.1), ih h.2]
    rfl

/-- Putting the value that is there already changes nothing. -/
theorem put_of_get? (h : table.get? key = some value) : table.put key value = table := by
  induction table with
  | nil => cases h
  | cons entry rest ih =>
    obtain ⟨k, old⟩ := entry
    rw [Table.get?, List.lookup_cons] at h
    rw [Table.put]
    by_cases hk : k = key
    · subst hk
      rw [beq_self_eq_true] at h
      cases h
      rw [if_pos rfl]
    · rw [beq_eq_false_iff_ne.2 (Ne.symm hk)] at h
      rw [if_neg hk, ih h]

/-! ### What is found -/

/-- Where keys are different, looking one up finds exactly its entry. -/
theorem Distinct.get?_eq_some (h : Distinct table) :
    table.get? key = some value ↔ (key, value) ∈ table := by
  induction table with
  | nil => simp [get?]
  | cons entry rest ih =>
    obtain ⟨k, old⟩ := entry
    obtain ⟨hnew, hrest⟩ := distinct_cons.1 h
    have ih := ih hrest
    rw [get?] at ih ⊢
    by_cases hk : key = k
    · subst hk
      have hnot : (key, value) ∉ rest := fun hmem => hnew (List.mem_map.2 ⟨_, hmem, rfl⟩)
      simp [List.lookup_cons_self, hnot, eq_comm]
    · rw [List.lookup_cons, beq_eq_false_iff_ne.2 hk, List.mem_cons, ← ih]
      simp [hk]

/-- Tables without double keys have the same entries if the same is found in them. -/
theorem Distinct.perm_iff (h : Distinct table) (hother : Distinct other) :
    table.Perm other ↔ ∀ key, table.get? key = other.get? key := by
  rw [List.perm_ext_iff_of_nodup h.of_map hother.of_map]
  constructor
  · intro hmem key
    refine Option.ext fun value => ?_
    rw [h.get?_eq_some, hother.get?_eq_some, hmem]
  · rintro hget ⟨key, value⟩
    rw [← h.get?_eq_some, ← hother.get?_eq_some, hget]

theorem Distinct.of_perm (h : Distinct table) (hperm : other.Perm table) : Distinct other :=
  (hperm.map _).nodup_iff.2 h

/-- Putting a value into two tables with the same entries leaves them so. -/
theorem Distinct.put_perm (h : Distinct table) (hperm : other.Perm table) (key : String) (value : α) :
    (other.put key value).Perm (table.put key value) := by
  have hother := h.of_perm hperm
  rw [(hother.put key value).perm_iff (h.put key value)]
  intro k
  rw [get?_put, get?_put, (hother.perm_iff h).1 hperm]

theorem Distinct.map (h : Distinct table) (f : α → β) :
    Distinct (table.map fun (key, value) => (key, f value)) := by
  rwa [Distinct, List.map_map]

theorem get?_map (f : α → β) (table : Table α) (key : String) :
    get? (table.map fun (key, value) => (key, f value)) key = (table.get? key).map f := by
  induction table with
  | nil => rfl
  | cons entry rest ih =>
    rw [get?, get?] at ih ⊢
    rw [List.map_cons, List.lookup_cons, List.lookup_cons]
    cases key == entry.1 with
    | true => rfl
    | false => exact ih

/-! ### Sorting -/

/-- What is sorted by texts has the smaller texts first. -/
theorem pairwise_mergeSort {ι : Type} (text : ι → String) (items : List ι) :
    (items.mergeSort fun a b => text a ≤ text b).Pairwise (text · ≤ text ·) := by
  have htrans (a b c : ι) : decide (text a ≤ text b) = true → decide (text b ≤ text c) = true →
      decide (text a ≤ text c) = true := by simpa using String.le_trans
  have htotal (a b : ι) : (decide (text a ≤ text b) || decide (text b ≤ text a)) = true := by
    simpa using String.le_total (text a) (text b)
  simpa using List.pairwise_mergeSort htrans htotal items

/-- Sorting by keys forgets the order of a table. -/
theorem Distinct.mergeSort_eq_of_perm (h : Distinct table) (hperm : table.Perm other) :
    (table.mergeSort fun a b => a.1 ≤ b.1) = other.mergeSort fun a b => a.1 ≤ b.1 := by
  have hsorted := (List.mergeSort_perm table fun a b => a.1 ≤ b.1).trans
    (hperm.trans (List.mergeSort_perm other fun a b => a.1 ≤ b.1).symm)
  refine hsorted.eq_of_pairwise (fun a b ha hb hab hba => ?_) (pairwise_mergeSort (·.1) table)
    (pairwise_mergeSort (·.1) other)
  have ha : a ∈ table := List.mem_mergeSort.1 ha
  have hb : b ∈ table := hperm.symm.subset (List.mem_mergeSort.1 hb)
  exact List.inj_on_of_nodup_map h ha hb (String.le_antisymm hab hba)

/-! ### Merging -/

theorem Distinct.merge (h : Distinct table) (rows : Table α) : Distinct (table.merge rows) := by
  induction rows generalizing table with
  | nil => exact h
  | cons row rest ih => exact ih (h.put row.1 row.2)

/-- Merging adds the keys of the rows and takes none away. -/
theorem mem_keys_merge (table rows : Table α) (key : String) :
    key ∈ (table.merge rows).map (·.1) ↔ key ∈ table.map (·.1) ∨ key ∈ rows.map (·.1) := by
  induction rows generalizing table with
  | nil => simp [merge]
  | cons row rest ih =>
    have hput : key ∈ (table.put row.1 row.2).map (·.1) ↔ key ∈ table.map (·.1) ∨ key = row.1 := by
      rw [keys_put]
      split
      · next hold => exact ⟨.inl, fun h => h.elim id fun heq => heq ▸ hold⟩
      · rw [List.mem_append, List.mem_singleton]
    show key ∈ (merge (table.put row.1 row.2) rest).map (·.1) ↔ _
    rw [ih, hput, List.map_cons, List.mem_cons, or_assoc]

theorem get?_merge_of_not_mem (table : Table α) (h : key ∉ rows.map (·.1)) :
    (table.merge rows).get? key = table.get? key := by
  induction rows generalizing table with
  | nil => rfl
  | cons row rest ih =>
    rw [List.map_cons, List.mem_cons, not_or] at h
    show (merge (table.put row.1 row.2) rest).get? key = _
    rw [ih _ h.2, get?_put, if_neg h.1]

/-- Of several rows with one key the last one counts. -/
theorem get?_merge_of_last (table before : Table α) {after : Table α} (h : key ∉ after.map (·.1)) :
    (table.merge (before ++ (key, value) :: after)).get? key = some value := by
  rw [merge, List.foldl_append, List.foldl_cons]
  show (merge (put _ key value) after).get? key = _
  rw [get?_merge_of_not_mem _ h, get?_put, if_pos rfl]

/-- A merged table holds what the rows hold, and under all other keys what it held before. -/
theorem get?_merge (hrows : Distinct rows) (table : Table α) (key : String) :
    (table.merge rows).get? key = (rows.get? key).or (table.get? key) := by
  induction rows generalizing table with
  | nil => rfl
  | cons row rest ih =>
    obtain ⟨k, value⟩ := row
    obtain ⟨hnew, hrest⟩ := distinct_cons.1 hrows
    show (merge (table.put k value) rest).get? key = _
    rw [ih hrest, get?_put]
    by_cases hk : key = k
    · subst hk
      -- The rest has no value under this key, for no key comes twice.
      have hnone : Table.get? rest key = none := by
        rw [Option.eq_none_iff_forall_ne_some]
        exact fun other h => hnew (List.mem_map.2 ⟨_, hrest.get?_eq_some.1 h, rfl⟩)
      rw [hnone, if_pos rfl]
      simp [get?]
    · rw [if_neg hk]
      simp [get?, List.lookup_cons, beq_eq_false_iff_ne.2 hk]

/-- Rows whose keys are all new follow the table as they are. -/
theorem merge_of_distinct (h : Distinct (table ++ rows)) : table.merge rows = table ++ rows := by
  induction rows generalizing table with
  | nil => exact (List.append_nil table).symm
  | cons row rest ih =>
    obtain ⟨key, value⟩ := row
    have hnew : key ∉ table.map (·.1) := by
      rw [Distinct, List.map_append, List.nodup_append] at h
      exact fun hmem => h.2.2 key hmem key (by simp) rfl
    have hsplit : table ++ (key, value) :: rest = table ++ [(key, value)] ++ rest := by simp
    show merge (table.put key value) rest = _
    rw [put_of_new hnew, hsplit]
    rw [hsplit] at h
    exact ih h

end ClusterLease.Table
