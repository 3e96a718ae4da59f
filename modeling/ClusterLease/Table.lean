/-!
Tables: mappings from texts, in the order in which their keys came in.

`put` replaces a value in its place; `get?_put` says that it changes nothing under other keys, and
`get?_erase` says the same of `erase`.
-/

namespace ClusterLease

/-- A mapping from texts, in order of first insertion. -/
abbrev Table (α : Type) := List (String × α)

namespace Table

variable {α : Type}

def get? (table : Table α) (key : String) : Option α := table.lookup key

/-- Adds a key at the end, or replaces the value of one that is there. -/
def put : Table α → String → α → Table α
  | [], key, value => [(key, value)]
  | (k, old) :: rest, key, value => if k = key then (k, value) :: rest else (k, old) :: put rest key value

/-- A table without what is under a key. -/
def erase (table : Table α) (key : String) : Table α := table.filter fun entry => entry.1 != key

/-- The first table, with the entries of the second added or replaced one by one. -/
def merge (table others : Table α) : Table α := others.foldl (fun all (key, value) => put all key value) table

/-- Putting a value changes what is under its key and under no other. -/
theorem get?_put (table : Table α) (key other : String) (value : α) :
    get? (put table key value) other = if other = key then some value else get? table other := by
  induction table with
  | nil => by_cases h : other = key <;> simp [put, get?, List.lookup_cons, h, beq_eq_false_iff_ne.2]
  | cons entry rest ih =>
    obtain ⟨k, old⟩ := entry
    simp only [get?] at ih
    by_cases hk : k = key
    · subst hk
      by_cases h : other = k
      · simp [put, get?, h]
      · simp [put, get?, List.lookup_cons, h, beq_eq_false_iff_ne.2 h]
    · by_cases h : other = k
      · subst h
        simp [put, get?, hk]
      · simp [put, get?, List.lookup_cons, hk, ih, beq_eq_false_iff_ne.2 h]

/-- Erasing a key changes nothing under other keys. -/
theorem get?_erase (table : Table α) (key other : String) :
    get? (erase table key) other = if other = key then none else get? table other := by
  induction table with
  | nil => simp [erase, get?]
  | cons entry rest ih =>
    obtain ⟨k, value⟩ := entry
    unfold get? erase at ih ⊢
    by_cases hk : k = key
    · subst hk
      rw [List.filter_cons_of_neg (by simp), ih, List.lookup_cons]
      by_cases h : other = k <;> simp [h, beq_eq_false_iff_ne.2]
    · rw [List.filter_cons_of_pos (by simpa using hk), List.lookup_cons, List.lookup_cons, ih]
      by_cases h : other = k
      · subst h
        simp [hk]
      · simp [beq_eq_false_iff_ne.2 h]

end Table

end ClusterLease
