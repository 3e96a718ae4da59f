import Mathlib.Data.List.DropRight
import Mathlib.Data.List.Infix
import ClusterLease.Text.Blank

/-!
What trimming leaves.

Characters of a class are dropped at the ends of a text and nowhere else: nothing of the class is left there
(`trim_head?`), what is not of the class stays (`mem_trim_of_neg`), and a text that starts and ends with
nothing of the class is not changed (`trim_eq_self_of_ends`).
-/

namespace ClusterLease.Text

variable {p : Char → Bool}

/-- Trimming at the right looks at the first text only if nothing is left of the second. -/
theorem trimRight_append (p : Char → Bool) (xs ys : List Char) :
    trimRight p (xs ++ ys) = if trimRight p ys = [] then trimRight p xs else xs ++ trimRight p ys := by
  simp only [trimRight, List.reverse_append, List.dropWhile_append, List.isEmpty_iff, List.reverse_eq_nil_iff]
  split <;> simp

theorem trimRight_append_of_neg {xs : List Char} {c : Char} (h : p c = false) :
    trimRight p (xs ++ [c]) = xs ++ [c] := by
  simp [trimRight, h]

/-- A text that ends in no character to be trimmed stays, whatever follows. -/
theorem prefix_trimRight_append {xs ys : List Char} (h : trimRight p xs = xs) :
    xs <+: trimRight p (xs ++ ys) := by
  rw [trimRight_append]
  split
  · rw [h]
  · exact List.prefix_append _ _

theorem trim_append_of_pos {xs : List Char} {c : Char} (h : p c = true) : trim p (xs ++ [c]) = trim p xs := by
  rw [trim, trim, List.dropWhile_append]
  split
  · next hxs => simp [List.isEmpty_iff.1 hxs, h]
  · rw [trimRight_append]
    simp [trimRight, h]

theorem trim_cons_of_pos {xs : List Char} {c : Char} (h : p c = true) : trim p (c :: xs) = trim p xs := by
  rw [trim, trim, List.dropWhile_cons_of_pos h]

/-- Nothing of the class is left at the start. -/
theorem trim_head? {cs : List Char} {c : Char} (h : (trim p cs).head? = some c) : p c = false := by
  obtain ⟨rest, hrest⟩ : trim p cs <+: cs.dropWhile p := List.rdropWhile_prefix p _
  have hfirst := List.head?_dropWhile_not p cs
  rw [← hrest, List.head?_append, h] at hfirst
  simpa using hfirst

/-- What is not of the class is never trimmed. -/
theorem mem_trim_of_neg {cs : List Char} {c : Char} (h : p c = false) : c ∈ trim p cs ↔ c ∈ cs := by
  have hdrop (cs : List Char) : c ∈ cs.dropWhile p ↔ c ∈ cs := by
    conv_rhs => rw [← List.takeWhile_append_dropWhile (p := p) (l := cs), List.mem_append]
    refine ⟨.inr, fun hmem => hmem.resolve_left fun htaken => ?_⟩
    rw [List.mem_takeWhile_imp htaken] at h
    cases h
  rw [trim, trimRight, List.mem_reverse, hdrop, List.mem_reverse, hdrop]

/-- A text that has nothing of the class at its ends stays. -/
theorem trim_eq_self_of_ends {cs : List Char} (hfirst : ∀ c, cs.head? = some c → p c = false)
    (hlast : ∀ c, cs.getLast? = some c → p c = false) : trim p cs = cs := by
  have hdrop : cs.dropWhile p = cs := by
    cases cs with
    | nil => rfl
    | cons c rest => rw [List.dropWhile_cons_of_neg (by rw [hfirst c rfl]; exact Bool.false_ne_true)]
  rw [trim, hdrop]
  refine List.rdropWhile_eq_self_iff.2 fun hne => ?_
  rw [hlast _ (List.getLast?_eq_some_getLast hne)]
  exact Bool.false_ne_true

theorem trim_eq_self {cs : List Char} (h : ∀ c ∈ cs, p c = false) : trim p cs = cs :=
  trim_eq_self_of_ends (fun c hc => h c (List.mem_of_head? hc)) fun c hc => h c (List.mem_of_getLast? hc)

end ClusterLease.Text
