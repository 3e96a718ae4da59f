import ClusterLease.Proofs.Text.Trim
import ClusterLease.Text.HostName
import ClusterLease.Text.LetterCase

/-!
How the foldings of names relate.

Texts are folded to letters and digits for host names, and to label characters, which may be hyphens, for
other names. The first forgets all that the second does (`hyphenate_hyphenate`), so that texts which differ
as host names differ however they were folded before.
-/

namespace ClusterLease.Text

variable {keep wider : Char → Bool}

/-! ### Folding -/

/-- Folding goes on over a second text with only this to remember, whether a run has begun. -/
theorem hyphenateFrom_append (keep : Char → Bool) (inRun : Bool) (xs ys : List Char) :
    ∃ after, hyphenateFrom keep inRun (xs ++ ys) =
      hyphenateFrom keep inRun xs ++ hyphenateFrom keep after ys := by
  induction xs generalizing inRun with
  | nil => exact ⟨inRun, rfl⟩
  | cons c rest ih =>
    simp only [List.cons_append, hyphenateFrom]
    split
    · obtain ⟨after, h⟩ := ih false
      exact ⟨after, by rw [h, List.cons_append]⟩
    · obtain ⟨after, h⟩ := ih true
      split
      · exact ⟨after, h⟩
      · exact ⟨after, by rw [h, List.cons_append]⟩

/-- Characters of the class are kept. -/
theorem hyphenateFrom_kept {xs : List Char} (hxs : ∀ c ∈ xs, keep c = true) (hne : xs ≠ []) (inRun : Bool)
    (ys : List Char) : hyphenateFrom keep inRun (xs ++ ys) = xs ++ hyphenateFrom keep false ys := by
  induction xs generalizing inRun with
  | nil => exact absurd rfl hne
  | cons c rest ih =>
    obtain ⟨hc, hrest⟩ := List.forall_mem_cons.1 hxs
    rw [List.cons_append, hyphenateFrom, if_pos hc, List.cons_append]
    cases rest with
    | nil => rfl
    | cons d rest => rw [ih hrest (List.cons_ne_nil _ _) false]

/-- Folding to a narrower class folds what was folded to a wider one. -/
theorem hyphenateFrom_hyphenateFrom (hkeep : ∀ c, keep c = true → wider c = true) (hhyphen : keep '-' = false)
    {inRun inRun' : Bool} (hrun : inRun' = true → inRun = true) (cs : List Char) :
    hyphenateFrom keep inRun (hyphenateFrom wider inRun' cs) = hyphenateFrom keep inRun cs := by
  induction cs generalizing inRun inRun' with
  | nil => rfl
  | cons c rest ih =>
    by_cases hwider : wider c = true
    · -- The character is still there, and a run ends, or goes on, in either text.
      have hkept : hyphenateFrom keep false (hyphenateFrom wider false rest) =
        hyphenateFrom keep false rest := ih id
      have hdropped : hyphenateFrom keep true (hyphenateFrom wider false rest) =
        hyphenateFrom keep true rest := ih fun _ => rfl
      simp only [hyphenateFrom, hwider, if_true, hkept, hdropped]
    · have hc : keep c = false := Bool.eq_false_iff.2 fun h => hwider (hkeep c h)
      have hrest : hyphenateFrom keep true (hyphenateFrom wider true rest) =
        hyphenateFrom keep true rest := ih id
      cases inRun' with
      | false => simp [hyphenateFrom, hwider, hc, hhyphen, hrest]
      | true =>
        obtain rfl : inRun = true := hrun rfl
        simp [hyphenateFrom, hwider, hc, hrest]

/-- A hyphen that is put first is trimmed. -/
theorem trim_hyphenateFrom (keep : Char → Bool) (inRun : Bool) (cs : List Char) :
    trim (· == '-') (hyphenateFrom keep inRun cs) = hyphenate keep cs := by
  cases inRun with
  | false => rfl
  | true =>
    cases cs with
    | nil => rfl
    | cons c rest =>
      rw [hyphenate, hyphenateFrom, hyphenateFrom]
      split
      · rfl
      · exact (trim_cons_of_pos rfl).symm

/-- A hyphen outside a run is kept and begins one. -/
theorem hyphenateFrom_cons_hyphen (hhyphen : keep '-' = false) (cs : List Char) :
    hyphenateFrom keep false ('-' :: cs) = '-' :: hyphenateFrom keep true cs := by
  rw [hyphenateFrom, hhyphen, if_neg Bool.false_ne_true, if_neg Bool.false_ne_true]

/-- In a run no hyphen is put first, so that only the end is trimmed. -/
theorem trimRight_hyphenateFrom (hhyphen : keep '-' = false) (cs : List Char) :
    trimRight (· == '-') (hyphenateFrom keep true cs) = hyphenate keep cs := by
  have hfirst : (hyphenateFrom keep true cs).dropWhile (· == '-') = hyphenateFrom keep true cs := by
    induction cs with
    | nil => rfl
    | cons c rest ih =>
      rw [hyphenateFrom]
      split
      · next hc =>
        refine List.dropWhile_cons_of_neg fun heq => ?_
        rw [beq_iff_eq.1 heq, hhyphen] at hc
        exact Bool.false_ne_true hc
      · exact ih
  rw [← trim_hyphenateFrom keep true, trim, hfirst]

theorem hyphenate_cons_hyphen (hhyphen : keep '-' = false) (cs : List Char) :
    hyphenate keep ('-' :: cs) = hyphenate keep cs := by
  rw [hyphenate, hyphenateFrom_cons_hyphen hhyphen, trim_cons_of_pos rfl, trim_hyphenateFrom]

theorem hyphenate_append_hyphen (hhyphen : keep '-' = false) (cs : List Char) :
    hyphenate keep (cs ++ ['-']) = hyphenate keep cs := by
  obtain ⟨after, h⟩ := hyphenateFrom_append keep false cs ['-']
  rw [hyphenate, h]
  cases after with
  | false =>
    simp only [hyphenateFrom, hhyphen, Bool.false_eq_true, if_false]
    exact trim_append_of_pos (p := (· == '-')) rfl
  | true =>
    simp only [hyphenateFrom, hhyphen, Bool.false_eq_true, if_false, if_true, List.append_nil]
    rfl

/-- Hyphens at either end never count, since folding takes them away anyway. -/
theorem hyphenate_trim (hhyphen : keep '-' = false) (cs : List Char) :
    hyphenate keep (trim (· == '-') cs) = hyphenate keep cs := by
  -- From the right the hyphens are taken off one by one; the left then goes the same way.
  have hright (cs : List Char) : hyphenate keep (trimRight (· == '-') cs) = hyphenate keep cs := by
    induction cs using List.reverseRecOn with
    | nil => rfl
    | append_singleton cs c ih =>
      by_cases hc : c = '-'
      · subst hc
        rw [hyphenate_append_hyphen hhyphen, ← ih, trimRight_append]
        rfl
      · rw [trimRight_append_of_neg (p := (· == '-')) (beq_eq_false_iff_ne.2 hc)]
  rw [trim, hright]
  induction cs with
  | nil => rfl
  | cons c rest ih =>
    by_cases hc : c = '-'
    · subst hc
      rw [List.dropWhile_cons_of_pos rfl, hyphenate_cons_hyphen hhyphen, ih]
    · rw [List.dropWhile_cons_of_neg (by simpa using hc)]

/-- The narrower folding forgets what the wider one does. -/
theorem hyphenate_hyphenate (hkeep : ∀ c, keep c = true → wider c = true) (hhyphen : keep '-' = false)
    (cs : List Char) : hyphenate keep (hyphenate wider cs) = hyphenate keep cs := by
  calc hyphenate keep (hyphenate wider cs)
      = hyphenate keep (hyphenateFrom wider false cs) := hyphenate_trim hhyphen _
    _ = hyphenate keep cs := by rw [hyphenate, hyphenateFrom_hyphenateFrom hkeep hhyphen id, hyphenate]

/-- What is left of a text besides hyphens are its characters of the class. -/
theorem mem_hyphenate {cs : List Char} {c : Char} (hc : c ≠ '-') :
    c ∈ hyphenate keep cs ↔ c ∈ cs ∧ keep c = true := by
  have hfrom (inRun : Bool) : c ∈ hyphenateFrom keep inRun cs ↔ c ∈ cs ∧ keep c = true := by
    induction cs generalizing inRun with
    | nil => simp [hyphenateFrom]
    | cons d rest ih =>
      rw [hyphenateFrom, List.mem_cons, or_and_right]
      split
      · next hd =>
        have hself : c = d ∧ keep c = true ↔ c = d := and_iff_left_of_imp fun heq => heq ▸ hd
        rw [List.mem_cons, ih, hself]
      · next hd =>
        have hother : ¬(c = d ∧ keep c = true) := fun h => hd (h.1 ▸ h.2)
        split
        · rw [ih, or_iff_right hother]
        · rw [List.mem_cons, ih, or_iff_right hc, or_iff_right hother]
  rw [hyphenate, mem_trim_of_neg (p := (· == '-')) (beq_eq_false_iff_ne.2 hc), hfrom]

/-- A text of characters of the class stays, unless there are hyphens at its ends. -/
theorem hyphenate_eq_self {cs : List Char} (hkeep : ∀ c ∈ cs, keep c = true)
    (hfirst : cs.head? ≠ some '-') (hlast : cs.getLast? ≠ some '-') : hyphenate keep cs = cs := by
  have hfrom : hyphenateFrom keep false cs = cs := by
    cases cs with
    | nil => rfl
    | cons c rest =>
      have hkept := hyphenateFrom_kept hkeep (List.cons_ne_nil c rest) false []
      rwa [List.append_nil, hyphenateFrom, List.append_nil] at hkept
  rw [hyphenate, hfrom]
  refine trim_eq_self_of_ends (fun c hc => ?_) fun c hc => ?_
  · exact beq_eq_false_iff_ne.2 fun heq => hfirst (heq ▸ hc)
  · exact beq_eq_false_iff_ne.2 fun heq => hlast (heq ▸ hc)

/-- Folding does not see what happens to characters outside the class. -/
theorem hyphenate_map {f : Char → Char} (hkept : ∀ c, keep c = true → f c = c) (hdropped : ∀ c, keep (f c) = keep c)
    (cs : List Char) : hyphenate keep (cs.map f) = hyphenate keep cs := by
  have hfrom (inRun : Bool) : hyphenateFrom keep inRun (cs.map f) = hyphenateFrom keep inRun cs := by
    induction cs generalizing inRun with
    | nil => rfl
    | cons c rest ih =>
      rw [List.map_cons, hyphenateFrom, hyphenateFrom, hdropped, ih, ih]
      by_cases hc : keep c = true
      · rw [hkept c hc]
      · rw [if_neg hc, if_neg hc]
  rw [hyphenate, hfrom, hyphenate]

/-! ### Small letters -/

/-- The sigma of the middle of a word in place of the one of its end. -/
def medial (c : Char) : Char := if c = 'ς' then 'σ' else c

/-- The characters of a text in small letters, by which it can be told where the text goes on. -/
def spelled (s : String) : List Char := (lower s).toList.map medial

/-- Apart from the two forms of sigma, each character has its own small form, wherever it stands. -/
theorem spelled_eq (s : String) : spelled s = s.toList.flatMap fun c => (lowerChar c).map medial := by
  have hsigma : (lowerChar 'Σ').map medial = ['σ'] := by decide +kernel
  have hfrom (before cs : List Char) :
      (lowerFrom before cs).map medial = cs.flatMap fun c => (lowerChar c).map medial := by
    induction cs generalizing before with
    | nil => rfl
    | cons c rest ih =>
      rw [lowerFrom, List.map_append, ih, List.flatMap_cons, lowerAt]
      split
      · next hc =>
        rw [hc, hsigma]
        split <;> rfl
      · rfl
  rw [spelled, lower, String.toList_ofList, hfrom]

theorem spelled_append (a b : String) : spelled (a ++ b) = spelled a ++ spelled b := by
  rw [spelled_eq, spelled_eq, spelled_eq, String.toList_append, List.flatMap_append]

/-- Both forms of sigma are dropped from host names. -/
theorem hyphenate_spelled (hmedial : keep 'σ' = false) (hfinal : keep 'ς' = false) (s : String) :
    hyphenate keep (spelled s) = hyphenate keep (lower s).toList := by
  refine hyphenate_map (fun c hc => ?_) (fun c => ?_) (lower s).toList
  · refine if_neg fun heq => ?_
    rw [heq, hfinal] at hc
    cases hc
  · rw [medial]
    split
    · next heq => rw [heq, hmedial, hfinal]
    · rfl

/-- Label characters are no capitals. -/
theorem lowerChar_eq_self {c : Char} (h : isLabelChar c = true) : lowerChar c = [c] := by
  simp only [isLabelChar, isAlphanumeric, Bool.or_eq_true, Bool.and_eq_true, decide_eq_true_eq, beq_iff_eq,
    Char.le_def, UInt32.le_iff_toNat_le] at h
  have hascii : c.toNat < 0x80 := by
    obtain (⟨-, h⟩ | ⟨-, h⟩) | rfl := h
    · exact Nat.lt_of_le_of_lt h (by decide)
    · exact Nat.lt_of_le_of_lt h (by decide)
    · decide
  rw [lowerChar, if_pos hascii, if_neg]
  simp only [Bool.and_eq_true, decide_eq_true_eq, Char.le_def, UInt32.le_iff_toNat_le]
  rintro ⟨hlow, hhigh⟩
  obtain (⟨h, -⟩ | ⟨-, h⟩) | rfl := h
  · exact absurd (Nat.le_trans h hhigh) (by decide)
  · exact absurd (Nat.le_trans hlow h) (by decide)
  · exact absurd hlow (by decide)

/-- Label characters are in small letters already. -/
theorem lower_eq_self {s : String} (h : ∀ c ∈ s.toList, isLabelChar c = true) : lower s = s := by
  have hchars (before cs : List Char) (hcs : ∀ c ∈ cs, isLabelChar c = true) : lowerFrom before cs = cs := by
    induction cs generalizing before with
    | nil => rfl
    | cons c rest ih =>
      obtain ⟨hc, hrest⟩ := List.forall_mem_cons.1 hcs
      have hsigma : c ≠ 'Σ' := by
        rintro rfl
        exact absurd hc (by decide)
      rw [lowerFrom, lowerAt, if_neg hsigma, lowerChar_eq_self hc, ih _ hrest]
      rfl
  rw [lower, hchars [] s.toList h, String.ofList_toList]

/-- No sigma is among label characters. -/
theorem spelled_eq_toList {s : String} (h : ∀ c ∈ s.toList, isLabelChar c = true) : spelled s = s.toList := by
  rw [spelled, lower_eq_self h]
  refine (List.map_congr_left fun c hc => ?_).trans (List.map_id _)
  refine if_neg fun heq => ?_
  have hfinal := h c hc
  rw [heq] at hfinal
  exact absurd hfinal (by decide)

end ClusterLease.Text
