import ClusterLease.Proofs.Number.Numeral

/-!
Which texts are whole numbers.

A whole number is written with decimal digits of any script. Single underscores may part them
(`Grouped`), one sign may stand before them, and blanks may stand around all of it (`Writes`).
Exactly these texts are read, each as the number that it writes (`int?_eq_some_iff`).
-/

namespace ClusterLease

namespace Text

/-- A text consists of what trimming it leaves and of characters of the class at both ends. -/
theorem exists_trim (p : Char → Bool) (cs : List Char) :
    ∃ before after, (∀ c ∈ before, p c) ∧ (∀ c ∈ after, p c) ∧ cs = before ++ trim p cs ++ after := by
  have hright (l : List Char) : ∃ after, (∀ c ∈ after, p c) ∧ l = trimRight p l ++ after := by
    refine ⟨(l.reverse.takeWhile p).reverse, fun c hc => ?_, ?_⟩
    · exact List.mem_takeWhile_imp (List.mem_reverse.1 hc)
    · rw [trimRight, ← List.reverse_append, List.takeWhile_append_dropWhile, List.reverse_reverse]
  obtain ⟨after, hafter, hsplit⟩ := hright (cs.dropWhile p)
  refine ⟨cs.takeWhile p, after, fun c hc => List.mem_takeWhile_imp hc, hafter, ?_⟩
  rw [List.append_assoc, trim, ← hsplit, List.takeWhile_append_dropWhile]

/-- Blanks around a text without blanks at its ends are trimmed, and nothing else. -/
theorem trim_append_append {p : Char → Bool} {before cs after : List Char} (hbefore : ∀ c ∈ before, p c)
    (hafter : ∀ c ∈ after, p c) (hcs : ∀ c ∈ cs, p c = false) (hne : cs ≠ []) :
    trim p (before ++ cs ++ after) = cs := by
  have hdrop {blank cs rest : List Char} (hblank : ∀ c ∈ blank, p c) (hcs : ∀ c ∈ cs, p c = false)
      (hne : cs ≠ []) : (blank ++ (cs ++ rest)).dropWhile p = cs ++ rest := by
    obtain ⟨first, more, rfl⟩ := List.exists_cons_of_ne_nil hne
    rw [List.dropWhile_append_of_pos hblank, List.cons_append, List.dropWhile_cons_of_neg]
    rw [hcs first List.mem_cons_self]
    exact Bool.false_ne_true
  have hright := @hdrop after.reverse cs.reverse [] (fun c hc => hafter c (List.mem_reverse.1 hc))
    (fun c hc => hcs c (List.mem_reverse.1 hc)) (mt List.reverse_eq_nil_iff.1 hne)
  rw [List.append_nil] at hright
  rw [trim, List.append_assoc, hdrop hbefore hcs hne, trimRight, List.reverse_append, hright, List.reverse_reverse]

end Text

namespace Numeral

open Text

/-! ### What writes a number -/

/-- Decimal digits, and how they stand in a text: underscores may be between them, one at a time. -/
inductive Grouped : List Char → List Char → Prop where
  | last {c : Char} (hc : isDecimal c) : Grouped [c] [c]
  | digit {c : Char} {cs digits : List Char} (hc : isDecimal c) (hrest : Grouped cs digits) :
    Grouped (c :: cs) (c :: digits)
  | underscore {c : Char} {cs digits : List Char} (hc : isDecimal c) (hrest : Grouped cs digits) :
    Grouped (c :: '_' :: cs) (c :: digits)

/-- What may stand before the digits, and whether it is a minus. -/
inductive IsSign : List Char → Bool → Prop where
  | none : IsSign [] false
  | plus : IsSign ['+'] false
  | minus : IsSign ['-'] true

/-- The number that digits of any script write. -/
def magnitudeOf (digits : List Char) : Nat := natOfDigits (digits.map asciiForm)

/-- The texts of a whole number. -/
inductive Writes : List Char → Int → Prop where
  | intro {before sign body digits after : List Char} {negative : Bool}
    (hbefore : ∀ c ∈ before, isNumeralBlank c) (hafter : ∀ c ∈ after, isNumeralBlank c)
    (hsign : IsSign sign negative) (hbody : Grouped body digits) (hlength : digits.length ≤ maxDigits) :
    Writes (before ++ (sign ++ body) ++ after)
      (if negative then -(magnitudeOf digits : Int) else magnitudeOf digits)

/-! ### Digits and underscores -/

/-- Only decimal digits change their form. -/
theorem asciiForm_of_not_isDecimal {c : Char} (h : isDecimal c = false) : asciiForm c = c := by
  rw [isDecimal, Option.isSome_eq_false_iff, Option.isNone_iff_eq_none] at h
  rw [asciiForm, h]

/-- No digit takes the form of a character that is none. -/
theorem asciiForm_eq_iff {c mark : Char} (h : isDecimal mark = false) : asciiForm c = mark ↔ c = mark := by
  constructor
  · intro hform
    cases hc : isDecimal c with
    | false => rwa [asciiForm_of_not_isDecimal hc] at hform
    | true =>
      rw [← isAsciiDigit_asciiForm, hform] at hc
      exact absurd (isDecimal_of_isAsciiDigit hc) (by rw [h]; exact Bool.false_ne_true)
  · rintro rfl
    exact asciiForm_of_not_isDecimal h

/-- A character other than an underscore is taken as it is. -/
theorem joinGroups_cons {c : Char} (h : c ≠ '_') (afterDigit : Bool) (rest : List Char) :
    joinGroups afterDigit (c :: rest) = (joinGroups (isAsciiDigit c) rest).map (c :: ·) := by
  conv_lhs => unfold joinGroups
  split
  · next heq => cases heq
  · next heq => cases heq; exact absurd rfl h
  · next heq => cases heq; exact absurd rfl h
  · next heq => cases heq; rfl

/-- An underscore is dropped between two digits, and cannot be read anywhere else. -/
theorem joinGroups_underscore (afterDigit : Bool) (next : Char) (rest : List Char) :
    joinGroups afterDigit ('_' :: next :: rest) =
      if afterDigit && isAsciiDigit next then (joinGroups true rest).map (next :: ·) else none := by
  conv_lhs => unfold joinGroups
  rfl

theorem asciiForm_underscore : asciiForm '_' = '_' := asciiForm_of_not_isDecimal (by decide)

/-- An underscore is no digit. -/
theorem ne_underscore {c : Char} (h : isAsciiDigit c) : c ≠ '_' := by
  rintro rfl
  exact absurd h (by decide)

/-- Digits in groups begin with a digit. -/
theorem Grouped.exists_cons {cs digits : List Char} (h : Grouped cs digits) :
    ∃ first rest more, cs = first :: rest ∧ digits = first :: more ∧ isDecimal first := by
  cases h with
  | last hc => exact ⟨_, _, _, rfl, rfl, hc⟩
  | digit hc hrest => exact ⟨_, _, _, rfl, rfl, hc⟩
  | underscore hc hrest => exact ⟨_, _, _, rfl, rfl, hc⟩

/-- All of them are decimal digits, of some script. -/
theorem Grouped.isDecimal {cs digits : List Char} (h : Grouped cs digits) : ∀ c ∈ digits, isDecimal c := by
  induction h with
  | last hc => exact List.forall_mem_singleton.2 hc
  | digit hc _ ih => exact List.forall_mem_cons.2 ⟨hc, ih⟩
  | underscore hc _ ih => exact List.forall_mem_cons.2 ⟨hc, ih⟩

/-- Groups of digits are joined. -/
theorem Grouped.joinGroups {cs digits : List Char} (h : Grouped cs digits) (afterDigit : Bool) :
    joinGroups afterDigit (cs.map asciiForm) = some (digits.map asciiForm) := by
  induction h generalizing afterDigit with
  | @last c hc =>
    rw [List.map_singleton, joinGroups_cons (ne_underscore (isAsciiDigit_asciiForm c ▸ hc))]
    rfl
  | @digit c cs digits hc _ ih =>
    rw [List.map_cons, joinGroups_cons (ne_underscore (isAsciiDigit_asciiForm c ▸ hc)), ih]
    rfl
  | @underscore c cs digits hc hrest ih =>
    -- An underscore is taken together with the digit after it.
    obtain ⟨next, rest, more, rfl, rfl, hnext⟩ := hrest.exists_cons
    rw [← isAsciiDigit_asciiForm] at hc hnext
    have hread := ih true
    rw [List.map_cons, joinGroups_cons (ne_underscore hnext), hnext] at hread
    rw [List.map_cons, joinGroups_cons (ne_underscore hc), hc, List.map_cons, List.map_cons,
      asciiForm_underscore, joinGroups_underscore, hnext, Bool.and_self, if_pos rfl, hread]
    rfl

/-- What is joined to digits is a run of groups, to whose first an underscore may lead over. -/
theorem grouped_of_joinGroups {afterDigit : Bool} {cs joined : List Char}
    (h : joinGroups afterDigit (cs.map asciiForm) = some joined) (hjoined : ∀ c ∈ joined, isAsciiDigit c) :
    (cs = [] ∧ joined = []) ∨ (∃ digits, Grouped cs digits ∧ joined = digits.map asciiForm) ∨
      (afterDigit = true ∧ ∃ rest digits, cs = '_' :: rest ∧ Grouped rest digits ∧
        joined = digits.map asciiForm) := by
  -- By induction on the characters; an underscore is read only behind a digit and before one.
  induction cs generalizing afterDigit joined with
  | nil => exact .inl ⟨rfl, (Option.some.inj h).symm⟩
  | cons c rest ih =>
    by_cases hc : c = '_'
    · subst hc
      cases rest with
      | nil =>
        rw [List.map_singleton, asciiForm_underscore] at h
        cases h
      | cons next rest =>
        rw [List.map_cons, List.map_cons, asciiForm_underscore, joinGroups_underscore] at h
        split at h
        · next hcond =>
          obtain ⟨hafter, hnext⟩ := Bool.and_eq_true_iff.1 hcond
          have hread : joinGroups true ((next :: rest).map asciiForm) = some joined := by
            rw [List.map_cons, joinGroups_cons (ne_underscore hnext), hnext]
            exact h
          rcases ih hread hjoined with ⟨hnil, -⟩ | ⟨digits, hgrouped, hdigits⟩ | ⟨-, more, digits, hcons, -, -⟩
          · cases hnil
          · exact .inr (.inr ⟨hafter, _, digits, rfl, hgrouped, hdigits⟩)
          · cases hcons
            exact absurd hnext (by decide)
        · cases h
    · have hform : asciiForm c ≠ '_' := fun heq => hc ((asciiForm_eq_iff (by decide)).1 heq)
      rw [List.map_cons, joinGroups_cons hform] at h
      obtain ⟨others, hothers, rfl⟩ := Option.map_eq_some_iff.1 h
      obtain ⟨hfirst, hmore⟩ := List.forall_mem_cons.1 hjoined
      have hdecimal : isDecimal c := by rwa [← isAsciiDigit_asciiForm]
      refine .inr (.inl ?_)
      rcases ih hothers hmore with ⟨rfl, rfl⟩ | ⟨digits, hgrouped, rfl⟩ | ⟨-, after, digits, rfl, hgrouped, rfl⟩
      · exact ⟨[c], .last hdecimal, rfl⟩
      · exact ⟨c :: digits, .digit hdecimal hgrouped, rfl⟩
      · exact ⟨c :: digits, .underscore hdecimal hgrouped, rfl⟩

/-! ### Signs -/

/-- A text is a sign, or none, and the rest. -/
theorem isSign_splitSign (cs : List Char) :
    ∃ sign, IsSign sign (splitSign cs).1 ∧ cs = sign ++ (splitSign cs).2 := by
  unfold splitSign
  split
  · exact ⟨['-'], .minus, rfl⟩
  · exact ⟨['+'], .plus, rfl⟩
  · exact ⟨[], .none, rfl⟩

/-- A character that is no sign is not split off. -/
theorem splitSign_cons {c : Char} (hminus : c ≠ '-') (hplus : c ≠ '+') (rest : List Char) :
    splitSign (c :: rest) = (false, c :: rest) := by
  unfold splitSign
  split
  · next heq => cases heq; exact absurd rfl hminus
  · next heq => cases heq; exact absurd rfl hplus
  · rfl

/-- A sign may be split off before or after the underscores are left out. -/
theorem splitSign_joinGroups (cs : List Char) :
    (joinGroups false (cs.map asciiForm)).map splitSign =
      (joinGroups false ((splitSign cs).2.map asciiForm)).map (Prod.mk (splitSign cs).1) := by
  have hmark {mark : Char} (hdecimal : isDecimal mark = false) (hmark : mark ≠ '_') (rest : List Char) :
      joinGroups false ((mark :: rest).map asciiForm) =
        (joinGroups false (rest.map asciiForm)).map (mark :: ·) := by
    have hdigit : isAsciiDigit mark = false := by
      rw [← asciiForm_of_not_isDecimal hdecimal, isAsciiDigit_asciiForm, hdecimal]
    rw [List.map_cons, asciiForm_of_not_isDecimal hdecimal, joinGroups_cons hmark, hdigit]
  cases cs with
  | nil => rfl
  | cons c rest =>
    by_cases hminus : c = '-'
    · rw [hminus, hmark (by decide) (by decide), Option.map_map]
      rfl
    by_cases hplus : c = '+'
    · rw [hplus, hmark (by decide) (by decide), Option.map_map]
      rfl
    rw [splitSign_cons hminus hplus]
    refine Option.map_congr fun joined hjoined => ?_
    -- The first character stays the first one, for an underscore has to follow a digit.
    have hunderscore : asciiForm c ≠ '_' := by
      intro hform
      rw [List.map_cons, hform] at hjoined
      cases rest with
      | nil => simp [joinGroups] at hjoined
      | cons next rest => simp [joinGroups_underscore] at hjoined
    rw [List.map_cons, joinGroups_cons hunderscore] at hjoined
    obtain ⟨others, -, rfl⟩ := Option.map_eq_some_iff.1 hjoined
    exact splitSign_cons (mt (asciiForm_eq_iff (by decide)).1 hminus)
      (mt (asciiForm_eq_iff (by decide)).1 hplus) others

/-! ### Whole numbers -/

/-- How a whole number is read: blanks and sign first, then digits in groups, of which there may not be too
many. -/
theorem int?_ofList (cs : List Char) :
    int? (String.ofList cs) =
      (joinGroups false ((splitSign (trim isNumeralBlank cs)).2.map asciiForm)).bind fun digits =>
        if digits.isEmpty || !digits.all isAsciiDigit || maxDigits < digits.length then none
        else some (if (splitSign (trim isNumeralBlank cs)).1 then -(natOfDigits digits : Int)
          else natOfDigits digits) := by
  have hread : int? (String.ofList cs) =
      ((joinGroups false ((trim isNumeralBlank cs).map asciiForm)).map splitSign).bind fun read =>
        if read.2.isEmpty || !read.2.all isAsciiDigit || maxDigits < read.2.length then none
        else some (if read.1 then -(natOfDigits read.2 : Int) else natOfDigits read.2) := by
    rw [Option.bind_map, int?, plain?, String.toList_ofList]
    rfl
  rw [hread, splitSign_joinGroups, Option.bind_map]
  rfl

/-- There are no blanks in a numeral. -/
theorem isNumeralBlank_of_mem {sign body digits : List Char} {negative : Bool} (hsign : IsSign sign negative)
    (hbody : Grouped body digits) : ∀ c ∈ sign ++ body, isNumeralBlank c = false := by
  have hdecimal {c : Char} (hc : isDecimal c) : isNumeralBlank c = false := by
    rw [isNumeralBlank, isBlank_of_isDigit (isDigit_of_isDecimal hc), Bool.false_and]
  intro c hc
  rcases List.mem_append.1 hc with hc | hc
  · cases hsign with
    | none => cases hc
    | plus => exact List.mem_singleton.1 hc ▸ by decide
    | minus => exact List.mem_singleton.1 hc ▸ by decide
  · -- By induction on the groups, none of whose characters is blank.
    induction hbody with
    | last hfirst => exact List.mem_singleton.1 hc ▸ hdecimal hfirst
    | digit hfirst _ ih =>
      rcases List.mem_cons.1 hc with rfl | hc
      · exact hdecimal hfirst
      · exact ih (List.mem_append_right _ hc) hc
    | underscore hfirst _ ih =>
      rcases List.mem_cons.1 hc with rfl | hc
      · exact hdecimal hfirst
      rcases List.mem_cons.1 hc with rfl | hc
      · decide
      · exact ih (List.mem_append_right _ hc) hc

/-- The sign of a numeral is split from its digits. -/
theorem splitSign_append {sign body digits : List Char} {negative : Bool} (hsign : IsSign sign negative)
    (hbody : Grouped body digits) : splitSign (sign ++ body) = (negative, body) := by
  cases hsign with
  | none =>
    obtain ⟨first, rest, -, rfl, -, hfirst⟩ := hbody.exists_cons
    refine splitSign_cons ?_ ?_ rest
    · rintro rfl
      exact absurd hfirst (by decide)
    · rintro rfl
      exact absurd hfirst (by decide)
  | plus => rfl
  | minus => rfl

/-- A text is read as a whole number exactly if it writes that number. -/
theorem int?_eq_some_iff {cs : List Char} {n : Int} : int? (String.ofList cs) = some n ↔ Writes cs n := by
  rw [int?_ofList]
  constructor
  · intro h
    obtain ⟨joined, hjoined, h⟩ := Option.bind_eq_some_iff.1 h
    split at h
    · cases h
    · next hcond =>
      simp only [Bool.or_eq_true, not_or, Bool.not_eq_true', Bool.not_eq_true, Bool.not_eq_false,
        List.isEmpty_eq_false_iff, List.all_eq_true, decide_eq_true_eq, Nat.not_lt] at hcond
      obtain ⟨⟨hne, hdigits⟩, hlength⟩ := hcond
      -- The blanks and the sign that were taken off are put back around the groups.
      obtain ⟨before, after, hbefore, hafter, hcs⟩ := exists_trim isNumeralBlank cs
      obtain ⟨sign, hsign, hsplit⟩ := isSign_splitSign (trim isNumeralBlank cs)
      rcases grouped_of_joinGroups hjoined hdigits with ⟨-, hnil⟩ | ⟨digits, hgrouped, rfl⟩ | ⟨hfalse, -⟩
      · exact absurd hnil hne
      · rw [hcs, hsplit, ← Option.some.inj h]
        rw [List.length_map] at hlength
        exact .intro hbefore hafter hsign hgrouped hlength
      · cases hfalse
  · intro h
    obtain @⟨before, sign, body, digits, after, negative, hbefore, hafter, hsign, hbody, hlength⟩ := h
    obtain ⟨first, rest, more, hcons, hdigits, -⟩ := hbody.exists_cons
    have hne : sign ++ body ≠ [] := by simp [hcons]
    have hall : (digits.map asciiForm).all isAsciiDigit = true := by
      simpa [isAsciiDigit_asciiForm] using hbody.isDecimal
    rw [trim_append_append hbefore hafter (isNumeralBlank_of_mem hsign hbody) hne, splitSign_append hsign hbody,
      hbody.joinGroups, Option.bind_some, hall, List.length_map, if_neg]
    · rfl
    · rw [hdigits] at hlength ⊢
      simpa using hlength

/-- A text writes one number at most. -/
theorem Writes.unique {cs : List Char} {m n : Int} (hm : Writes cs m) (hn : Writes cs n) : m = n :=
  Option.some.inj ((int?_eq_some_iff.2 hm).symm.trans (int?_eq_some_iff.2 hn))

/-- What is not a numeral is not read as one. -/
theorem int?_eq_none_iff {cs : List Char} : int? (String.ofList cs) = none ↔ ¬∃ n, Writes cs n := by
  rw [Option.eq_none_iff_forall_not_mem, not_exists]
  exact forall_congr' fun n => not_congr int?_eq_some_iff

end Numeral

end ClusterLease
