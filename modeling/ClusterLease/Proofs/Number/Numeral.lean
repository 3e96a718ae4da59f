import Mathlib.Data.List.TakeWhile
import Mathlib.Tactic.IntervalCases
import ClusterLease.Number.Numeral
import ClusterLease.Proofs.Text.Trim

/-!
Which runs of digits are whole numbers.

Superscripts and circled digits look like digits but no numeral is written with them, and there is a
limit to the number of digits: apart from that every run of digits is read as the number that it
writes (`int?_of_digits`).
-/

namespace ClusterLease

namespace Text

/-- All digits, as closed ranges. -/
def digitRanges : List (Nat × Nat) := zeroDigits.map (fun lowest => (lowest, lowest + 9)) ++ looseDigitRanges

/-- All blanks, as closed ranges. -/
def blankRanges : List (Nat × Nat) :=
  [(9, 13), (28, 32), (0x85, 0x85), (0xA0, 0xA0), (0x1680, 0x1680), (0x2000, 0x200A), (0x2028, 0x2029),
    (0x202F, 0x202F), (0x205F, 0x205F), (0x3000, 0x3000)]

/-- A decimal digit is one of ten in a row. -/
theorem exists_range_of_isDecimal {c : Char} (h : isDecimal c) :
    ∃ lowest ∈ zeroDigits, lowest ≤ c.toNat ∧ c.toNat ≤ lowest + 9 := by
  rw [isDecimal, decimalValue?, Option.isSome_map, List.find?_isSome] at h
  obtain ⟨lowest, hmem, hrange⟩ := h
  rw [Bool.and_eq_true, decide_eq_true_eq, decide_eq_true_eq] at hrange
  exact ⟨lowest, hmem, hrange⟩

/-- A digit lies in one of the ranges. -/
theorem exists_range_of_isDigit {c : Char} (h : isDigit c) :
    ∃ range ∈ digitRanges, range.1 ≤ c.toNat ∧ c.toNat ≤ range.2 := by
  rw [isDigit, Bool.or_eq_true] at h
  rcases h with hdecimal | hloose
  · obtain ⟨lowest, hmem, hrange⟩ := exists_range_of_isDecimal hdecimal
    exact ⟨(lowest, lowest + 9), List.mem_append_left _ (List.mem_map_of_mem hmem), hrange⟩
  · obtain ⟨range, hmem, hrange⟩ := List.any_eq_true.1 hloose
    rw [Bool.and_eq_true, decide_eq_true_eq, decide_eq_true_eq] at hrange
    exact ⟨range, List.mem_append_right _ hmem, hrange⟩

/-- A blank lies in one of the ranges. -/
theorem exists_range_of_isBlank {c : Char} (h : isBlank c) :
    ∃ range ∈ blankRanges, range.1 ≤ c.toNat ∧ c.toNat ≤ range.2 := by
  simp only [isBlank, Bool.or_eq_true, Bool.and_eq_true, decide_eq_true_eq, beq_iff_eq] at h
  simp only [blankRanges, List.mem_cons, exists_eq_or_imp]
  omega

/-- No digit is blank. -/
theorem isBlank_of_isDigit {c : Char} (h : isDigit c) : isBlank c = false := by
  -- The tables are compared range by range, not character by character.
  have hapart : ∀ digits ∈ digitRanges, ∀ blanks ∈ blankRanges,
      digits.2 < blanks.1 ∨ blanks.2 < digits.1 := by decide +kernel
  by_contra hblank
  obtain ⟨digits, hdigits, hlow, hhigh⟩ := exists_range_of_isDigit h
  obtain ⟨blanks, hblanks, hfirst, hlast⟩ := exists_range_of_isBlank (Bool.not_eq_false _ ▸ hblank)
  have := hapart digits hdigits blanks hblanks
  omega

/-- The digits of ASCII are decimal. -/
theorem isDecimal_of_isAsciiDigit {c : Char} (h : isAsciiDigit c) : isDecimal c := by
  have hrange : '0'.toNat ≤ c.toNat ∧ c.toNat ≤ '9'.toNat := by
    rw [isAsciiDigit, Bool.and_eq_true, decide_eq_true_eq, decide_eq_true_eq] at h
    exact h
  rw [isDecimal, decimalValue?, Option.isSome_map, List.find?_isSome]
  refine ⟨0x30, List.mem_cons_self, ?_⟩
  rw [Bool.and_eq_true, decide_eq_true_eq, decide_eq_true_eq]
  exact hrange

end Text

namespace Numeral

open Text

/-- Exactly the decimal digits are written as ASCII digits. -/
theorem isAsciiDigit_asciiForm (c : Char) : isAsciiDigit (asciiForm c) = isDecimal c := by
  rw [asciiForm]
  cases hvalue : decimalValue? c with
  | some value =>
    have hlt := decimalValue?_lt hvalue
    rw [isDecimal, hvalue]
    interval_cases value <;> rfl
  | none =>
    have hnot : isDecimal c = false := by rw [isDecimal, hvalue]; rfl
    rw [hnot]
    exact Bool.eq_false_iff.2 fun hascii => by simp [isDecimal_of_isAsciiDigit hascii] at hnot

/-- The ASCII form of a digit is a digit. -/
theorem isDigit_asciiForm {c : Char} (h : isDigit c) : isDigit (asciiForm c) := by
  cases hdecimal : isDecimal c with
  | true =>
    rw [← isAsciiDigit_asciiForm] at hdecimal
    exact isDigit_of_isDecimal (isDecimal_of_isAsciiDigit hdecimal)
  | false =>
    have hsame : asciiForm c = c := by
      rw [isDecimal, Option.isSome_eq_false_iff, Option.isNone_iff_eq_none] at hdecimal
      rw [asciiForm, hdecimal]
    rwa [hsame]

/-- Without underscores there is nothing to join. -/
theorem joinGroups_eq_some {cs : List Char} (h : ∀ c ∈ cs, c ≠ '_') (afterDigit : Bool) :
    joinGroups afterDigit cs = some cs := by
  induction cs generalizing afterDigit with
  | nil => rfl
  | cons first rest ih =>
    have hfirst := h first List.mem_cons_self
    unfold joinGroups
    split
    · next heq => cases heq
    · next heq => cases heq; exact absurd rfl hfirst
    · next heq => cases heq; exact absurd rfl hfirst
    · next heq =>
      cases heq
      rw [ih fun c hc => h c (List.mem_cons_of_mem _ hc)]
      rfl

/-- Digits have no sign. -/
theorem splitSign_of_isDigit {cs : List Char} (h : ∀ c ∈ cs, isDigit c) : splitSign cs = (false, cs) := by
  unfold splitSign
  split
  · exact absurd (h '-' List.mem_cons_self) (by decide)
  · exact absurd (h '+' List.mem_cons_self) (by decide)
  · rfl

/-- A run of digits is read if all of them are decimal and there are not too many of them. -/
theorem int?_of_digits {cs : List Char} (hne : cs ≠ []) (h : ∀ c ∈ cs, isDigit c) :
    int? (String.ofList cs) = if cs.all isDecimal ∧ cs.length ≤ maxDigits
      then some (natOfDigits (cs.map asciiForm) : Int) else none := by
  have htrim : trim isNumeralBlank cs = cs := by
    refine trim_eq_self fun c hc => ?_
    rw [isNumeralBlank, isBlank_of_isDigit (h c hc)]
    rfl
  have hforms : ∀ c ∈ cs.map asciiForm, isDigit c := by
    intro c hc
    obtain ⟨d, hd, rfl⟩ := List.mem_map.1 hc
    exact isDigit_asciiForm (h d hd)
  -- There is neither a blank nor a sign nor an underscore to be taken off, so that the digits are read as they
  -- stand.
  have hplain : plain? (String.ofList cs) = some (cs.map asciiForm) := by
    rw [plain?, String.toList_ofList, htrim]
    exact joinGroups_eq_some (fun c hc heq => absurd (heq ▸ hforms c hc) (by decide)) false
  have hall : (cs.map asciiForm).all isAsciiDigit = cs.all isDecimal := by
    rw [List.all_map]
    exact congrArg cs.all (funext isAsciiDigit_asciiForm)
  have hempty : (cs.map asciiForm).isEmpty = false := by
    rw [List.isEmpty_map]
    exact List.isEmpty_eq_false_iff.2 hne
  rw [int?, hplain, Option.bind_eq_bind, Option.bind_some, splitSign_of_isDigit hforms]
  dsimp only
  rw [hempty, hall, List.length_map]
  cases cs.all isDecimal with
  | true =>
    by_cases hlong : maxDigits < cs.length
    · simp [hlong, Nat.not_le.2 hlong]
    · simp [hlong, Nat.not_lt.1 hlong]
  | false => simp

/-- A row of digits is read just if all are decimal and there are not too many. -/
theorem int?_isSome_iff {cs : List Char} (hne : cs ≠ []) (h : ∀ c ∈ cs, isDigit c) :
    (int? (String.ofList cs)).isSome ↔ (∀ c ∈ cs, isDecimal c) ∧ cs.length ≤ maxDigits := by
  rw [int?_of_digits hne h, ← List.all_eq_true]
  split
  · next hread => exact iff_of_true rfl hread
  · next hread => exact iff_of_false (by simp) hread

end Numeral

end ClusterLease
