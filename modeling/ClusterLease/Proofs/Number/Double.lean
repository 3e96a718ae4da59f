import Mathlib.Algebra.Group.Nat.Defs
import Mathlib.Tactic.SplitIfs
import ClusterLease.Number.Double

/-!
Which numbers are doubles, and what rounding does to them.

A magnitude fits if it is a multiple of the unit of its last place and below the infinite
(`Double.Fits`). Rounding gives nothing else (`Double.isRounded_ofUnits`) and does not change what
fits (`Double.ofUnits_of_fits`), so that multiplying by one and adding to zero leave every double
as it is. Whole numbers below 2 ^ 53 fit (`Double.ofInt_of_small`); the double of any other is still
a whole number from 2 ^ 53 on, or infinite (`Double.ofInt_of_large`).
-/

namespace ClusterLease

/-- Rounding never goes below the whole part. -/
theorem le_roundHalfEven (num den : Nat) : num / den ≤ roundHalfEven num den := by
  unfold roundHalfEven
  dsimp only
  split_ifs <;> omega

/-- Rounding goes to one of the two neighbours, and to the upper one at most. -/
theorem roundHalfEven_le (num den : Nat) : roundHalfEven num den ≤ num / den + 1 := by
  unfold roundHalfEven
  dsimp only
  split_ifs <;> omega

namespace Double

/-- The count of bits that a unit is below one. -/
@[irreducible] def unitPlaces : Nat := 1074

/-- The count of units in the double nearest to a quotient, unless it is infinite. -/
def roundedUnits (num den : Nat) : Nat :=
  roundHalfEven num (den * 2 ^ droppedBits (num / den)) * 2 ^ droppedBits (num / den)

/-- The finite magnitudes of doubles, in units. -/
def Fits (units : Nat) : Prop := 2 ^ droppedBits units ∣ units ∧ units < tooLarge

/-- The form of all numbers that come out of rounding. -/
inductive IsRounded : Double → Prop where
  | nan : IsRounded nan
  | infinite (negative : Bool) : IsRounded (infinite negative)
  | finite (negative : Bool) {units : Nat} (hfits : Fits units) : IsRounded (finite negative units)

theorem one_eq : one = 2 ^ unitPlaces := by
  unfold one unitPlaces
  generalize 1074 = places
  exact Nat.pow_eq

theorem one_pos : 0 < one := by
  rw [one_eq]
  exact Nat.two_pow_pos _

/-- Whole numbers below 2 ^ 53 are finite. -/
theorem lt_tooLarge {n : Nat} (h : n < 2 ^ 53) : n * one < tooLarge := by
  have hle : 2 ^ 53 * one ≤ tooLarge := by decide +kernel
  exact Nat.lt_of_lt_of_le (Nat.mul_lt_mul_of_pos_right h one_pos) hle

/-! ### The last place -/

/-- A number of few bits loses few of them. -/
theorem droppedBits_le {units shift : Nat} (h : units < 2 ^ (53 + shift)) : droppedBits units ≤ shift := by
  unfold droppedBits
  by_cases hzero : units = 0
  · rw [hzero, Nat.log2_zero]
    omega
  · have := (Nat.log2_lt hzero).2 h
    omega

/-- What is left of a number has 53 bits. -/
theorem lt_of_droppedBits (units : Nat) : units < 2 ^ (53 + droppedBits units) := by
  refine Nat.lt_of_lt_of_le Nat.lt_log2_self (Nat.pow_le_pow_right (by decide) ?_)
  unfold droppedBits
  omega

/-- What is left of a quotient has 53 bits at most. -/
theorem div_droppedBits_lt (num den : Nat) : num / (den * 2 ^ droppedBits (num / den)) < 2 ^ 53 := by
  rw [← Nat.div_div_eq_div_mul, Nat.div_lt_iff_lt_mul (Nat.two_pow_pos _), ← Nat.pow_add]
  exact lt_of_droppedBits _

/-- What is left of a quotient that loses bits has no fewer than 53. -/
theorem le_div_droppedBits {units : Nat} (h : 2 ^ 52 ≤ units) : 2 ^ 52 ≤ units / 2 ^ droppedBits units := by
  have hne : units ≠ 0 := by omega
  have hbits : 52 ≤ units.log2 := (Nat.le_log2 hne).2 h
  rw [Nat.le_div_iff_mul_le (Nat.two_pow_pos _), ← Nat.pow_add]
  refine Nat.le_trans (Nat.pow_le_pow_right (by decide) ?_) (Nat.log2_self_le hne)
  unfold droppedBits
  omega

/-- A number fits if its low bits are zero and it is not too large. -/
theorem fits_of_dvd {units shift : Nat} (hdvd : 2 ^ shift ∣ units) (hlt : units < 2 ^ (53 + shift))
    (hfinite : units < tooLarge) : Fits units :=
  ⟨Nat.dvd_trans (Nat.pow_dvd_pow 2 (droppedBits_le hlt)) hdvd, hfinite⟩

/-- Whole numbers with 53 bits at most, moved to any place. -/
theorem fits_shifted {n shift : Nat} (h : n ≤ 2 ^ 53) (hfinite : n * 2 ^ shift < tooLarge) :
    Fits (n * 2 ^ shift) := by
  rcases Nat.lt_or_eq_of_le h with hlt | rfl
  · refine fits_of_dvd (Nat.dvd_mul_left _ _) ?_ hfinite
    rw [Nat.pow_add]
    exact Nat.mul_lt_mul_of_pos_right hlt (Nat.two_pow_pos _)
  · -- Rounding up may end at the next power of two, which is a multiple of more than was asked for.
    rw [← Nat.pow_add] at hfinite ⊢
    exact fits_of_dvd (Nat.dvd_refl _) (Nat.pow_lt_pow_right (by decide) (by omega)) hfinite

/-- Whole numbers of up to 53 bits fit. -/
theorem fits_whole {n : Nat} (h : n < 2 ^ 53) : Fits (n * one) := by
  have hfinite := lt_tooLarge h
  rw [one_eq] at hfinite ⊢
  exact fits_shifted (Nat.le_of_lt h) hfinite

/-! ### Rounding -/

/-- A quotient is rounded first, and then it is finite or infinite. -/
theorem ofUnits_eq (negative : Bool) (num den : Nat) : ofUnits negative num den =
    if roundedUnits num den < tooLarge then finite negative (roundedUnits num den) else infinite negative := by
  unfold ofUnits roundedUnits
  dsimp only
  rw [Nat.pow_eq]

theorem ofUnits_of_lt {num den : Nat} (h : roundedUnits num den < tooLarge) (negative : Bool) :
    ofUnits negative num den = finite negative (roundedUnits num den) := by rw [ofUnits_eq, if_pos h]

theorem ofUnits_of_not_lt {num den : Nat} (h : ¬roundedUnits num den < tooLarge) (negative : Bool) :
    ofUnits negative num den = infinite negative := by rw [ofUnits_eq, if_neg h]

/-- What was rounded fits. -/
theorem fits_roundedUnits {num den : Nat} (h : roundedUnits num den < tooLarge) : Fits (roundedUnits num den) := by
  unfold roundedUnits at h ⊢
  exact fits_shifted (Nat.le_trans (roundHalfEven_le _ _) (div_droppedBits_lt num den)) h

/-- The magnitude of a rounded quotient does not depend on its sign. -/
theorem ofUnits_cases (num den : Nat) :
    (∀ negative, ofUnits negative num den = finite negative (roundedUnits num den)) ∨
    ∀ negative, ofUnits negative num den = infinite negative := by
  by_cases hfinite : roundedUnits num den < tooLarge
  · exact .inl (ofUnits_of_lt hfinite)
  · exact .inr (ofUnits_of_not_lt hfinite)

/-- Every quotient becomes a double. -/
theorem isRounded_ofUnits (negative : Bool) (num den : Nat) : (ofUnits negative num den).IsRounded := by
  by_cases hfinite : roundedUnits num den < tooLarge
  · rw [ofUnits_of_lt hfinite]
    exact .finite negative (fits_roundedUnits hfinite)
  · rw [ofUnits_of_not_lt hfinite]
    exact .infinite negative

/-- Doubles are not changed by rounding. -/
theorem roundedUnits_of_fits {units den : Nat} (h : Fits units) (hden : 0 < den) :
    roundedUnits (units * den) den = units := by
  obtain ⟨⟨count, hcount⟩, -⟩ := h
  rw [roundedUnits, Nat.mul_div_cancel _ hden]
  have hround : roundHalfEven (units * den) (den * 2 ^ droppedBits units) = count := by
    have hnum : units * den = den * 2 ^ droppedBits units * count := by
      rw [Nat.mul_comm, Nat.mul_assoc, ← hcount]
    rw [hnum]
    exact roundHalfEven_mul_left (Nat.mul_pos hden (Nat.two_pow_pos _)) count
  rw [hround, Nat.mul_comm, ← hcount]

/-- What fits is not changed by rounding. -/
theorem ofUnits_of_fits {units den : Nat} (h : Fits units) (hden : 0 < den) (negative : Bool) :
    ofUnits negative (units * den) den = finite negative units := by
  have hrounded := roundedUnits_of_fits h hden
  rw [ofUnits_of_lt (by rw [hrounded]; exact h.2), hrounded]

/-- The sign of a number takes no part in rounding. -/
theorem neg_ofUnits (negative : Bool) (num den : Nat) :
    -ofUnits negative num den = ofUnits (!negative) num den := by
  rcases ofUnits_cases num den with hcase | hcase <;> rw [hcase, hcase] <;> rfl

/-! ### Whole numbers -/

/-- Below 2 ^ 53 every whole number is a double. -/
theorem ofInt_of_small {n : Int} (h : n.natAbs < 2 ^ 53) : ofInt n = finite (n < 0) (n.natAbs * one) := by
  have := ofUnits_of_fits (fits_whole h) Nat.one_pos (decide (n < 0))
  rwa [Nat.mul_one] at this

theorem ofInt_zero : ofInt 0 = finite false 0 := by
  rw [ofInt_of_small (by decide), Int.natAbs_zero, Nat.zero_mul]
  rfl

/-- Every whole number becomes a double. -/
theorem isRounded_ofInt (n : Int) : (ofInt n).IsRounded := by
  rw [ofInt, ofRatio]
  exact isRounded_ofUnits _ _ _

theorem neg_ofInt_natCast {n : Nat} (h : n ≠ 0) : -ofInt n = ofInt (-n) := by
  have hnegative : decide (-(n : Int) < 0) = true := decide_eq_true (by omega)
  rw [ofInt, ofInt, ofRatio, ofRatio, neg_ofUnits, hnegative, Int.natAbs_neg]
  rfl

/-- From 2 ^ 53 on every double is a whole number, and rounding to one does not lead below it. -/
theorem ofInt_of_large {n : Int} (h : 2 ^ 53 ≤ n.natAbs) :
    ofInt n = infinite (n < 0) ∨ ∃ m, 2 ^ 53 ≤ m ∧ ofInt n = finite (n < 0) (m * one) := by
  have hlarge : 2 ^ (53 + unitPlaces) ≤ n.natAbs * one := by
    rw [Nat.pow_add, one_eq]
    exact Nat.mul_le_mul_right _ h
  rw [ofInt, ofRatio]
  generalize n.natAbs * one = units at hlarge
  have hne : units ≠ 0 := Nat.ne_of_gt (Nat.lt_of_lt_of_le (Nat.two_pow_pos _) hlarge)
  have hbits : 53 + unitPlaces ≤ units.log2 := (Nat.le_log2 hne).2 hlarge
  -- The last place lies above one, so that what is left has 53 bits and counts more than ones.
  obtain ⟨above, habove⟩ : ∃ above, droppedBits units = above + 1 + unitPlaces :=
    ⟨units.log2 - 53 - unitPlaces, by
      unfold droppedBits
      omega⟩
  have hcount : 2 ^ 52 ≤ roundHalfEven units (2 ^ droppedBits units) := by
    refine Nat.le_trans (le_div_droppedBits (Nat.le_trans ?_ hlarge)) (le_roundHalfEven _ _)
    exact Nat.pow_le_pow_right (by decide) (by omega)
  have hrounded : roundedUnits units 1 =
      roundHalfEven units (2 ^ droppedBits units) * 2 ^ above * 2 * one := by
    rw [roundedUnits, Nat.div_one, Nat.one_mul, one_eq]
    generalize roundHalfEven units _ = count
    rw [habove, Nat.pow_add, Nat.pow_succ, Nat.mul_assoc, Nat.mul_assoc, Nat.mul_assoc]
  rcases ofUnits_cases units 1 with hfinite | hinfinite
  · refine .inr ⟨_, ?_, (hfinite _).trans (congrArg _ hrounded)⟩
    have := Nat.le_mul_of_pos_right (roundHalfEven units (2 ^ droppedBits units)) (Nat.two_pow_pos above)
    omega
  · exact .inl (hinfinite _)

/-! ### One and zero -/

/-- One times a double is the double. -/
theorem mul_one_of_isRounded {x : Double} (h : x.IsRounded) : x * ofInt 1 = x := by
  have hone : ofInt 1 = finite false one := by
    rw [ofInt_of_small (by decide), Int.natAbs_one, Nat.one_mul]
    rfl
  rw [hone]
  show mul _ _ = _
  cases h with
  | nan => rfl
  | infinite negative =>
    rw [mul, if_neg (Nat.ne_of_gt one_pos)]
    cases negative <;> rfl
  | finite negative hfits =>
    rw [mul, ofUnits_of_fits hfits one_pos]
    cases negative <;> rfl

theorem mul_zero_units (a b : Bool) (units : Nat) : finite a units * finite b 0 = finite (a != b) 0 := by
  have hzero := ofUnits_of_fits (fits_whole (Nat.two_pow_pos 53)) one_pos
  rw [Nat.zero_mul, Nat.zero_mul] at hzero
  show mul _ _ = _
  rw [mul, Nat.mul_zero, hzero]

/-- Nothing but a negative zero is changed by adding it to zero. -/
theorem zero_add_of_isRounded {x : Double} (h : x.IsRounded) (hzero : x ≠ finite true 0) : zero + x = x := by
  show add _ _ = _
  cases h with
  | nan => rfl
  | infinite negative => rfl
  | @finite negative units hfits =>
    have hrounded := ofUnits_of_fits hfits Nat.one_pos
    rw [Nat.mul_one] at hrounded
    -- Rounding a sum that fits already changes nothing, and a positive zero gives its sign to none but another
    -- zero.
    cases negative with
    | false =>
      by_cases hunits : units = 0
      · simpa [zero, add, hunits] using hrounded false
      · have hpositive : ¬(units : Int) < 0 := by omega
        simpa [zero, add, hunits, hpositive] using hrounded false
    | true =>
      have hunits : units ≠ 0 := fun hunits => hzero (by rw [hunits])
      simpa [zero, add, hunits, Nat.pos_of_ne_zero hunits] using hrounded true

/-- Nothing is added to a double by zero. -/
theorem zero_add_ofInt (n : Nat) : zero + ofInt n = ofInt n := by
  refine zero_add_of_isRounded (isRounded_ofInt n) ?_
  have hpositive : decide ((n : Int) < 0) = false := decide_eq_false (by omega)
  rcases Nat.lt_or_ge (n : Int).natAbs (2 ^ 53) with hsmall | hlarge
  · rw [ofInt_of_small hsmall, hpositive]
    exact nofun
  · rcases ofInt_of_large hlarge with hinfinite | ⟨m, -, hfinite⟩
    · rw [hinfinite]
      exact nofun
    · rw [hfinite, hpositive]
      exact nofun

end Double

end ClusterLease
