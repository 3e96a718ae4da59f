import ClusterLease.Proofs.Number.Double
import ClusterLease.Proofs.Time.Parts

/-!
Whole seconds, however they are given.

A whole number, its decimal text, and that text with the unit behind it ask for the same duration
(`seconds_given_alike`). The first two are counted exactly and the third as a double. That makes
no difference: a double that stands for a whole number is that number or so large that neither of
the two is a duration (`ofDouble?_ofInt`).
-/

namespace ClusterLease

namespace Numeral

open Text

theorem natOfDigits_toDigits (n : Nat) : natOfDigits (Nat.toDigits 10 n) = n := by
  have hfold (cs : List Char) (start : Nat) :
      cs.foldl (fun n c => n * 10 + (c.toNat - '0'.toNat)) start = Nat.ofDigitChars 10 cs start := by
    induction cs generalizing start with
    | nil => rfl
    | cons c rest ih => rw [List.foldl_cons, ih, Nat.ofDigitChars_cons, Nat.mul_comm]
  rw [natOfDigits, hfold, Nat.ofDigitChars_ten_toDigits]

/-- A whole number without a sign is read as the double nearest to it. -/
theorem ofDecimal_whole (n count : Nat) : ofDecimal false n count 0 = Double.ofInt n := by
  unfold ofDecimal
  by_cases hzero : n = 0
  · rw [if_pos hzero, hzero]
    exact Double.ofInt_zero.symm
  · have hcount : ¬(0 + (count : Int) < -400) := by omega
    have hpow : n * Nat.pow 10 (0 : Int).toNat = n := Nat.mul_one n
    rw [if_neg hzero, if_neg (by decide), if_neg hcount, if_pos (by decide), hpow]
    rfl

/-- Digits alone are read as the nearest double of their number. -/
theorem decimal?_of_digits {cs : List Char} (hne : cs ≠ []) (h : ∀ c ∈ cs, isAsciiDigit c) :
    decimal? false cs = some (Double.ofInt (natOfDigits cs)) := by
  have hdrop : cs.dropWhile isAsciiDigit = [] := List.dropWhile_eq_nil_iff.2 h
  have htake : cs.takeWhile isAsciiDigit = cs := List.takeWhile_eq_self_iff.2 h
  rw [decimal?, hdrop, htake, ← ofDecimal_whole _ cs.length]
  dsimp only
  rw [List.append_nil, List.isEmpty_eq_false_iff.2 hne]
  rfl

end Numeral

namespace Duration

open Text

/-! ### Doubles that are whole numbers -/

/-- A whole number of seconds is a whole number of microseconds, without any rounding. -/
theorem ofDouble?_whole (negative : Bool) (n : Nat) :
    ofDouble? (.finite negative (n * Double.one)) = ofSeconds? (if negative then -(n : Int) else n) := by
  generalize hwhole : (if negative then -(n : Int) else n) = whole
  have hunits : (Double.finite negative (n * Double.one)).signedUnits? = some (whole * Double.one) := by
    rw [Double.signedUnits?, ← hwhole, Int.natCast_mul]
    cases negative with
    | false => rw [if_neg Bool.false_ne_true, if_neg Bool.false_ne_true]
    | true => rw [if_pos rfl, if_pos rfl, Int.neg_mul]
  have hone : (Double.one : Int) ≠ 0 := by exact_mod_cast Nat.ne_of_gt Double.one_pos
  have htruncate : (Double.finite negative (n * Double.one)).truncate? = some whole := by
    rw [Double.truncate?, hunits, Option.map_some, Int.mul_tdiv_cancel _ hone]
  -- A whole number has no fraction, so that only rounding is left to be looked at.
  have hpart : (Double.ofInt second * (Double.finite negative (n * Double.one)).fraction).signedUnits? =
      some 0 := by
    rw [Double.fraction, Nat.mul_mod_left, Double.ofInt_of_small (by decide), Double.mul_zero_units]
    simp [Double.signedUnits?]
  have hround : roundSigned (whole * second * Double.one + 0) Double.one = whole * second := by
    have hmagnitude (k : Int) : roundHalfEven (k * Double.one).natAbs Double.one = k.natAbs := by
      rw [Int.natAbs_mul, Int.natAbs_natCast, Nat.mul_comm]
      exact Double.roundHalfEven_mul_left Double.one_pos _
    have hsign (k : Int) : k * (Double.one : Int) < 0 ↔ k < 0 := by
      constructor
      · intro h
        by_contra hk
        have := Int.mul_nonneg (Int.not_lt.1 hk) (Int.natCast_nonneg Double.one)
        omega
      · exact fun h => Int.mul_neg_of_neg_of_pos h (by exact_mod_cast Double.one_pos)
    rw [Int.add_zero, roundSigned, hmagnitude]
    simp only [hsign]
    split <;> omega
  rw [ofDouble?, htruncate, hpart]
  show ofMicros? (roundSigned (whole * second * Double.one + 0) Double.one) = _
  rw [hround, ofSeconds?]

/-- Numbers that a double cannot hold exactly are far outside the range of durations. -/
theorem ofSeconds?_eq_none {n : Int} (h : 2 ^ 53 ≤ n.natAbs) : ofSeconds? n = none := by
  rw [ofSeconds?, ofMicros?, dif_neg]
  simp only [least, greatest, day, second]
  omega

/-- The double nearest to a whole number is as good a count of seconds as the number itself. -/
theorem ofDouble?_ofInt (n : Int) : ofDouble? (Double.ofInt n) = ofSeconds? n := by
  rcases Nat.lt_or_ge n.natAbs (2 ^ 53) with hsmall | hlarge
  · rw [Double.ofInt_of_small hsmall, ofDouble?_whole]
    congr 1
    by_cases hnegative : n < 0
    · rw [decide_eq_true hnegative, if_pos rfl]
      omega
    · rw [decide_eq_false hnegative, if_neg Bool.false_ne_true]
      omega
  · rw [ofSeconds?_eq_none hlarge]
    rcases Double.ofInt_of_large hlarge with hinfinite | ⟨m, hm, hfinite⟩
    · rw [hinfinite]
      rfl
    · rw [hfinite, ofDouble?_whole, ofSeconds?_eq_none]
      split <;> omega

/-! ### Digits and their unit -/

theorem seconds_of_digits {cs : List Char} (h : IsNumeral cs) :
    Part.seconds ⟨cs, .second⟩ = Double.ofInt (Numeral.natOfDigits cs) := by
  have hforms : cs.map Numeral.asciiForm = cs := by
    conv_rhs => rw [← List.map_id cs]
    exact List.map_congr_left fun c hc => Numeral.asciiForm_of_isAsciiDigit (h.2 c hc)
  rw [Part.seconds, hforms, Numeral.decimal?_of_digits h.1 h.2]
  exact Double.mul_one_of_isRounded (Double.isRounded_ofInt _)

theorem totalSeconds_of_digits {cs : List Char} (h : IsNumeral cs) :
    totalSeconds [⟨cs, .second⟩] = Double.ofInt (Numeral.natOfDigits cs) := by
  show Double.zero + Part.seconds ⟨cs, .second⟩ = _
  rw [seconds_of_digits h, Double.zero_add_ofInt]

/-! ### The texts of a whole number -/

/-- The digits of a number in decimal. -/
def digitsOf (n : Int) : List Char := Nat.toDigits 10 n.natAbs

/-- What stands in front of the digits of a number. -/
def signOf (n : Int) : List Char := if n < 0 then ['-'] else []

theorem toList_toString (n : Int) : (toString n).toList = signOf n ++ digitsOf n := by
  cases n with
  | ofNat m =>
    show (toString m).toList = _
    rw [Nat.toString_eq_repr, Nat.toList_repr]
    rfl
  | negSucc m =>
    show ("-" ++ toString (m + 1)).toList = _
    rw [String.toList_append, Nat.toString_eq_repr, Nat.toList_repr, signOf, if_pos (Int.negSucc_lt_zero m)]
    rfl

theorem isNumeral_digitsOf (n : Int) : IsNumeral (digitsOf n) := by
  refine ⟨Nat.toDigits_ne_nil, fun c hc => ?_⟩
  have hdigit : c.isDigit = true := Nat.isDigit_of_mem_toDigits (by decide) (by decide) hc
  simpa [Char.isDigit, isAsciiDigit, Char.le_def, UInt32.le_iff_toNat_le] using hdigit

theorem natOfDigits_digitsOf (n : Int) : Numeral.natOfDigits (digitsOf n) = n.natAbs :=
  Numeral.natOfDigits_toDigits _

theorem isBlank_of_mem_digitsOf {n : Int} : ∀ c ∈ signOf n ++ digitsOf n, isBlank c = false := by
  intro c hc
  rcases List.mem_append.1 hc with hsign | hdigit
  · rw [signOf] at hsign
    split at hsign
    · rw [List.mem_singleton.1 hsign]
      decide
    · cases hsign
  · exact isBlank_of_isDigit (isDigit_of_isDecimal (isDecimal_of_isAsciiDigit ((isNumeral_digitsOf n).2 c hdigit)))

/-- The sign of a number is split off, whatever follows its digits. -/
theorem splitSign_signOf (n : Int) (rest : List Char) :
    splitSign (signOf n ++ (digitsOf n ++ rest)) = (decide (n < 0), digitsOf n ++ rest) := by
  obtain ⟨first, more, hcons⟩ := List.exists_cons_of_ne_nil (isNumeral_digitsOf n).1
  have hfirst : isAsciiDigit first := (isNumeral_digitsOf n).2 first (hcons ▸ List.mem_cons_self)
  rw [hcons, signOf]
  by_cases hnegative : n < 0
  · rw [if_pos hnegative, decide_eq_true hnegative]
    rfl
  · rw [if_neg hnegative, decide_eq_false hnegative, List.nil_append]
    -- Without a sign the first character is a digit, which is neither plus nor minus.
    unfold splitSign
    split
    · next heq =>
      cases heq
      exact absurd hfirst (by decide)
    · next heq =>
      cases heq
      exact absurd hfirst (by decide)
    · rfl

/-- The decimal text of a number with something behind it is read in two parts. -/
theorem splitSign_trim {n : Int} {rest : List Char} (hrest : ∀ c ∈ rest, isBlank c = false) {s : String}
    (hs : s.toList = (toString n).toList ++ rest) :
    splitSign (trim isBlank s.toList) = (decide (n < 0), digitsOf n ++ rest) := by
  rw [hs, toList_toString, trim_eq_self, List.append_assoc, splitSign_signOf]
  intro c hc
  rcases List.mem_append.1 hc with hc | hc
  · exact isBlank_of_mem_digitsOf c hc
  · exact hrest c hc

/-- Written in digits, seconds are checked against the range as they are. -/
theorem requested_decimal {n : Int} (hlength : (digitsOf n).length ≤ 4300) :
    requested (.text (toString n)) = inRange (.text (toString n)) (ofSeconds? n) := by
  have hsplit := @splitSign_trim n [] nofun (toString n) (List.append_nil _).symm
  rw [List.append_nil] at hsplit
  have hunsigned : unsigned (.text (toString n)) = digitsOf n := congrArg Prod.snd hsplit
  have hnegative : isNegative (.text (toString n)) = decide (n < 0) := congrArg Prod.fst hsplit
  have hnumeral := isNumeral_digitsOf n
  have hread := @ofText_of_run (.text (toString n)) (hunsigned ▸ hnumeral.1) fun c hc =>
    isDigit_of_isDecimal (isDecimal_of_isAsciiDigit (hnumeral.2 c (hunsigned ▸ hc)))
  rw [hunsigned, hnegative, hnumeral.int? hlength, natOfDigits_digitsOf] at hread
  refine hread.trans ?_
  show inRange _ (ofSeconds? (if decide (n < 0) = true then -(n.natAbs : Int) else n.natAbs)) = _
  congr 2
  simp only [decide_eq_true_eq]
  omega

/-- With a unit, seconds go through doubles and are checked against the same range. -/
theorem requested_withUnit (n : Int) :
    requested (.text (toString n ++ "s")) = inRange (.text (toString n ++ "s")) (ofSeconds? n) := by
  have hsplit := @splitSign_trim n ['s'] (List.forall_mem_singleton.2 (by decide)) (toString n ++ "s") String.toList_append
  have hunsigned : unsigned (.text (toString n ++ "s")) = digitsOf n ++ ['s'] := congrArg Prod.snd hsplit
  have hnegative : isNegative (.text (toString n ++ "s")) = decide (n < 0) := congrArg Prod.fst hsplit
  have hnumeral := isNumeral_digitsOf n
  have hspells : Spells (unsigned (.text (toString n ++ "s"))) [⟨digitsOf n, .second⟩] := {
    ne_nil := List.cons_ne_nil _ _
    amounts := List.forall_mem_singleton.2
      (.whole hnumeral.1 fun c hc => isDecimal_of_isAsciiDigit (hnumeral.2 c hc))
    letters := by
      rw [hunsigned, lettersOf, List.flatMap_singleton]
      rfl }
  refine (ofText_of_spells hspells).trans ?_
  rw [hnegative, totalSeconds_of_digits hnumeral, natOfDigits_digitsOf]
  -- The sign is taken off the text and put to the double, which is the double of the signed number.
  by_cases hn : n < 0
  · rw [decide_eq_true hn, if_pos rfl, Double.neg_ofInt_natCast (by omega), ofDouble?_ofInt]
    congr 2
    omega
  · rw [decide_eq_false hn, if_neg Bool.false_ne_true, ofDouble?_ofInt]
    congr 2
    omega

/-! ### Whole seconds -/

/-- The ways to give a whole number of seconds. -/
inductive GivesSeconds (n : Int) : Value → Prop where
  | number : GivesSeconds n (.int n)
  | decimal : GivesSeconds n (.text (toString n))
  | withUnit : GivesSeconds n (.text (toString n ++ "s"))

/-- All three spellings come down to one check of the range. -/
theorem GivesSeconds.requested {n : Int} {value : Value} (h : GivesSeconds n value)
    (hlength : (digitsOf n).length ≤ 4300) : requested value = inRange value (ofSeconds? n) := by
  cases h with
  | number => rfl
  | decimal => exact requested_decimal hlength
  | withUnit => exact requested_withUnit n

/--
A whole number of at most 4300 digits asks for as many seconds if a duration can last that long, and is
refused otherwise, no matter whether it is given as a number, in decimal, or in decimal with the unit.
-/
theorem seconds_given_alike {n : Int} (hlength : (digitsOf n).length ≤ 4300) {value : Value}
    (h : GivesSeconds n value) :
    (-86399999913600 ≤ n ∧ n ≤ 86399999999999 →
      ∃ duration : Duration, duration.micros = n * 1000000 ∧ requested value = .ok duration) ∧
    (¬(-86399999913600 ≤ n ∧ n ≤ 86399999999999) →
      requested value = .error (.rejected (.durationOutOfRange value.shown))) := by
  have hrange : least ≤ n * second ∧ n * second ≤ greatest ↔ -86399999913600 ≤ n ∧ n ≤ 86399999999999 := by
    simp only [least, greatest, day, second]
    omega
  rw [h.requested hlength]
  constructor
  · intro hn
    refine ⟨⟨n * second, hrange.2 hn⟩, rfl, ?_⟩
    rw [ofSeconds?, ofMicros?, dif_pos (hrange.2 hn)]
    rfl
  · intro hn
    rw [ofSeconds?, ofMicros?, dif_neg (mt hrange.1 hn)]
    rfl

/-- The longest duration backward, and one second more than the longest forward. -/
theorem seconds_given_alike_of_extremes :
    requested (.text "-86399999913600s") = .ok ⟨-86399999913600000000, by decide⟩ ∧
    requested (.text "86400000000000s") =
      .error (.rejected (.durationOutOfRange "'86400000000000s'")) := by
  constructor
  · obtain ⟨duration, hmicros, hrequested⟩ := (seconds_given_alike (by decide)
      (.withUnit : GivesSeconds (-86399999913600) _)).1 (by decide)
    obtain ⟨micros, hbounded⟩ := duration
    subst hmicros
    exact hrequested
  · exact (seconds_given_alike (by decide) (.withUnit : GivesSeconds 86400000000000 _)).2 (by decide)

end Duration

end ClusterLease
