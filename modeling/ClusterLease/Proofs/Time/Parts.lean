import ClusterLease.Proofs.Time.Requested

/-!
Which texts ask for a duration.

Without the blanks around it and its sign, such a text is a run of digits or a run of parts
(`Spells`). The parts of a run are found one after another, each where the one before it stops
(`findParts_letters`), and parts that are added up to the end of a text are all there is in it
(`addParts_findParts`). So a text is refused for its form exactly if it is neither of the two, and for
its size only if its seconds are out of range (`requested_exactly`).
-/

namespace ClusterLease

namespace Text

theorem trim_sublist (p : Char → Bool) (cs : List Char) : (trim p cs).Sublist cs := by
  have hright (l : List Char) : (trimRight p l).Sublist l := by
    have hreverse := (List.dropWhile_sublist p (l := l.reverse)).reverse
    rwa [List.reverse_reverse] at hreverse
  exact (hright _).trans (List.dropWhile_sublist p)

/-- Beyond ASCII there are further digits, within it there are none. -/
theorem isAsciiDigit_of_isDigit {c : Char} (hascii : c.toNat < 128) (h : isDigit c) : isAsciiDigit c := by
  have hbeyond : ∀ range ∈ digitRanges, range = (0x30, 0x39) ∨ 128 ≤ range.1 := by decide
  obtain ⟨range, hmem, hlow, hhigh⟩ := exists_range_of_isDigit h
  obtain rfl | hfar := hbeyond range hmem
  · rw [isAsciiDigit, Bool.and_eq_true, decide_eq_true_eq, decide_eq_true_eq]
    exact ⟨hlow, hhigh⟩
  · omega

end Text

namespace Numeral

open Text

theorem asciiForm_of_isAsciiDigit {c : Char} (h : isAsciiDigit c) : asciiForm c = c := by
  rw [isAsciiDigit, Bool.and_eq_true, decide_eq_true_eq, decide_eq_true_eq] at h
  have hlow : 48 ≤ c.toNat := h.1
  have hhigh : c.toNat ≤ 57 := h.2
  rw [← Char.ofNat_toNat c]
  generalize c.toNat = n at hlow hhigh
  interval_cases n <;> rfl

end Numeral

namespace Duration

open Text

/-! ### The form of a part -/

/-- Digits, which may be followed by a point and more digits. -/
inductive IsAmount : List Char → Prop where
  | whole {digits : List Char} (hne : digits ≠ []) (hdigits : ∀ c ∈ digits, isDecimal c) :
    IsAmount digits
  | fraction {digits more : List Char} (hne : digits ≠ []) (hdigits : ∀ c ∈ digits, isDecimal c)
    (hmore : more ≠ []) (hdigits' : ∀ c ∈ more, isDecimal c) : IsAmount (digits ++ '.' :: more)

def TimeUnit.letters : TimeUnit → List Char
  | hour => ['h']
  | minute => ['m']
  | second => ['s']
  | millisecond => ['m', 's']

/-- A part as it is written, its amount and its unit. -/
def Part.letters (part : Part) : List Char := part.amount ++ part.unit.letters

/-- The letters of parts, one part after another. -/
def lettersOf (parts : List Part) : List Char := parts.flatMap Part.letters

theorem IsAmount.ne_nil {cs : List Char} (h : IsAmount cs) : cs ≠ [] := by
  cases h with
  | whole hne _ => exact hne
  | fraction hne _ _ _ => simp

/-- An amount starts with a digit. -/
theorem IsAmount.exists_cons {cs : List Char} (h : IsAmount cs) :
    ∃ first rest, cs = first :: rest ∧ isDecimal first := by
  cases h with
  | whole hne hdigits =>
    obtain ⟨first, rest, rfl⟩ := List.exists_cons_of_ne_nil hne
    exact ⟨first, rest, rfl, hdigits first List.mem_cons_self⟩
  | fraction hne hdigits _ _ =>
    obtain ⟨first, rest, rfl⟩ := List.exists_cons_of_ne_nil hne
    exact ⟨first, rest ++ _, rfl, hdigits first List.mem_cons_self⟩

/-- A unit begins with a letter, which no amount can go on with. -/
theorem TimeUnit.exists_letters (unit : TimeUnit) :
    ∃ first rest, unit.letters = first :: rest ∧ isDecimal first = false ∧ first ≠ '.' := by
  cases unit <;> exact ⟨_, _, rfl, by decide, by decide⟩

theorem unit?_eq_some {cs rest : List Char} {unit : TimeUnit} (h : unit? cs = some (unit, rest)) :
    cs = unit.letters ++ rest := by
  unfold unit? at h
  split at h <;> cases h <;> rfl

/-- A unit is read in front of anything but an `s`, which would make milliseconds of minutes. -/
theorem unit?_letters (unit : TimeUnit) {rest : List Char} (hrest : rest.head? ≠ some 's') :
    unit? (unit.letters ++ rest) = some (unit, rest) := by
  cases unit with
  | minute =>
    -- Only minutes are in doubt, as milliseconds begin alike; the text behind them decides.
    cases rest with
    | nil => rfl
    | cons first rest =>
      show unit? ('m' :: first :: rest) = _
      unfold unit?
      split
      · next heq => cases heq
      · next heq =>
        cases heq
        exact absurd rfl hrest
      · next heq =>
        cases heq
        rfl
      · next heq => cases heq
      · next hminute _ => exact (hminute _ rfl).elim
  | _ => rfl

theorem takeWhile_decimals {digits rest : List Char} {c : Char} (hdigits : ∀ d ∈ digits, isDecimal d)
    (hc : isDecimal c = false) : (digits ++ c :: rest).takeWhile isDecimal = digits := by
  rw [List.takeWhile_append_of_pos hdigits, List.takeWhile_cons_of_neg (by simp [hc]), List.append_nil]

theorem dropWhile_decimals {digits rest : List Char} {c : Char} (hdigits : ∀ d ∈ digits, isDecimal d)
    (hc : isDecimal c = false) : (digits ++ c :: rest).dropWhile isDecimal = c :: rest := by
  rw [List.dropWhile_append_of_pos hdigits, List.dropWhile_cons_of_neg (by simp [hc])]

/-- An amount is read up to the first character that is neither a digit nor a point. -/
theorem amount_append {digits : List Char} {c : Char} (rest : List Char) (h : IsAmount digits)
    (hc : isDecimal c = false) (hpoint : c ≠ '.') : amount (digits ++ c :: rest) = (digits, c :: rest) := by
  -- A whole amount ends at a character other than a point, a fraction at the second one that is no digit.
  cases h with
  | whole hne hdigits =>
    unfold amount
    rw [takeWhile_decimals hdigits hc, dropWhile_decimals hdigits hc]
    split
    · next heq =>
      cases heq
      exact absurd rfl hpoint
    · rfl
  | @fraction digits more hne hdigits hmore hdigits' =>
    have hdot : isDecimal '.' = false := by decide
    rw [List.append_assoc, List.cons_append]
    unfold amount
    rw [takeWhile_decimals hdigits hdot, dropWhile_decimals hdigits hdot]
    simp only [takeWhile_decimals hdigits' hc, dropWhile_decimals hdigits' hc,
      List.isEmpty_eq_false_iff.2 hmore, Bool.false_eq_true, if_false]

/-- What is read as an amount is one, if there is a digit at all. -/
theorem amount_spec {first : Char} (hfirst : isDecimal first) (cs : List Char) :
    IsAmount (amount (first :: cs)).1 ∧ (amount (first :: cs)).1 ++ (amount (first :: cs)).2 = first :: cs := by
  have hall (l : List Char) : ∀ c ∈ l.takeWhile isDecimal, isDecimal c := fun c hc => List.mem_takeWhile_imp hc
  have hne : (first :: cs).takeWhile isDecimal ≠ [] := by
    rw [List.takeWhile_cons_of_pos hfirst]
    exact List.cons_ne_nil _ _
  have hwhole : IsAmount ((first :: cs).takeWhile isDecimal) := .whole hne (hall _)
  -- Without digits behind a point the point is left where it is.
  have hsplit := List.takeWhile_append_dropWhile (p := isDecimal) (l := first :: cs)
  unfold amount
  dsimp only
  split
  · next rest heq =>
    split
    · rw [heq] at hsplit
      exact ⟨hwhole, hsplit⟩
    · next hmore =>
      refine ⟨.fraction hne (hall _) (fun hnil => hmore (List.isEmpty_iff.2 hnil)) (hall _), ?_⟩
      rw [List.append_assoc, List.cons_append, List.takeWhile_append_dropWhile, ← heq]
      exact hsplit
  · exact ⟨hwhole, hsplit⟩

/-! ### Parts at the start of a text -/

theorem part?_eq_some {cs rest : List Char} {part : Part} (h : part? cs = some (part, rest)) :
    IsAmount part.amount ∧ cs = part.letters ++ rest := by
  cases cs with
  | nil => cases h
  | cons first tail =>
    rw [part?] at h
    split at h
    · next hfirst =>
      obtain ⟨⟨unit, after⟩, hunit, heq⟩ := Option.map_eq_some_iff.1 h
      cases heq
      obtain ⟨hamount, hsplit⟩ := amount_spec hfirst tail
      refine ⟨hamount, ?_⟩
      rw [Part.letters, List.append_assoc, ← unit?_eq_some hunit]
      exact hsplit.symm
    · cases h

/-- A written part is read again, unless an `s` behind it would make minutes milliseconds. -/
theorem part?_letters {part : Part} (hpart : IsAmount part.amount) {rest : List Char}
    (hrest : rest.head? ≠ some 's') : part? (part.letters ++ rest) = some (part, rest) := by
  obtain ⟨first, digits, hfirst, hdecimal⟩ := hpart.exists_cons
  obtain ⟨letter, others, hletters, hletter, hpoint⟩ := part.unit.exists_letters
  have htext : part.letters ++ rest = part.amount ++ letter :: (others ++ rest) := by
    rw [Part.letters, hletters, List.append_assoc, List.cons_append]
  have hunit : unit? (letter :: (others ++ rest)) = some (part.unit, rest) := by
    rw [← List.cons_append, ← hletters]
    exact unit?_letters part.unit hrest
  have hamount := amount_append (others ++ rest) hpart hletter hpoint
  rw [htext]
  rw [hfirst, List.cons_append] at hamount ⊢
  rw [part?, if_pos hdecimal, hamount]
  dsimp only
  rw [hunit, ← hfirst]
  rfl

/-! ### Runs of parts -/

/-- A text consists of these parts and nothing else. -/
structure Spells (cs : List Char) (parts : List Part) : Prop where
  ne_nil : parts ≠ []
  amounts : ∀ part ∈ parts, IsAmount part.amount
  letters : cs = lettersOf parts

/-- Parts one after another, from a position on. -/
def laidOut : Nat → List Part → List Found
  | _, [] => []
  | position, part :: rest =>
    let stop := position + part.letters.length
    ⟨position, part, stop⟩ :: laidOut stop rest

/-- The seconds of parts, added from left to right. -/
def totalSeconds (parts : List Part) : Double := parts.foldl (fun total part => total + part.seconds) .zero

theorem lettersOf_cons (part : Part) (parts : List Part) :
    lettersOf (part :: parts) = part.letters ++ lettersOf parts := List.flatMap_cons

/-- After a part comes the end, or a digit. -/
theorem head?_lettersOf {parts : List Part} (h : ∀ part ∈ parts, IsAmount part.amount) :
    (lettersOf parts).head? ≠ some 's' := by
  cases parts with
  | nil => exact nofun
  | cons part rest =>
    obtain ⟨first, digits, hfirst, hdecimal⟩ := (h part List.mem_cons_self).exists_cons
    rw [lettersOf_cons, Part.letters, hfirst]
    intro heq
    cases heq
    exact absurd hdecimal (by decide)

theorem part_letters_ne_nil {part : Part} (h : IsAmount part.amount) : part.letters ≠ [] :=
  List.append_ne_nil_of_left_ne_nil h.ne_nil _

/-- Of a run of parts all parts are found, each where the one before it stops. -/
theorem findParts_letters {parts : List Part} (h : ∀ part ∈ parts, IsAmount part.amount) (position : Nat) :
    findParts position (lettersOf parts) = laidOut position parts := by
  -- By induction on the parts, for any position: the search goes on where the last part ended.
  induction parts generalizing position with
  | nil => rw [lettersOf, List.flatMap_nil, findParts, laidOut]
  | cons part rest ih =>
    obtain ⟨hpart, hrest⟩ := List.forall_mem_cons.1 h
    have hread := part?_letters hpart (head?_lettersOf hrest)
    obtain ⟨first, tail, hcons⟩ := List.exists_cons_of_ne_nil
      (List.append_ne_nil_of_left_ne_nil (part_letters_ne_nil hpart) (lettersOf rest))
    rw [lettersOf_cons, hcons, findParts]
    rw [hcons] at hread
    split
    · next found after heq =>
      cases hread.symm.trans heq
      have hlength : (first :: tail).length - (lettersOf rest).length = part.letters.length := by
        rw [← hcons, List.length_append, Nat.add_sub_cancel]
      rw [laidOut, hlength]
      exact congrArg _ (ih hrest _)
    · next heq => cases hread.symm.trans heq

/-- Parts laid out without a gap are added up to the end of the last one. -/
theorem addParts_laidOut (parts : List Part) (total : Total) :
    addParts total (laidOut total.stop parts) =
      ⟨total.stop + (lettersOf parts).length, parts.foldl (fun sum part => sum + part.seconds) total.seconds⟩ := by
  induction parts generalizing total with
  | nil => rfl
  | cons part rest ih =>
    rw [laidOut, addParts, if_pos rfl]
    refine (ih ⟨total.stop + part.letters.length, total.seconds + part.seconds⟩).trans ?_
    rw [lettersOf_cons, List.length_append, List.foldl_cons, Nat.add_assoc]

/-! ### Texts that are not runs -/

/-- Parts are found where the search stands or behind it. -/
theorem start_of_mem_findParts {position : Nat} {cs : List Char} {found : Found}
    (h : found ∈ findParts position cs) : position ≤ found.start := by
  fun_induction findParts position cs with
  | case1 => cases h
  | case2 position first tail part rest hpart stop ih =>
    rcases List.mem_cons.1 h with rfl | hmem
    · exact Nat.le_refl _
    · exact (Nat.le_add_right _ _).trans (ih hmem)
  | case3 position first tail hnone ih => exact (Nat.le_succ _).trans (ih h)

/-- A gap ends the sum. -/
theorem addParts_of_gap {total : Total} {found : List Found} (h : ∀ part ∈ found, total.stop < part.start) :
    addParts total found = total := by
  cases found with
  | nil => rfl
  | cons first rest =>
    rw [addParts, if_neg]
    exact fun heq => absurd (h first List.mem_cons_self) (by omega)

/-- Parts are added up over a stretch of the text that consists of parts. -/
theorem addParts_findParts (seconds : Double) (position : Nat) (cs : List Char) :
    ∃ parts rest, (∀ part ∈ parts, IsAmount part.amount) ∧ cs = lettersOf parts ++ rest ∧
      (addParts ⟨position, seconds⟩ (findParts position cs)).stop = position + (lettersOf parts).length := by
  -- Along the search: a part that is found extends the spelling, and the first gap ends it.
  fun_induction findParts position cs generalizing seconds with
  | case1 => exact ⟨[], [], nofun, rfl, rfl⟩
  | case2 position first tail part rest hpart stop ih =>
    obtain ⟨parts, after, hamounts, htext, hstop⟩ := ih (seconds + part.seconds)
    obtain ⟨hamount, hletters⟩ := part?_eq_some hpart
    refine ⟨part :: parts, after, List.forall_mem_cons.2 ⟨hamount, hamounts⟩, ?_, ?_⟩
    · rw [lettersOf_cons, List.append_assoc, ← htext, hletters]
    · have hlength : (first :: tail).length = part.letters.length + rest.length := by
        rw [hletters, List.length_append]
      rw [addParts, if_pos rfl, hstop, lettersOf_cons, List.length_append]
      omega
  | case3 position first tail hnone ih =>
    refine ⟨[], first :: tail, nofun, rfl, ?_⟩
    rw [addParts_of_gap fun found hfound => start_of_mem_findParts hfound]
    rfl

/-- If the parts found reach from the beginning to the end of a text, they spell it. -/
theorem exists_spells {cs : List Char} (hstart : (addParts ⟨0, .zero⟩ (findParts 0 cs)).stop ≠ 0)
    (hend : (addParts ⟨0, .zero⟩ (findParts 0 cs)).stop = cs.length) : ∃ parts, Spells cs parts := by
  obtain ⟨parts, rest, hamounts, htext, hstop⟩ := addParts_findParts .zero 0 cs
  have hrest : rest = [] := by
    have hlength := congrArg List.length htext
    rw [List.length_append] at hlength
    exact List.eq_nil_of_length_eq_zero (by omega)
  rw [hrest, List.append_nil] at htext
  refine ⟨parts, fun hnil => hstart ?_, hamounts, htext⟩
  rw [hstop, hnil]
  rfl

namespace Spells

variable {cs : List Char} {parts others : List Part}

theorem findParts (h : Spells cs parts) : findParts 0 cs = laidOut 0 parts := by
  rw [h.letters]
  exact findParts_letters h.amounts 0

theorem addParts (h : Spells cs parts) :
    addParts ⟨0, .zero⟩ (Duration.findParts 0 cs) = ⟨cs.length, totalSeconds parts⟩ := by
  rw [h.findParts, addParts_laidOut parts ⟨0, .zero⟩, Nat.zero_add, ← h.letters]
  rfl

/-- A text consists of parts in one way only. -/
theorem unique (h : Spells cs parts) (h' : Spells cs others) : others = parts := by
  have hparts (position : Nat) (parts : List Part) : (laidOut position parts).map (·.part) = parts := by
    induction parts generalizing position with
    | nil => rfl
    | cons part rest ih => exact congrArg (part :: ·) (ih _)
  rw [← hparts 0 others, ← hparts 0 parts, ← h.findParts, h'.findParts]

theorem cs_ne_nil (h : Spells cs parts) : cs ≠ [] := by
  obtain ⟨part, rest, rfl⟩ := List.exists_cons_of_ne_nil h.ne_nil
  rw [h.letters]
  exact List.append_ne_nil_of_left_ne_nil (part_letters_ne_nil (h.amounts part List.mem_cons_self)) _

/-- The last letter of a text of parts is that of a unit, so that it is no numeral. -/
theorem exists_not_isDigit (h : Spells cs parts) : ∃ c ∈ cs, isDigit c = false := by
  obtain ⟨part, rest, rfl⟩ := List.exists_cons_of_ne_nil h.ne_nil
  obtain ⟨letter, letters, hletters, -, -⟩ := part.unit.exists_letters
  have hletter : isDigit letter = false := by
    cases hunit : part.unit
    all_goals
      rw [hunit] at hletters
      cases hletters
      decide
  refine ⟨letter, ?_, hletter⟩
  rw [h.letters, lettersOf_cons, Part.letters, hletters]
  simp

end Spells

/-! ### What a text asks for -/

/-- Decimal digits only, and at least one. -/
def IsNumeral (cs : List Char) : Prop := cs ≠ [] ∧ ∀ c ∈ cs, isAsciiDigit c

variable {value : Value}

/-- Taking off blanks and the sign leaves some of the characters, in order. -/
theorem unsigned_sublist (value : Value) : (unsigned value).Sublist value.display.toList := by
  have hsign (cs : List Char) : (splitSign cs).2.Sublist cs := by
    unfold splitSign
    split
    · exact List.sublist_cons_self _ _
    · exact List.sublist_cons_self _ _
    · exact List.Sublist.refl _
  exact (hsign _).trans (trim_sublist isBlank _)

/-- A text of parts asks for the sum of their seconds. -/
theorem ofText_of_spells {parts : List Part} (h : Spells (unsigned value) parts) :
    ofText value value.display =
      inRange value (ofDouble? (if isNegative value then -totalSeconds parts else totalSeconds parts)) := by
  have hrun : ¬(!(unsigned value).isEmpty && (unsigned value).all isDigit) = true := by
    rw [isRun_iff]
    rintro ⟨-, hall⟩
    obtain ⟨c, hc, hdigit⟩ := h.exists_not_isDigit
    simp [hall c hc] at hdigit
  have hstop : ¬((unsigned value).length = 0 ∨ (unsigned value).length ≠ (unsigned value).length) := by
    simp [h.cs_ne_nil]
  rw [ofText_display, trim_ne_nil_of_unsigned h.cs_ne_nil, if_neg Bool.false_ne_true, if_neg hrun, h.addParts]
  exact if_neg hstop

/-- A text that is neither digits nor parts is refused for its form. -/
theorem ofText_of_neither (hdigits : unsigned value ≠ [] → ∃ c ∈ unsigned value, isDigit c = false)
    (hparts : ¬∃ parts, Spells (unsigned value) parts) :
    ofText value value.display = .error (.rejected (if (trim isBlank value.display.toList).isEmpty
      then .missingDuration else .invalidDuration value.shown)) := by
  have hrun : ¬(!(unsigned value).isEmpty && (unsigned value).all isDigit) = true := by
    rw [isRun_iff]
    rintro ⟨hne, hall⟩
    obtain ⟨c, hc, hdigit⟩ := hdigits hne
    simp [hall c hc] at hdigit
  rw [ofText_display, if_neg hrun]
  split
  · rfl
  · dsimp only
    rw [if_pos]
    by_contra hstop
    rw [not_or, not_not] at hstop
    exact hparts (exists_spells hstop.1 hstop.2)

/-- An ASCII text that is not too long is never mistaken for a number that it does not write. -/
theorem not_noNumber {s : String} (hascii : ∀ c ∈ s.toList, c.toNat < 128) (hlength : s.length ≤ 4300) :
    ¬NoNumber (unsigned (.text s)) := by
  have hsublist : (unsigned (.text s)).Sublist s.toList := unsigned_sublist (.text s)
  rintro ⟨-, hdigits, ⟨c, hc, hloose⟩ | hlong⟩
  · have hdigit := isAsciiDigit_of_isDigit (hascii c (hsublist.subset hc)) (hdigits c hc)
    exact hloose (isDecimal_of_isAsciiDigit hdigit)
  · have hshort := hsublist.length_le
    rw [String.length_toList] at hshort
    have hmax : Numeral.maxDigits = 4300 := rfl
    omega

/-- Digits are read as a whole number up to the length that the reader allows. -/
theorem IsNumeral.int? {cs : List Char} (h : IsNumeral cs) (hlength : cs.length ≤ 4300) :
    Numeral.int? (String.ofList cs) = some (Numeral.natOfDigits cs : Int) := by
  have hdecimal : ∀ c ∈ cs, isDecimal c := fun c hc => isDecimal_of_isAsciiDigit (h.2 c hc)
  have hforms : cs.map Numeral.asciiForm = cs := by
    conv_rhs => rw [← List.map_id cs]
    exact List.map_congr_left fun c hc => Numeral.asciiForm_of_isAsciiDigit (h.2 c hc)
  rw [Numeral.int?_of_digits h.1 fun c hc => isDigit_of_isDecimal (hdecimal c hc),
    if_pos ⟨List.all_eq_true.2 hdecimal, hlength⟩, hforms]

/--
A text of at most 4300 ASCII characters is only ever refused, and if it is neither a numeral nor a run of
parts it is refused for its form. A numeral asks for as many seconds as it says; a run of parts for the sum
of the seconds of its parts from left to right, of which there is only one reading, and in which exactly
these parts are found and added up to its end. Both are refused only for seconds that no duration has.
-/
theorem requested_exactly {s : String} (hascii : ∀ c ∈ s.toList, c.toNat < 128) (hlength : s.length ≤ 4300) :
    let value := Value.text s
    let cs := unsigned value
    (∀ fault, requested value = .error fault → ∃ why, fault = .rejected why) ∧
    (¬IsNumeral cs → (¬∃ parts, Spells cs parts) →
      requested value = .error (.rejected (if (trim isBlank s.toList).isEmpty
        then .missingDuration else .invalidDuration value.shown))) ∧
    (IsNumeral cs → requested value = inRange value
      (ofSeconds? (if isNegative value then -(Numeral.natOfDigits cs : Int) else Numeral.natOfDigits cs))) ∧
    ∀ parts, Spells cs parts →
      requested value = inRange value
        (ofDouble? (if isNegative value then -totalSeconds parts else totalSeconds parts)) ∧
      findParts 0 cs = laidOut 0 parts ∧
      addParts ⟨0, .zero⟩ (findParts 0 cs) = ⟨cs.length, totalSeconds parts⟩ ∧
      ∀ others, Spells cs others → others = parts := by
  intro value cs
  have hsublist : cs.Sublist s.toList := unsigned_sublist value
  refine ⟨fun fault => requested_error (not_noNumber hascii hlength), fun hnumeral hparts => ?_,
    fun hnumeral => ?_, fun parts hparts => ⟨ofText_of_spells hparts, hparts.findParts, hparts.addParts,
      fun others hothers => hparts.unique hothers⟩⟩
  · refine @ofText_of_neither value (fun hne => ?_) hparts
    -- In ASCII every digit counts as a numeral's, so a text of digits alone would be a numeral.
    by_contra! hdigits
    refine hnumeral ⟨hne, fun c hc => isAsciiDigit_of_isDigit (hascii c (hsublist.subset hc)) ?_⟩
    exact Bool.eq_true_of_not_eq_false (hdigits c hc)
  · have hshort : cs.length ≤ 4300 := hsublist.length_le.trans (s.length_toList.le.trans hlength)
    have hrun := @ofText_of_run value hnumeral.1 fun c hc =>
      isDigit_of_isDecimal (isDecimal_of_isAsciiDigit (hnumeral.2 c hc))
    rw [hnumeral.int? hshort] at hrun
    exact hrun

namespace Sample

/-- An hour, thirty and a half minutes, and seven milliseconds, backward. -/
def backward : Value := .text " -1h30.5m7ms\n"

/-- The parts of the sample, without its sign and blanks. -/
def backwardParts : List Part := [⟨['1'], .hour⟩, ⟨['3', '0', '.', '5'], .minute⟩, ⟨['7'], .millisecond⟩]

theorem isAmount_backward : ∀ part ∈ backwardParts, IsAmount part.amount := by
  have hdecimal (digits : List Char) (h : digits.all isDecimal) : ∀ c ∈ digits, isDecimal c :=
    List.all_eq_true.1 h
  simp only [backwardParts, List.forall_mem_cons]
  refine ⟨.whole (by decide) (hdecimal _ (by decide)), ?_, .whole (by decide) (hdecimal _ (by decide)), nofun⟩
  exact @IsAmount.fraction ['3', '0'] ['5'] (by decide) (hdecimal _ (by decide)) (by decide)
    (hdecimal _ (by decide))

theorem spells_backward : Spells (unsigned backward) backwardParts where
  ne_nil := List.cons_ne_nil _ _
  amounts := isAmount_backward
  letters := by decide +kernel

theorem ascii_backward : ∀ c ∈ " -1h30.5m7ms\n".toList, c.toNat < 128 := by
  have hall : " -1h30.5m7ms\n".toList.all (·.toNat < 128) = true := by decide +kernel
  simpa only [List.all_eq_true, decide_eq_true_eq] using hall

end Sample

open Sample in
/-- Letters that fit together in more than one way, such as those of milliseconds, are read in one. -/
theorem requested_exactly_of_backward :
    (∀ c ∈ " -1h30.5m7ms\n".toList, c.toNat < 128) ∧ " -1h30.5m7ms\n".length ≤ 4300 ∧
      requested backward = .ok ⟨-5430007000, by decide⟩ ∧
      ∀ parts, Spells (unsigned backward) parts → parts = backwardParts := by
  have hlength : " -1h30.5m7ms\n".length ≤ 4300 := by decide +kernel
  obtain ⟨-, -, -, hparts⟩ := requested_exactly ascii_backward hlength
  obtain ⟨hrequested, -, -, hunique⟩ := hparts backwardParts spells_backward
  refine ⟨ascii_backward, hlength, hrequested.trans ?_, hunique⟩
  decide +kernel

end Duration

end ClusterLease
