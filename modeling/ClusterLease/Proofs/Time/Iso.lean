import ClusterLease.Proofs.Text.Bytes
import ClusterLease.Time.Iso

/-!
Reading back the texts of days and moments.

The text of a day reads as the midnight that starts it (`ofIsoText?_date`), and the text of a moment as that
moment (`ofIsoText?_isoText`). Only an offset of less than a second gets lost: it reads as universal time
(`settled`). The proofs follow the reader through the numbers of the text, each of which has a fixed width
(`Numeral`).
-/

namespace ClusterLease

open Text (utf8 utf8_append zeroPadded digitByte paddedDigits)

/-- An offset as it is read back: less than a second counts as none. -/
def Offset.settled (offset : Offset) : Offset :=
  if offset.micros.natAbs < 1000000 then Offset.utc else offset

/-- A moment as it is read back. -/
def Moment.settled (m : Moment) : Moment := { m with offset := m.offset.map Offset.settled }

namespace Moment.Iso

/-! ### Numbers -/

/-- The byte of a digit is read as the digit. -/
theorem digit?_digitByte {c : Char} (h : c.isDigit) :
    digit? (digitByte c) = some (c.toNat - '0'.toNat) ∧ 48 ≤ digitByte c ∧ digitByte c ≤ 57 := by
  have hc := Char.isDigit_iff_toNat.1 h
  have hbyte : (digitByte c).toNat = c.toNat :=
    Nat.mod_eq_of_lt (Nat.lt_of_le_of_lt hc.2 (by decide))
  have hrange : 48 ≤ digitByte c ∧ digitByte c ≤ 57 := by
    rw [UInt8.le_iff_toNat_le, UInt8.le_iff_toNat_le, hbyte]
    exact hc
  refine ⟨?_, hrange⟩
  rw [digit?, if_pos hrange, hbyte]
  rfl

theorem number?_digits {cs : List Char} (h : ∀ c ∈ cs, c.isDigit) :
    number? (cs.map digitByte) = some (Nat.ofDigitChars 10 cs 0) := by
  have hfrom (n : Nat) : (cs.map digitByte).foldlM (fun n b => (digit? b).map (n * 10 + ·)) n =
      some (Nat.ofDigitChars 10 cs n) := by
    -- The digits are read from the left, so the induction is on what was read before.
    induction cs generalizing n with
    | nil => rfl
    | cons c rest ih =>
      rw [List.map_cons, List.foldlM_cons, (digit?_digitByte (h c List.mem_cons_self)).1,
        Nat.ofDigitChars_cons, Nat.mul_comm]
      exact ih (fun d hd => h d (List.mem_cons_of_mem _ hd)) _
  exact hfrom 0

/-- Bytes that write a number in so many digits. -/
structure Numeral (width n : Nat) (bytes : List UInt8) : Prop where
  length : bytes.length = width
  digits : ∀ rest, digits? width (bytes ++ rest) = some (n, rest)
  range : ∀ b ∈ bytes, 48 ≤ b ∧ b ≤ 57

/-- A number written with leading zeros is a numeral of just that width, if it fits. -/
theorem numeral_zeroPadded {width n : Nat} (hwidth : 0 < width) (h : n < 10 ^ width) :
    Numeral width n (utf8 (zeroPadded width n)) := by
  rw [Text.utf8_zeroPadded]
  have hdigits : ∀ c ∈ paddedDigits width n, c.isDigit := Text.isDigit_of_mem_paddedDigits
  have hlength : ((paddedDigits width n).map digitByte).length = width := by
    rw [List.length_map, Text.length_paddedDigits hwidth h]
  refine ⟨hlength, fun rest => ?_, fun b hb => ?_⟩
  · have hnumber := number?_digits hdigits
    rw [Text.ofDigitChars_paddedDigits] at hnumber
    have htake : ((paddedDigits width n).map digitByte ++ rest).take width =
        (paddedDigits width n).map digitByte := List.take_left' hlength
    have hdrop : ((paddedDigits width n).map digitByte ++ rest).drop width = rest :=
      List.drop_left' hlength
    rw [digits?, if_neg (by simp only [List.length_append, hlength]; omega), htake, hdrop, hnumber]
    rfl
  · obtain ⟨c, hc, rfl⟩ := List.mem_map.1 hb
    exact (digit?_digitByte (hdigits c hc)).2

/-- The byte behind a front of known length is found by that length. -/
theorem byteAt_append_length {front : List UInt8} {i : Nat} (h : front.length = i) (b : UInt8)
    (rest : List UInt8) : byteAt (front ++ b :: rest) i = Char.ofNat b.toNat := by
  simp [byteAt, List.getD_eq_getElem?_getD, ← h]

/-- A digit is another character than those that stand around digits. -/
theorem byteAt_numeral_ne {width n : Nat} {bytes : List UInt8} (h : Numeral width n bytes)
    (hwidth : 0 < width) (front rest : List UInt8) {i : Nat} (hi : front.length = i) {c : Char}
    (hc : 57 < c.toNat) : byteAt (front ++ (bytes ++ rest)) i ≠ c := by
  obtain ⟨b, others, rfl⟩ : ∃ b others, bytes = b :: others := by
    cases bytes with
    | nil => exact absurd h.length (Nat.ne_of_lt hwidth)
    | cons b others => exact ⟨b, others, rfl⟩
  have hrange : b.toNat ≤ 57 := UInt8.le_iff_toNat_le.1 (h.range b List.mem_cons_self).2
  have htoNat : (Char.ofNat b.toNat).toNat = b.toNat := by
    have hvalid : b.toNat.isValidChar := Or.inl (by omega)
    rw [Char.ofNat, dif_pos hvalid]
    rfl
  rw [List.cons_append, byteAt_append_length hi]
  rintro rfl
  rw [htoNat] at hc
  exact absurd hrange (Nat.not_le_of_lt hc)

/-! ### Days -/

theorem daysInMonth_le (year month : Nat) : Date.daysInMonth year month ≤ 31 := by
  have hall : ∀ length ∈ Date.monthLengths year, length ≤ 31 := by
    cases hleap : Date.isLeap year <;> simp [Date.monthLengths, hleap]
  cases month with
  | zero => exact Nat.zero_le _
  | succ index =>
    rw [Date.daysInMonth, List.getD_eq_getElem?_getD]
    cases hget : (Date.monthLengths year)[index]? with
    | none => exact Nat.zero_le _
    | some length => exact hall length (List.mem_of_getElem? hget)

variable (d : Date)

theorem numeral_year : Numeral 4 d.year (utf8 (zeroPadded 4 d.year)) :=
  numeral_zeroPadded (by decide) (Nat.lt_succ_of_le d.valid.2.1)

theorem numeral_month : Numeral 2 d.month (utf8 (zeroPadded 2 d.month)) := by
  obtain ⟨-, -, -, hmonth, -⟩ := d.valid
  exact numeral_zeroPadded (by decide) (by omega)

theorem numeral_day : Numeral 2 d.day (utf8 (zeroPadded 2 d.day)) := by
  obtain ⟨-, -, -, -, -, hday⟩ := d.valid
  have hle := daysInMonth_le d.year d.month
  exact numeral_zeroPadded (by decide) (by omega)

theorem utf8_dateText : utf8 d.text = utf8 (zeroPadded 4 d.year) ++ 45 ::
    (utf8 (zeroPadded 2 d.month) ++ 45 :: utf8 (zeroPadded 2 d.day)) := by
  have hhyphen : utf8 "-" = [45] := by decide +kernel
  simp [Date.text, utf8_append, hhyphen]

theorem length_dateText : (utf8 d.text).length = 10 := by
  simp [utf8_dateText, (numeral_year d).length, (numeral_month d).length, (numeral_day d).length]

theorem day?_text : day? (utf8 d.text) = some d := by
  have hmonth := byteAt_numeral_ne (numeral_month d) (by decide) [] (45 :: utf8 (zeroPadded 2 d.day))
    (i := 0) rfl (c := 'W') (by decide)
  have hday := (numeral_day d).digits []
  rw [List.append_nil] at hday
  rw [utf8_dateText, day?, (numeral_year d).digits]
  have hhyphens : (byteAt (45 :: (utf8 (zeroPadded 2 d.month) ++ 45 :: utf8 (zeroPadded 2 d.day))) 0 == '-') =
      true := by simp [byteAt]
  simp only [Option.bind_eq_bind, Option.bind_some, hhyphens, if_true, List.drop_succ_cons, List.drop_zero]
  rw [List.nil_append] at hmonth
  rw [if_neg hmonth, (numeral_month d).digits]
  simp only [hyphen?, Option.bind_some, if_true, hday]
  exact Date.of?_eq_some_iff.2 ⟨rfl, rfl, rfl⟩

/-- The day of a text ends after ten characters, whatever comes after it. -/
theorem dayLength_text (rest : List UInt8) : dayLength (utf8 d.text ++ rest) = 10 := by
  have hlength : (utf8 d.text ++ rest).length ≠ 7 := by
    rw [List.length_append, length_dateText]
    omega
  have hyear := (numeral_year d).length
  have hhyphen : byteAt (utf8 d.text ++ rest) 4 = '-' := by
    rw [utf8_dateText, List.append_assoc]
    exact byteAt_append_length hyear _ _
  have hmonth : byteAt (utf8 d.text ++ rest) 5 ≠ 'W' := by
    have h := byteAt_numeral_ne (numeral_month d) (by decide) (utf8 (zeroPadded 4 d.year) ++ [45])
      (45 :: utf8 (zeroPadded 2 d.day) ++ rest) (i := 5) (by simp [hyear]) (c := 'W') (by decide)
    simpa [utf8_dateText] using h
  simp only [dayLength, hlength, hhyphen, hmonth, if_true, if_false]

/-! ### Times of day -/

section Parts

variable {n f : Nat} {bytes rest fraction : List UInt8} (following : Char) (left : Nat)

/-- Six digits behind the point are microseconds as they stand. -/
theorem fraction?_six (h : Numeral 6 f fraction) :
    fraction? following fraction = some (f, following == '\x00') := by
  have hdigits := h.digits []
  rw [List.append_nil] at hdigits
  simp [fraction?, h.length, hdigits]

/-- A number before a colon is one part, and the others follow. -/
theorem parts?_colon (h : Numeral 2 n bytes) (hrest : rest ≠ []) :
    parts? true following (bytes ++ 58 :: rest) (left + 1) =
      (parts? true following rest left).map fun found => (n :: found.1, found.2) := by
  obtain ⟨first, others, rfl⟩ := List.exists_cons_of_ne_nil hrest
  rw [parts?, h.digits]
  simp only [Option.bind_eq_bind, Option.bind_some, Bool.true_and, beq_self_eq_true, if_true]
  cases parts? true following (first :: others) left <;> rfl

/-- A number at the end is the last part. -/
theorem parts?_last (h : Numeral 2 n bytes) :
    parts? true following bytes (left + 1) = some ([n], 0, following == '\x00') := by
  have hdigits := h.digits []
  rw [List.append_nil] at hdigits
  rw [parts?, hdigits]
  rfl

/-- A last part may go on with a point and its fraction. -/
theorem parts?_fraction (h : Numeral 2 n bytes) (hfraction : Numeral 6 f fraction) :
    parts? true following (bytes ++ 46 :: fraction) (left + 1) =
      some ([n], f, following == '\x00') := by
  have hsix := fraction?_six following hfraction
  obtain ⟨first, others, rfl⟩ := List.exists_cons_of_length_eq_add_one hfraction.length
  rw [parts?, h.digits]
  simp [hsix]

end Parts

variable (t : TimeOfDay)

theorem numeral_hour : Numeral 2 t.hour (utf8 (zeroPadded 2 t.hour)) := by
  have h := t.bounded
  exact numeral_zeroPadded (by decide) (by rw [TimeOfDay.hour]; omega)

theorem numeral_minute : Numeral 2 t.minute (utf8 (zeroPadded 2 t.minute)) :=
  numeral_zeroPadded (by decide) (by rw [TimeOfDay.minute]; omega)

theorem numeral_second : Numeral 2 t.second (utf8 (zeroPadded 2 t.second)) :=
  numeral_zeroPadded (by decide) (by rw [TimeOfDay.second]; omega)

theorem numeral_subsecond : Numeral 6 t.subsecond (utf8 (zeroPadded 6 t.subsecond)) :=
  numeral_zeroPadded (by decide) (by rw [TimeOfDay.subsecond]; omega)

/-- The bytes of hours, minutes and something after them. -/
def clockBytes (rest : List UInt8) : List UInt8 :=
  utf8 (zeroPadded 2 t.hour) ++ 58 :: (utf8 (zeroPadded 2 t.minute) ++ rest)

/-- The bytes of a fraction of a second, if there is one. -/
def fractionBytes : List UInt8 :=
  if t.subsecond = 0 then [] else 46 :: utf8 (zeroPadded 6 t.subsecond)

theorem utf8_timeText :
    utf8 t.text = clockBytes t (58 :: (utf8 (zeroPadded 2 t.second) ++ fractionBytes t)) := by
  have hcolon : utf8 ":" = [58] := by decide +kernel
  have hpoint : utf8 "." = [46] := by decide +kernel
  rw [TimeOfDay.text, fractionBytes, clockBytes]
  split <;> simp [utf8_append, hcolon, hpoint]

/-- The reading of a time of day. -/
def readingOf (complete : Bool) : Reading := ⟨t.hour, t.minute, t.second, t.subsecond, complete⟩

/-- Hours, and then the remaining parts as they are read, make one reading of a clock. -/
theorem reading?_clock {following : Char} {rest : List UInt8} {values : List Nat} {micros : Nat}
    {complete : Bool} (h : parts? true following (utf8 (zeroPadded 2 t.minute) ++ rest) 2 =
      some (values, micros, complete)) :
    reading? following (clockBytes t rest) =
      some ⟨t.hour, values.getD 0 0, values.getD 1 0, micros, complete⟩ := by
  have hcolon : (byteAt (clockBytes t rest) 2 == ':') = true := by
    rw [clockBytes, byteAt_append_length (numeral_hour t).length]
    rfl
  have hne : utf8 (zeroPadded 2 t.minute) ++ rest ≠ [] := by
    intro hnil
    have hlength := (numeral_minute t).length
    rw [(List.append_eq_nil_iff.1 hnil).1] at hlength
    cases hlength
  rw [reading?, hcolon, clockBytes, parts?_colon following 2 (numeral_hour t) hne, h]
  rfl

theorem reading?_text (following : Char) :
    reading? following (utf8 t.text) = some (readingOf t (following == '\x00')) := by
  rw [utf8_timeText]
  -- The parts are read from the innermost outwards: seconds with their fraction, minutes, and hours last.
  have hseconds : parts? true following (utf8 (zeroPadded 2 t.second) ++ fractionBytes t) 1 =
      some ([t.second], t.subsecond, following == '\x00') := by
    rw [fractionBytes]
    split
    · next hzero =>
      rw [List.append_nil, parts?_last following 0 (numeral_second t), hzero]
    · exact parts?_fraction following 0 (numeral_second t) (numeral_subsecond t)
  have hne : utf8 (zeroPadded 2 t.second) ++ fractionBytes t ≠ [] := by
    intro hnil
    rw [hnil] at hseconds
    cases hseconds
  have hparts : parts? true following (utf8 (zeroPadded 2 t.minute) ++
      58 :: (utf8 (zeroPadded 2 t.second) ++ fractionBytes t)) 2 =
        some ([t.minute, t.second], t.subsecond, following == '\x00') := by
    rw [parts?_colon following 1 (numeral_minute t) hne, hseconds]
    rfl
  exact reading?_clock t hparts

/-- A time without seconds reads as the time itself if it has none. -/
theorem reading?_minutes (following : Char) (hsecond : t.second = 0) (hsubsecond : t.subsecond = 0) :
    reading? following (clockBytes t []) = some (readingOf t (following == '\x00')) := by
  rw [readingOf, hsecond, hsubsecond]
  have hparts := parts?_last following 1 (numeral_minute t)
  rw [← List.append_nil (utf8 (zeroPadded 2 t.minute))] at hparts
  exact reading?_clock t hparts

theorem of?_readingOf : TimeOfDay.of? t.hour t.minute t.second t.subsecond = some t := by
  have h := t.bounded
  have hvalid : t.hour < 24 ∧ t.minute < 60 ∧ t.second < 60 ∧ t.subsecond < 1000000 := by
    simp only [TimeOfDay.hour, TimeOfDay.minute, TimeOfDay.second, TimeOfDay.subsecond]
    omega
  rw [TimeOfDay.of?, dif_pos hvalid]
  congr 1
  obtain ⟨micros, hmicros⟩ := t
  congr 1
  simp only [TimeOfDay.hour, TimeOfDay.minute, TimeOfDay.second, TimeOfDay.subsecond]
  omega

/-! ### Offsets -/

/-- An offset without its sign, as a time of day. -/
def magnitude (offset : Offset) : TimeOfDay where
  micros := offset.micros.natAbs
  bounded := by
    have h := offset.bounded
    simp only [Duration.day, Duration.second] at h
    omega

/-- The sign that an offset's text begins with. -/
def signByte (offset : Offset) : UInt8 := if offset.micros < 0 then 45 else 43

/-- An offset writes its magnitude like a time of day, but leaves out seconds if it has none. -/
theorem utf8_offsetText (offset : Offset) : utf8 offset.text = signByte offset ::
    (if (magnitude offset).second = 0 ∧ (magnitude offset).subsecond = 0 then
      clockBytes (magnitude offset) [] else utf8 (magnitude offset).text) := by
  have hminus : utf8 "-" = [45] := by decide +kernel
  have hplus : utf8 "+" = [43] := by decide +kernel
  have hcolon : utf8 ":" = [58] := by decide +kernel
  have hpoint : utf8 "." = [46] := by decide +kernel
  have hempty : utf8 "" = [] := by decide +kernel
  have hsign : utf8 (if offset.micros < 0 then "-" else "+") = [signByte offset] := by
    rw [signByte]
    split
    · exact hminus
    · exact hplus
  -- The text divides seconds where a time of day divides microseconds; both come to the same parts.
  have hhour : (magnitude offset).hour = offset.micros.natAbs / 1000000 / 3600 := by
    simp only [TimeOfDay.hour, magnitude]
    omega
  have hminute : (magnitude offset).minute = offset.micros.natAbs / 1000000 / 60 % 60 := by
    simp only [TimeOfDay.minute, magnitude]
    omega
  have hsecond : (magnitude offset).second = offset.micros.natAbs / 1000000 % 60 := rfl
  have hsubsecond : (magnitude offset).subsecond = offset.micros.natAbs % 1000000 := rfl
  rw [utf8_timeText]
  simp only [Offset.text, utf8_append, hsign, ← hhour, ← hminute, ← hsecond, ← hsubsecond, clockBytes,
    fractionBytes]
  by_cases hzero : (magnitude offset).subsecond = 0
  · by_cases hshort : (magnitude offset).second = 0
    · simp [hzero, hshort, hcolon, hempty]
    · simp [hzero, hshort, hcolon, hempty, utf8_append]
  · simp [hzero, hcolon, hpoint, utf8_append]

/-- What stands behind the sign is read as the size of the offset, with or without seconds. -/
theorem reading?_offset (offset : Offset) :
    reading? '\x00' (if (magnitude offset).second = 0 ∧ (magnitude offset).subsecond = 0 then
      clockBytes (magnitude offset) [] else utf8 (magnitude offset).text) =
      some (readingOf (magnitude offset) true) := by
  split
  · next hshort => exact reading?_minutes _ '\x00' hshort.1 hshort.2
  · exact reading?_text _ '\x00'

theorem startsOffset_signByte (offset : Offset) : startsOffset (signByte offset) = true := by
  rw [signByte]
  split <;> rfl

/-- What a reader of offsets makes of the numbers of a time; it drops the fraction of less than a second. -/
theorem micros_of_parts {hour minute second subsecond micros : Nat}
    (hseconds : hour * 3600 + minute * 60 + second = micros / 1000000)
    (hrest : subsecond = micros % 1000000) :
    (if ((hour : Int) * 3600 + minute * 60 + second) = 0 then 0
      else ((hour : Int) * 3600 + minute * 60 + second) * 1000000 + subsecond) =
      if micros < 1000000 then (0 : Int) else micros := by
  split <;> split <;> omega

theorem seconds_eq (t : TimeOfDay) :
    t.hour * 3600 + t.minute * 60 + t.second = t.micros / 1000000 := by
  unfold TimeOfDay.hour TimeOfDay.minute TimeOfDay.second
  omega

/-- With its sign, a magnitude is the offset that it was taken from, unless it is below a second. -/
theorem ofMicros?_magnitude (offset : Offset) :
    Offset.ofMicros? (if (signByte offset == 45) = true then
      -(if (magnitude offset).micros < 1000000 then (0 : Int) else (magnitude offset).micros)
      else if (magnitude offset).micros < 1000000 then (0 : Int) else (magnitude offset).micros) =
      some offset.settled := by
  have hself (other : Offset) : Offset.ofMicros? other.micros = some other := by
    rw [Offset.ofMicros?, dif_pos other.bounded]
  have hmagnitude : (magnitude offset).micros = offset.micros.natAbs := rfl
  rw [← hself, hmagnitude, Offset.settled, signByte]
  congr 1
  -- Less than a second is read as nothing, and otherwise the sign goes back to the size.
  by_cases hsmall : offset.micros.natAbs < 1000000
  · simp [hsmall, Offset.utc]
  · simp only [if_neg hsmall]
    by_cases hnegative : offset.micros < 0
    · rw [if_pos hnegative, if_pos (by decide)]
      omega
    · rw [if_neg hnegative, if_neg (by decide)]
      omega

/-- The text of an offset is read as the offset, but one of less than a second as none at all. -/
theorem offset?_text (offset : Offset) : offset? (utf8 offset.text) = some offset.settled := by
  have hne : signByte offset ≠ 90 := by
    rw [signByte]
    split <;> decide
  have hmicros := micros_of_parts (seconds_eq (magnitude offset)) rfl
  rw [utf8_offsetText, offset?]
  · rw [reading?_offset]
    have hsigned := congrArg (fun micros : Int =>
      Offset.ofMicros? (if (signByte offset == 45) = true then -micros else micros)) hmicros
    exact hsigned.trans (ofMicros?_magnitude offset)
  · exact hne

/-! ### Moments -/

/-- The bytes of an offset, if there is one. -/
def offsetBytes : Option Offset → List UInt8
  | some offset => utf8 offset.text
  | none => []

/-- No part of a time of day is the sign of an offset. -/
theorem startsOffset_timeText : ∀ b ∈ utf8 t.text, startsOffset b = false := by
  -- A time has digits, colons and a point, none of which can be taken for the sign of an offset.
  have hdigit {width n : Nat} {bytes : List UInt8} (h : Numeral width n bytes) :
      ∀ b ∈ bytes, startsOffset b = false := by
    intro b hb
    have hrange := h.range b hb
    simp only [UInt8.le_iff_toNat_le] at hrange
    simp only [startsOffset, Bool.or_eq_false_iff, beq_eq_false_iff_ne]
    refine ⟨⟨?_, ?_⟩, ?_⟩
    all_goals
      rintro rfl
      exact absurd hrange (by decide)
  have hfraction : ∀ b ∈ fractionBytes t, startsOffset b = false := by
    intro b hb
    rw [fractionBytes] at hb
    split at hb
    · cases hb
    · rcases List.mem_cons.1 hb with rfl | hb
      · rfl
      · exact hdigit (numeral_subsecond t) b hb
  intro b hb
  rw [utf8_timeText, clockBytes] at hb
  simp only [List.mem_append, List.mem_cons] at hb
  rcases hb with hb | rfl | hb | rfl | hb | hb
  · exact hdigit (numeral_hour t) b hb
  · rfl
  · exact hdigit (numeral_minute t) b hb
  · rfl
  · exact hdigit (numeral_second t) b hb
  · exact hfraction b hb

/-- A time and an offset behind it are read apart, at the sign. -/
theorem time?_text (offset : Option Offset) :
    time? (utf8 t.text ++ offsetBytes offset) = some (t, offset.map Offset.settled) := by
  have hclock := startsOffset_timeText t
  -- The time ends at the sign of the offset, or where the text does.
  have hend : ∀ b ∈ (offsetBytes offset).head?, startsOffset b = true := by
    cases offset with
    | none => simp [offsetBytes]
    | some offset =>
      rw [offsetBytes, utf8_offsetText]
      simpa using startsOffset_signByte offset
  have htake : (utf8 t.text ++ offsetBytes offset).takeWhile (!startsOffset ·) = utf8 t.text := by
    rw [List.takeWhile_append_of_pos fun b hb => by simp [hclock b hb]]
    cases hbytes : offsetBytes offset with
    | nil => simp
    | cons b rest =>
      have hstart := hend b (by simp [hbytes])
      simp [hstart]
  have hdrop : (utf8 t.text ++ offsetBytes offset).dropWhile (!startsOffset ·) = offsetBytes offset := by
    rw [List.dropWhile_append_of_pos fun b hb => by simp [hclock b hb]]
    cases hbytes : offsetBytes offset with
    | nil => simp
    | cons b rest =>
      have hstart := hend b (by simp [hbytes])
      simp [hstart]
  rw [time?, htake, hdrop, reading?_text]
  simp only [Option.bind_eq_bind, Option.bind_some, readingOf, of?_readingOf]
  cases offset with
  | none => rfl
  | some offset =>
    have hne : (utf8 offset.text).isEmpty = false := by
      rw [utf8_offsetText]
      rfl
    simp only [offsetBytes, hne, offset?_text, Option.map_some]
    rfl

end Moment.Iso

open Moment.Iso

theorem TimeOfDay.zero_bounded : 0 < 86400000000 := by decide

/-- The text of a day reads as its midnight. -/
theorem Moment.ofIsoText?_date (d : Date) :
    ofIsoText? d.text = some ⟨d, ⟨0, by decide⟩, none⟩ := by
  have hdayLength := dayLength_text d []
  rw [List.append_nil] at hdayLength
  show ofBytes? (utf8 d.text) = _
  rw [ofBytes?, if_neg (by rw [length_dateText]; decide)]
  simp only [hdayLength, ← length_dateText d, List.take_length, List.drop_length, day?_text,
    Option.bind_eq_bind, Option.bind_some]

/-- The text of a moment reads as that moment, but for an offset of less than a second. -/
theorem Moment.ofIsoText?_isoText (m : Moment) : ofIsoText? m.isoText = some m.settled := by
  have hT : utf8 "T" = [84] := by decide +kernel
  have htext : utf8 m.isoText = utf8 m.date.text ++ 84 :: (utf8 m.time.text ++ offsetBytes m.offset) := by
    rw [isoText, textWith]
    cases m.offset with
    | none => simp [utf8_append, hT, offsetBytes]
    | some offset => simp [utf8_append, hT, offsetBytes]
  show ofBytes? (utf8 m.isoText) = _
  have hlength := length_dateText m.date
  rw [htext, ofBytes?, if_neg (by rw [List.length_append, hlength]; omega)]
  have hsplit : (84 :: (utf8 m.time.text ++ offsetBytes m.offset)).drop (separatorLength 84) =
      utf8 m.time.text ++ offsetBytes m.offset := rfl
  simp only [dayLength_text, List.take_left' hlength, List.drop_left' hlength, day?_text, hsplit, time?_text,
    Option.bind_eq_bind, Option.bind_some]
  rfl

/-! ### Settled moments -/

/-- An offset is settled unless it is a part of a second. -/
theorem Offset.settled_eq_self {offset : Offset}
    (h : offset.micros.natAbs < 1000000 → offset.micros = 0) : offset.settled = offset := by
  rw [settled]
  split
  · next hsmall =>
    have hzero := h hsmall
    obtain ⟨micros, hbounded⟩ := offset
    cases hzero
    rfl
  · rfl

theorem Offset.settled_of_seconds {offset : Offset} (h : offset.micros % 1000000 = 0) :
    offset.settled = offset :=
  settled_eq_self fun hsmall => by omega

theorem Moment.settled_eq_self {m : Moment} (h : ∀ offset ∈ m.offset, offset.settled = offset) :
    m.settled = m := by
  obtain ⟨date, time, offset⟩ := m
  cases offset with
  | none => rfl
  | some offset => simp [settled, h offset rfl]

theorem Moment.settled_of_seconds {m : Moment}
    (h : ∀ offset ∈ m.offset, offset.micros % 1000000 = 0) : m.settled = m :=
  settled_eq_self fun offset hoffset => Offset.settled_of_seconds (h offset hoffset)

theorem Offset.micros_of_ofMicros? {micros : Int} {offset : Offset}
    (h : ofMicros? micros = some offset) : offset.micros = micros := by
  rw [ofMicros?] at h
  split at h
  · cases h
    rfl
  · cases h

theorem Moment.Iso.settled_of_offset? {bytes : List UInt8} {offset : Offset}
    (h : offset? bytes = some offset) : offset.settled = offset := by
  rw [offset?.eq_def] at h
  split at h
  · split at h
    · cases h
      rfl
    · cases h
  · obtain ⟨reading, -, h⟩ := Option.bind_eq_some_iff.1 h
    dsimp only at h
    split at h
    · -- The reader takes no offset for one below a second, and signs do not matter.
      have hmicros := Offset.micros_of_ofMicros? h
      refine Offset.settled_eq_self fun hsmall => ?_
      rw [hmicros] at hsmall ⊢
      split at hsmall <;> split <;> omega
    · cases h
  · cases h

theorem Moment.Iso.settled_of_time? {bytes : List UInt8} {time : TimeOfDay} {zone : Option Offset}
    (h : time? bytes = some (time, zone)) : ∀ offset ∈ zone, offset.settled = offset := by
  rw [time?] at h
  obtain ⟨reading, -, h⟩ := Option.bind_eq_some_iff.1 h
  obtain ⟨read, -, h⟩ := Option.bind_eq_some_iff.1 h
  split at h
  · split at h
    · cases h
      rintro offset ⟨⟩
    · cases h
  · obtain ⟨offset, hoffset, heq⟩ := Option.map_eq_some_iff.1 h
    cases heq
    rintro _ ⟨⟩
    exact settled_of_offset? hoffset

/-- The moment that a text stands for is settled: its own text is read as the same moment. -/
theorem Moment.settled_of_ofIsoText? {s : String} {m : Moment} (h : ofIsoText? s = some m) :
    m.settled = m := by
  rw [ofIsoText?, ofBytes?] at h
  split at h
  · cases h
  · obtain ⟨date, -, h⟩ := Option.bind_eq_some_iff.1 h
    split at h
    · cases h
      rfl
    · obtain ⟨⟨time, offset⟩, htime, h⟩ := Option.bind_eq_some_iff.1 h
      cases h
      exact settled_eq_self (settled_of_time? htime)

end ClusterLease
