import ClusterLease.Proofs.Number.Numeral
import ClusterLease.Time.Requested

/-!
Durations that cannot be read.

A request is refused for its duration, whatever value stands for it, with one exception: digits that
write no whole number are taken for one and end in a mishap (`requested_of_unreadable`,
`requested_error`).
-/

namespace ClusterLease.Duration

open Text

/-- A run of digits of which some are not decimal, or which has too many of them. -/
def NoNumber (cs : List Char) : Prop :=
  cs ≠ [] ∧ (∀ c ∈ cs, isDigit c) ∧ ((∃ c ∈ cs, ¬isDecimal c) ∨ Numeral.maxDigits < cs.length)

/-- What is left of a value's text without the blanks around it and its sign. -/
def unsigned (value : Value) : List Char := (splitSign (trim isBlank value.display.toList)).2

/-- Whether there is a minus in front of a value's text. -/
def isNegative (value : Value) : Bool := (splitSign (trim isBlank value.display.toList)).1

/-- A value that asks for a duration with digits that write no number. -/
def Unreadable : Value → Prop
  | .bool _ | .int _ | .real _ => False
  | value => NoNumber (unsigned value)

/-- Digits give no number just if there are too many. -/
theorem int?_eq_none_iff {cs : List Char} (hne : cs ≠ []) (hdigits : ∀ c ∈ cs, isDigit c) :
    Numeral.int? (String.ofList cs) = none ↔ NoNumber cs := by
  rw [← Option.not_isSome_iff_eq_none, Numeral.int?_isSome_iff hne hdigits, not_and_or, Nat.not_le]
  push Not
  exact ⟨fun h => ⟨hne, hdigits, h⟩, fun h => h.2.2⟩

/-- Checking the range can only reject. -/
theorem inRange_error {value : Value} {duration : Option Duration} {fault : Fault}
    (h : inRange value duration = .error fault) : ∃ why, fault = .rejected why := by
  cases duration with
  | some duration => cases h
  | none => exact ⟨_, (Except.error.inj h).symm⟩

variable {value : Value}

/-- The text of a value is read without its blanks and its sign. -/
theorem ofText_display (value : Value) : ofText value value.display =
    if (trim isBlank value.display.toList).isEmpty then .error (.rejected .missingDuration)
    else if !(unsigned value).isEmpty && (unsigned value).all isDigit then
      (Fault.orMishap .badValue (Numeral.int? (String.ofList (unsigned value)))).bind fun n =>
        inRange value (ofSeconds? (if isNegative value then -n else n))
    else
      let total := addParts ⟨0, .zero⟩ (findParts 0 (unsigned value))
      if total.stop = 0 ∨ total.stop ≠ (unsigned value).length then
        .error (.rejected (.invalidDuration value.shown))
      else inRange value (ofDouble? (if isNegative value then -total.seconds else total.seconds)) := rfl

/-- Nothing is left of nothing. -/
theorem trim_ne_nil_of_unsigned (h : unsigned value ≠ []) :
    (trim isBlank value.display.toList).isEmpty = false := by
  rw [List.isEmpty_eq_false_iff]
  intro hnil
  refine h ?_
  rw [unsigned, hnil]
  rfl

/-- The text is gone about as a number just if it has digits and nothing else. -/
theorem isRun_iff {cs : List Char} : (!cs.isEmpty && cs.all isDigit) = true ↔ cs ≠ [] ∧ ∀ c ∈ cs, isDigit c := by
  rw [Bool.and_eq_true, Bool.not_eq_true', List.isEmpty_eq_false_iff, List.all_eq_true]

/-- A text of digits alone is read as whole seconds, with its sign. -/
theorem ofText_of_run (hne : unsigned value ≠ []) (hdigits : ∀ c ∈ unsigned value, isDigit c) :
    ofText value value.display =
      (Fault.orMishap .badValue (Numeral.int? (String.ofList (unsigned value)))).bind fun n =>
        inRange value (ofSeconds? (if isNegative value then -n else n)) := by
  rw [ofText_display, trim_ne_nil_of_unsigned hne, if_neg Bool.false_ne_true, if_pos (isRun_iff.2 ⟨hne, hdigits⟩)]

/-- A run of digits that gives no number is a bad value, and no rejection. -/
theorem ofText_of_noNumber (h : NoNumber (unsigned value)) :
    ofText value value.display = .error (.mishap .badValue) := by
  obtain ⟨hne, hdigits, -⟩ := id h
  rw [ofText_of_run hne hdigits, (int?_eq_none_iff hne hdigits).2 h]
  rfl

/-- Every other failure to read a text is a rejection. -/
theorem ofText_error {fault : Fault} (hread : ¬NoNumber (unsigned value))
    (h : ofText value value.display = .error fault) : ∃ why, fault = .rejected why := by
  rw [ofText_display] at h
  split at h
  · exact ⟨_, (Except.error.inj h).symm⟩
  · split at h
    · next hrun =>
      obtain ⟨hne, hdigits⟩ := isRun_iff.1 hrun
      -- Only a run of digits can give no number, and then there are too many.
      cases hint : Numeral.int? (String.ofList (unsigned value)) with
      | some n =>
        rw [hint] at h
        exact inRange_error h
      | none => exact absurd ((int?_eq_none_iff hne hdigits).1 hint) hread
    · dsimp only at h
      split at h
      · exact ⟨_, (Except.error.inj h).symm⟩
      · exact inRange_error h

/-- What looks like a number but is none is not refused, and nothing foresees what comes of it. -/
theorem requested_of_unreadable (h : Unreadable value) : requested value = .error (.mishap .badValue) := by
  cases value with
  | bool _ | int _ | real _ => exact h.elim
  | _ =>
    dsimp only [requested]
    exact ofText_of_noNumber h

/-- All other durations are read or refused. -/
theorem requested_error {fault : Fault} (hread : ¬Unreadable value)
    (h : requested value = .error fault) : ∃ why, fault = .rejected why := by
  cases value with
  | bool b => exact ⟨_, (Except.error.inj h).symm⟩
  | int n => exact inRange_error h
  | real x => exact inRange_error h
  | _ =>
    dsimp only [requested] at h
    exact ofText_error hread h

end ClusterLease.Duration
