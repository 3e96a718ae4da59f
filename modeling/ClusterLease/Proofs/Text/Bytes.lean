import Mathlib.Algebra.Group.Nat.Defs
import ClusterLease.Text.Padded

/-!
The bytes of texts.

`utf8` puts texts side by side as their bytes are (`utf8_append`), and gives an ASCII character one byte. A
number of a fixed width is written in as many digits (`utf8_zeroPadded`), of which each is the byte of a
digit.
-/

namespace ClusterLease.Text

/-- The bytes of a text. -/
def utf8 (s : String) : List UInt8 := s.toUTF8.toList

/-! ### Byte arrays as lists -/

/-- The loop that lists bytes takes them from its index on, behind those that it holds reversed. -/
theorem toList_loop_eq (bytes : ByteArray) (i : Nat) (before : List UInt8) :
    ByteArray.toList.loop bytes i before = before.reverse ++ bytes.data.toList.drop i := by
  fun_induction ByteArray.toList.loop bytes i before with
  | case1 i before h ih =>
    have hi : i < bytes.data.toList.length := by simpa using h
    rw [ih, List.drop_eq_getElem_cons hi]
    simp [ByteArray.get!, h]
  | case2 i before h =>
    rw [List.drop_eq_nil_of_le (by simpa using Nat.le_of_not_lt h)]
    simp

theorem utf8_eq_data (s : String) : utf8 s = s.toByteArray.data.toList := by
  rw [utf8, String.toUTF8_eq_toByteArray, ByteArray.toList, toList_loop_eq]
  simp

theorem utf8_append (a b : String) : utf8 (a ++ b) = utf8 a ++ utf8 b := by
  simp [utf8_eq_data]

/-! ### Digits -/

/-- The byte of a digit. -/
def digitByte (c : Char) : UInt8 := c.val.toUInt8

/-- Digits are encoded by one byte each. -/
theorem utf8_ofList_of_digits {cs : List Char} (h : ∀ c ∈ cs, c.isDigit) :
    utf8 (String.ofList cs) = cs.map digitByte := by
  rw [utf8_eq_data, String.toByteArray_ofList]
  induction cs with
  | nil => rfl
  | cons c rest ih =>
    have hdigit : c.isDigit = true := h c List.mem_cons_self
    -- Digits are ASCII characters, of which each is one byte.
    have hsize : c.utf8Size = 1 := by
      rw [Char.utf8Size_eq_one_iff]
      simp only [Char.isDigit, Bool.and_eq_true, decide_eq_true_eq] at hdigit
      exact Nat.le_trans hdigit.2 (by decide)
    rw [List.utf8Encode_cons, List.utf8Encode_singleton, String.utf8EncodeChar_eq_singleton hsize,
      ByteArray.toList_data_append, ih fun d hd => h d (List.mem_cons_of_mem _ hd)]
    rfl

/-- The digits of a number of a fixed width. -/
def paddedDigits (width n : Nat) : List Char :=
  List.replicate (width - (Nat.toDigits 10 n).length) '0' ++ Nat.toDigits 10 n

theorem isDigit_of_mem_paddedDigits {width n : Nat} : ∀ c ∈ paddedDigits width n, c.isDigit := by
  intro c hc
  rcases List.mem_append.1 hc with hc | hc
  · rw [List.eq_of_mem_replicate hc]
    rfl
  · exact Nat.isDigit_of_mem_toDigits (by decide) (by decide) hc

theorem utf8_zeroPadded (width n : Nat) :
    utf8 (zeroPadded width n) = (paddedDigits width n).map digitByte :=
  utf8_ofList_of_digits isDigit_of_mem_paddedDigits

/-- A number that fits takes the whole width and no more. -/
theorem length_paddedDigits {width n : Nat} (hwidth : 0 < width) (h : n < 10 ^ width) :
    (paddedDigits width n).length = width := by
  have hle := (Nat.length_toDigits_le_iff (b := 10) (by decide) hwidth).2 h
  simp only [paddedDigits, List.length_append, List.length_replicate]
  omega

/-- Zeros put before the digits do not change the number. -/
theorem ofDigitChars_paddedDigits (width n : Nat) :
    Nat.ofDigitChars 10 (paddedDigits width n) 0 = n := by
  rw [paddedDigits, Nat.ofDigitChars_append, Nat.ofDigitChars_replicate_zero, Nat.mul_zero,
    Nat.ofDigitChars_ten_toDigits]

end ClusterLease.Text
