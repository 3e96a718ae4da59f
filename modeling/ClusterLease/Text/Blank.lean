/-!
Blank characters, and trimming them from the ends of a text.

`isBlank` is the wide class: the Unicode spaces and line separators and the ASCII separators 0x1C to 0x1F.
`isNumeralBlank` is the class allowed around a numeral, which leaves those four out.
-/

namespace ClusterLease.Text

/-- A space, tab or line break of any script, or one of the ASCII information separators. -/
def isBlank (c : Char) : Bool :=
  let n := c.toNat
  (9 ≤ n && n ≤ 13) || (28 ≤ n && n ≤ 32) || n == 0x85 || n == 0xA0 || n == 0x1680 ||
    (0x2000 ≤ n && n ≤ 0x200A) || n == 0x2028 || n == 0x2029 || n == 0x202F || n == 0x205F || n == 0x3000

/-- A blank that may surround a numeral: any but the information separators. -/
def isNumeralBlank (c : Char) : Bool := isBlank c && !(28 ≤ c.toNat && c.toNat ≤ 31)

/-- The characters left after dropping those of a class from the end. -/
def trimRight (p : Char → Bool) (cs : List Char) : List Char := (cs.reverse.dropWhile p).reverse

/-- The characters left after dropping those of a class from both ends. -/
def trim (p : Char → Bool) (cs : List Char) : List Char := trimRight p (cs.dropWhile p)

/-- A text without the blanks at its ends. -/
def strip (s : String) : String := String.ofList (trim isBlank s.toList)

/-- Whether nothing but blanks is in a text. -/
def isAllBlank (s : String) : Bool := s.toList.all isBlank

@[simp] theorem trimRight_nil (p : Char → Bool) : trimRight p [] = [] := rfl

@[simp] theorem trim_nil (p : Char → Bool) : trim p [] = [] := rfl

/-- Nothing of the class is left at the end. -/
theorem trimRight_getLast? {p : Char → Bool} {cs : List Char} {c : Char}
    (h : (trimRight p cs).getLast? = some c) : p c = false := by
  have h' : (cs.reverse.dropWhile p).head? = some c := by
    simpa [trimRight, List.getLast?_reverse] using h
  have := List.head?_dropWhile_not p cs.reverse
  rw [h'] at this
  simpa using this

end ClusterLease.Text
