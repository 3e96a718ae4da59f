import ClusterLease.Text.Blank

/-!
Texts folded to the characters of host names.

Every run of characters outside a class becomes one hyphen, and hyphens at the ends are dropped.
-/

namespace ClusterLease.Text

/-- A small ASCII letter or an ASCII digit. -/
def isAlphanumeric (c : Char) : Bool := ('a' ≤ c && c ≤ 'z') || ('0' ≤ c && c ≤ '9')

/-- A character that may stand inside a label of a host name. -/
def isLabelChar (c : Char) : Bool := isAlphanumeric c || c == '-'

/-- One hyphen in place of each run of characters outside a class. `inRun` says that one has just been put. -/
def hyphenateFrom (keep : Char → Bool) : (inRun : Bool) → List Char → List Char
  | _, [] => []
  | inRun, c :: rest =>
    if keep c then c :: hyphenateFrom keep false rest
    else if inRun then hyphenateFrom keep true rest
    else '-' :: hyphenateFrom keep true rest

/-- One hyphen in place of each run of characters outside a class, and none at the ends. -/
def hyphenate (keep : Char → Bool) (cs : List Char) : List Char := trim (· == '-') (hyphenateFrom keep false cs)

example : hyphenate isLabelChar "_a__b-".toList = "a-b".toList := by decide +kernel

end ClusterLease.Text
