/-!
Bytes as text: UTF-8, UTF-16 and UTF-32, strictly or with a replacement for what cannot be read.

`Utf8.decode` is strict. `Utf8.decodeLossy` puts the replacement character for every longest run of bytes
that begins a character and does not finish it. The readers of JSON bodies accept lone surrogates, which no
text of this library can hold; they too read as the replacement character. Where that makes a difference, a text
is a list of code points, and `Utf8.encode?` says whether it has an encoding.
-/

namespace ClusterLease.Text

/-- The character that stands for what cannot be read. -/
def replacement : Char := Char.ofNat 0xFFFD

/-- A code point of a text from elsewhere: a character, or a surrogate without its other half. -/
inductive CodePoint where
  | char (c : Char)
  | surrogate (code : Nat)
  deriving DecidableEq, Repr

namespace CodePoint

def ofCode (n : Nat) : CodePoint := if 0xD800 ≤ n && n ≤ 0xDFFF then surrogate n else char (Char.ofNat n)

def char? : CodePoint → Option Char
  | char c => some c
  | surrogate _ => none

/-- The character that stands for a code point here. -/
def shown : CodePoint → Char
  | char c => c
  | surrogate _ => replacement

end CodePoint

/-- The character of a code point; the replacement for a surrogate. -/
def charOfCode (n : Nat) : Char := (CodePoint.ofCode n).shown

def codePoints (s : String) : List CodePoint := s.toList.map .char

/-- A text from elsewhere as it is shown here. -/
def shown (points : List CodePoint) : String := String.ofList (points.map CodePoint.shown)

namespace Utf8

/-- Between characters, or inside one: bytes still owed, bounds on the next one, and the bits so far. -/
inductive State where
  | between
  | inside (owed : Nat) (low high : UInt8) (bits : Nat)

/-- What one byte does: it ends a character, continues one, or cannot stand here. -/
inductive Step where
  | char (code : Nat)
  | more (next : State)
  | refused

def first (surrogates : Bool) (b : UInt8) : Step :=
  if b ≤ 0x7F then .char b.toNat
  else if 0xC2 ≤ b && b ≤ 0xDF then .more (.inside 1 0x80 0xBF (b.toNat % 32))
  else if b == 0xE0 then .more (.inside 2 0xA0 0xBF 0)
  else if b == 0xED then .more (.inside 2 0x80 (if surrogates then 0xBF else 0x9F) 0xD)
  else if 0xE1 ≤ b && b ≤ 0xEF then .more (.inside 2 0x80 0xBF (b.toNat % 16))
  else if b == 0xF0 then .more (.inside 3 0x90 0xBF 0)
  else if 0xF1 ≤ b && b ≤ 0xF3 then .more (.inside 3 0x80 0xBF (b.toNat % 8))
  else if b == 0xF4 then .more (.inside 3 0x80 0x8F 4)
  else .refused

/-- One byte from any state. -/
def step (surrogates : Bool) : State → UInt8 → Step
  | .between, b => first surrogates b
  | .inside owed low high bits, b =>
    if low ≤ b && b ≤ high then
      let bits := bits * 64 + b.toNat % 64
      if owed ≤ 1 then .char bits else .more (.inside (owed - 1) 0x80 0xBF bits)
    else .refused

/-- The characters of a byte sequence; none at the first byte that cannot stand where it does. -/
def decodeFrom (surrogates : Bool) : State → List UInt8 → Option (List Char)
  | .between, [] => some []
  | .inside .., [] => none
  | state, b :: rest =>
    match step surrogates state b with
    | .char code => (decodeFrom surrogates .between rest).map (charOfCode code :: ·)
    | .more next => decodeFrom surrogates next rest
    | .refused => none

def decode (bytes : List UInt8) : Option (List Char) := decodeFrom false .between bytes

/-- UTF-8 in which surrogates may be encoded; each reads as the replacement character. -/
def decodeWithSurrogates (bytes : List UInt8) : Option (List Char) := decodeFrom true .between bytes

/-- The UTF-8 of a text from elsewhere. No text with a lone surrogate has one. -/
def encode? (points : List CodePoint) : Option (List UInt8) :=
  (points.mapM CodePoint.char?).map fun cs => (String.ofList cs).toUTF8.toList

/-- UTF-8 with the replacement character for each unfinished or impossible run. -/
def decodeLossyFrom : State → List UInt8 → List Char
  | .between, [] => []
  | .inside .., [] => [replacement]
  | .between, b :: rest =>
    match step false .between b with
    | .char code => charOfCode code :: decodeLossyFrom .between rest
    | .more next => decodeLossyFrom next rest
    | .refused => replacement :: decodeLossyFrom .between rest
  | .inside owed low high bits, b :: rest =>
    match step false (.inside owed low high bits) b with
    | .char code => charOfCode code :: decodeLossyFrom .between rest
    | .more next => decodeLossyFrom next rest
    | .refused =>
      match step false .between b with
      | .char code => replacement :: charOfCode code :: decodeLossyFrom .between rest
      | .more next => replacement :: decodeLossyFrom next rest
      | .refused => replacement :: replacement :: decodeLossyFrom .between rest

def decodeLossy (bytes : List UInt8) : List Char := decodeLossyFrom .between bytes

end Utf8

/-- The order of the bytes of a unit. -/
inductive Endian where
  | big
  | little

/-- A number from its bytes in either order. -/
def Endian.number (order : Endian) (bytes : List UInt8) : Nat :=
  let bigFirst := match order with
    | .big => bytes
    | .little => bytes.reverse
  bigFirst.foldl (fun n b => n * 256 + b.toNat) 0

/-- The 16-bit units of a byte sequence; none for an odd byte at the end. -/
def units16 (order : Endian) : List UInt8 → Option (List Nat)
  | [] => some []
  | a :: b :: rest => (units16 order rest).map (order.number [a, b] :: ·)
  | [_] => none

/-- The 32-bit units of a byte sequence; none for an incomplete unit at the end. -/
def units32 (order : Endian) : List UInt8 → Option (List Nat)
  | [] => some []
  | a :: b :: c :: d :: rest => (units32 order rest).map (order.number [a, b, c, d] :: ·)
  | _ => none

/-- Code points from 16-bit units: a high and a low surrogate make a character. -/
def joinUnits : List Nat → List CodePoint
  | [] => []
  | high :: low :: rest =>
    if 0xD800 ≤ high && high ≤ 0xDBFF && 0xDC00 ≤ low && low ≤ 0xDFFF then
      .char (Char.ofNat (0x10000 + (high - 0xD800) * 0x400 + (low - 0xDC00))) :: joinUnits rest
    else .ofCode high :: joinUnits (low :: rest)
  | [unit] => [.ofCode unit]

/-- Characters from 16-bit units; a lone surrogate is replaced. -/
def joinSurrogates (units : List Nat) : List Char := (joinUnits units).map CodePoint.shown

/-- UTF-16; none for an odd number of bytes. -/
def decodeUtf16 (order : Endian) (bytes : List UInt8) : Option (List Char) :=
  (units16 order bytes).map joinSurrogates

/-- UTF-32; none for an incomplete unit or a number beyond the last code point. -/
def decodeUtf32 (order : Endian) (bytes : List UInt8) : Option (List Char) := do
  let units ← units32 order bytes
  if units.all (· ≤ 0x10FFFF) then some (units.map charOfCode) else none

/-- Line ends of all three kinds become a line feed. -/
def unifyLineEnds : List Char → List Char
  | '\r' :: '\n' :: rest => '\n' :: unifyLineEnds rest
  | '\r' :: rest => '\n' :: unifyLineEnds rest
  | c :: rest => c :: unifyLineEnds rest
  | [] => []

end ClusterLease.Text
