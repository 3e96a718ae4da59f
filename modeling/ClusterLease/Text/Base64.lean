/-!
Bytes written as text of 64 characters, four for every three bytes.

Reading passes over characters outside the alphabet and ends at the padding; writing breaks lines after 76
characters and ends every line with a line feed.
-/

namespace ClusterLease.Text.Base64

def alphabet : List Char := "ABCDEFGHIJKLMNOPQRSTUVWXYZabcdefghijklmnopqrstuvwxyz0123456789+/".toList

def value? (c : Char) : Option Nat := alphabet.findIdx? (· == c)

/-- Bits read and not yet put out, and how many of the present four characters have come. -/
structure State where
  place : Nat
  pads : Nat
  bits : Nat

/--
The bytes from a state on; none if the text stops inside a byte. Padding is complete when it makes up four
characters together with those that came.
-/
def decodeFrom (s : State) : List Char → Option (List UInt8)
  | [] => if s.place = 0 then some [] else none
  | c :: rest =>
    if c = '=' then
      if 2 ≤ s.place then
        if 4 ≤ s.place + s.pads + 1 then some [] else decodeFrom { s with pads := s.pads + 1 } rest
      else decodeFrom s rest
    else match value? c with
      | none => decodeFrom s rest
      | some v =>
        match s.place with
        | 0 => decodeFrom ⟨1, 0, v⟩ rest
        | 1 => (decodeFrom ⟨2, 0, v % 16⟩ rest).map (UInt8.ofNat (s.bits * 4 + v / 16) :: ·)
        | 2 => (decodeFrom ⟨3, 0, v % 4⟩ rest).map (UInt8.ofNat (s.bits * 16 + v / 4) :: ·)
        | _ => (decodeFrom ⟨0, 0, 0⟩ rest).map (UInt8.ofNat (s.bits * 64 + v) :: ·)

def decode (cs : List Char) : Option (List UInt8) := decodeFrom ⟨0, 0, 0⟩ cs

def char (v : Nat) : Char := alphabet.getD v '='

/-- Four characters for every three bytes, with padding at the end. -/
def quads : List UInt8 → List Char
  | a :: b :: c :: rest =>
    let n := (a.toNat * 256 + b.toNat) * 256 + c.toNat
    char (n / 262144) :: char (n / 4096 % 64) :: char (n / 64 % 64) :: char (n % 64) :: quads rest
  | [a, b] =>
    let n := (a.toNat * 256 + b.toNat) * 4
    [char (n / 4096), char (n / 64 % 64), char (n % 64), '=']
  | [a] =>
    let n := a.toNat * 16
    [char (n / 64), char (n % 64), '=', '=']
  | [] => []

/-- The text of bytes in lines of 76 characters. -/
def lines : (count : Nat) → List UInt8 → List Char
  | 0, _ => []
  | count + 1, bytes => quads (bytes.take 57) ++ '\n' :: lines count (bytes.drop 57)

def encode (bytes : List UInt8) : List Char := lines ((bytes.length + 56) / 57) bytes

end ClusterLease.Text.Base64
