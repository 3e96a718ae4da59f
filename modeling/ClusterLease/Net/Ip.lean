import ClusterLease.Text.Digit
import ClusterLease.Text.Hex
import ClusterLease.Value

/-!
Internet addresses of both families, read from their text.

A version 4 address has four decimal numbers below 256 without leading zeros. A version 6 address has eight
groups of up to four hexadecimal digits; one run of zero groups may be left out, the last two groups may be
written as a version 4 address, and a zone may follow after a percent sign.
-/

namespace ClusterLease

/-- An internet address as a number. -/
inductive Ip where
  | v4 (address : Nat)
  | v6 (address : Nat)
  deriving DecidableEq, Repr

namespace Ip

open Text

/-- A decimal number below 256, with neither a leading zero nor more than three digits. -/
def octet? (cs : List Char) : Option Nat :=
  if cs.isEmpty || !cs.all isAsciiDigit || 3 < cs.length || (cs.head? == some '0' && cs != ['0']) then none
  else
    let n := cs.foldl (fun n c => n * 10 + (c.toNat - '0'.toNat)) 0
    if n ≤ 255 then some n else none

def v4? (cs : List Char) : Option Nat :=
  match cs.splitOn '.' with
  | [a, b, c, d] => [a, b, c, d].foldlM (fun n octet => (octet? octet).map (n * 256 + ·)) 0
  | _ => none

/-- A group of one to four hexadecimal digits. -/
def group? (cs : List Char) : Option Nat := if cs.isEmpty || 4 < cs.length then none else hexNumber? cs

/-- The number that groups write, the highest first. -/
def groups? (parts : List (List Char)) : Option (List Nat) := parts.mapM group?

/-- The groups of a version 6 address; a version 4 address at the end stands for two of them. -/
def withTail? (parts : List (List Char)) : Option (List (List Char)) :=
  match parts.getLast? with
  | some last =>
    if last.contains '.' then
      (v4? last).map fun address =>
        parts.dropLast ++ [hexPadded 4 (address / 65536), hexPadded 4 (address % 65536)]
    else some parts
  | none => none

def ofGroups (groups : List Nat) : Nat := groups.foldl (fun n group => n * 65536 + group) 0

/-- The positions, the ends apart, at which a part is empty. -/
def gaps (parts : List (List Char)) : List Nat :=
  (List.range parts.length).filter fun i => 0 < i && i + 1 < parts.length && (parts.getD i []).isEmpty

/--
A version 6 address without its zone. An empty part inside marks the left-out zeros; a part at either end
may be empty only next to them.
-/
def plainV6? (cs : List Char) : Option Nat := do
  let parts := cs.splitOn ':'
  if parts.length < 3 then none
  else
    let parts ← withTail? parts
    if 9 < parts.length then none
    else match gaps parts with
      | [] => if parts.length = 8 then (groups? parts).map ofGroups else none
      | [gap] =>
        let before := parts.take gap
        let after := parts.drop (gap + 1)
        let before := if before = [[]] then [] else before
        let after := if after = [[]] then [] else after
        let high ← groups? before
        let low ← groups? after
        let zeros := 8 - (high.length + low.length)
        if zeros = 0 then none else some (ofGroups (high ++ List.replicate zeros 0 ++ low))
      | _ => none

/-- A version 6 address, with a zone or without. -/
def v6? (cs : List Char) : Option Nat :=
  if cs.contains '/' then none
  else
    let zone := (cs.dropWhile (· != '%')).drop 1
    if cs.contains '%' && (zone.isEmpty || zone.contains '%') then none
    else plainV6? (cs.takeWhile (· != '%'))

def ofText? (s : String) : Option Ip :=
  match v4? s.toList with
  | some address => some (v4 address)
  | none => (v6? s.toList).map v6

/-- An address from a number: version 4 if it is small enough. -/
def ofInt? (n : Int) : Option Ip :=
  if n < 0 then none
  else if n < Nat.pow 2 32 then some (v4 n.toNat)
  else if n < Nat.pow 2 128 then some (v6 n.toNat)
  else none

/-- An address from a value: a text, or a number, which the truth values are too. -/
def ofValue? : Value → Option Ip
  | .text s => ofText? s
  | .int n => ofInt? n
  | .bool b => ofInt? (if b then 1 else 0)
  | _ => none

/-- Whether a version 6 address is valid on one link only: its first ten bits are 1111111010. -/
def isLinkLocal (address : Nat) : Bool := address / Nat.pow 2 118 == 0x3FA

example : ofText? "fe80::1%eth0" = some (v6 (0xFE80 * 2 ^ 112 + 1)) := by decide +kernel
example : ofText? "::ffff:10.0.0.1" = some (v6 (0xFFFF * 2 ^ 32 + 10 * 2 ^ 24 + 1)) := by decide +kernel
example : ofText? "10.0.0.01" = none := by decide +kernel

end Ip

end ClusterLease
