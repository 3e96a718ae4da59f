import ClusterLease.Text.Blank
import ClusterLease.Text.Encoding
import ClusterLease.Text.Hex

/-!
The path that the target of a request names.

A target may hold a scheme and a host before the path, and a query and a fragment after it; what is left
may hold a scheme and a host in turn. Characters of the path may be written as bytes in hexadecimal after a
percent sign; bytes that are no UTF-8 read as the replacement character.
-/

namespace ClusterLease.Http

/-- A character of the name of a scheme. -/
def isSchemeChar (c : Char) : Bool := c.isAlphanum || c == '+' || c == '-' || c == '.'

/-- What follows the scheme, if there is one. -/
def afterScheme (cs : List Char) : List Char :=
  let (scheme, rest) := (cs.takeWhile (· != ':'), cs.dropWhile (· != ':'))
  match scheme, rest with
  | first :: _, _ :: tail => if first.isAlpha && scheme.all isSchemeChar then tail else cs
  | _, _ => cs

/-- What follows the host, if there is one after two slashes. -/
def afterHost : List Char → List Char
  | '/' :: '/' :: rest => rest.dropWhile fun c => c != '/' && c != '?' && c != '#'
  | cs => cs

/--
What a target holds besides scheme, host, query and fragment. Control characters before it, and line ends and
tabs in it, do not count.
-/
def withoutHost (target : List Char) : List Char :=
  let visible := (target.dropWhile fun c => c.toNat ≤ 32).filter fun c => c != '\t' && c != '\r' && c != '\n'
  (afterHost (afterScheme visible)).takeWhile fun c => c != '?' && c != '#'

/-- The path of a target as it is written. -/
def writtenPath (target : List Char) : List Char := withoutHost (withoutHost target)

/-- The bytes of a text with percent signs. A sign without two digits after it stands for itself. -/
def percentDecode : List Char → List UInt8
  | '%' :: a :: b :: rest =>
    match Text.hexValue? a, Text.hexValue? b with
    | some high, some low => UInt8.ofNat (high * 16 + low) :: percentDecode rest
    | _, _ => 37 :: percentDecode (a :: b :: rest)
  | c :: rest => (String.singleton c).toUTF8.toList ++ percentDecode rest
  | [] => []

/-- The path that a target names, with one slash at its start. -/
def pathOf (target : String) : String :=
  let path := Text.Utf8.decodeLossy (percentDecode (writtenPath target.toList))
  String.ofList ('/' :: path.dropWhile (· == '/'))

end ClusterLease.Http
