import ClusterLease.Digest.Sha1
import ClusterLease.Fault
import ClusterLease.Text.Encoding
import ClusterLease.Text.HostName
import ClusterLease.Text.LetterCase

/-!
Pod names, which must be labels of host names: at most 63 small letters, digits and inner hyphens.

A container name is folded to such characters. If the result is too long it is cut, and the start of a
digest of the container name is put at the end, so that long names that differ late stay different.

`nameFor` names the pods of containers that are named by texts. A name from elsewhere may hold lone surrogates, and
then `nameOf` says what becomes of it.
-/

namespace ClusterLease.Pod

open Text

/-- A label of a host name has at most this many characters. -/
def maxNameLength : Nat := 63

/-- How many digits of the digest end a name that was cut. -/
def digestLength : Nat := 8

/-- A container name with only the characters of a label. -/
def normalName (containerName : String) : List Char := hyphenate isLabelChar (lower containerName).toList

/-- The first digits of the digest of a container name. -/
def nameDigest (containerName : String) : List Char :=
  (Sha1.hexDigest containerName.toUTF8.toList).toList.take digestLength

/-- The name of the pod of a container. -/
def nameFor (containerName : String) : String :=
  let name := normalName containerName
  if name.length ≤ maxNameLength then String.ofList name
  else
    let cut := trimRight (· == '-') (name.take (maxNameLength - digestLength - 1))
    String.ofList (cut ++ '-' :: nameDigest containerName)

/-- The name of the pod of a container with a name from elsewhere. A lone surrogate is folded like any character that
is no label character, but there is no UTF-8 of it to make a digest of. -/
def nameOf (containerName : List CodePoint) : Except Fault String :=
  let name := normalName (shown containerName)
  if name.length ≤ maxNameLength then .ok (String.ofList name)
  else do
    let bytes ← Fault.orMishap .unencodable (Utf8.encode? containerName)
    let cut := trimRight (· == '-') (name.take (maxNameLength - digestLength - 1))
    return String.ofList (cut ++ '-' :: (Sha1.hexDigest bytes).toList.take digestLength)

end ClusterLease.Pod
