import ClusterLease.Fault
import ClusterLease.Number.Numeral

/-!
Server versions and the names of what is built from them.

A version text is a dotted version, and a build number after the first hyphen if the server is no release.
The first two numbers of the dotted version choose a flavor: the minor number counts as zero or as five.
-/

namespace ClusterLease

/-- A server version: the dotted version, its flavor, and the build number, empty for a release. -/
structure Version where
  number : String
  flavor : String
  build : String
  deriving DecidableEq, Repr

namespace Version

def defaultReleaseUrl : String := "http://latestbuilds.service.couchbase.com/builds/releases/"

def defaultBuildUrl : String :=
  "http://latestbuilds.service.couchbase.com/builds/latestbuilds/couchbase-server/"

/-- The flavor of each major number and half of the minor numbers. -/
def flavors : List ((Int × Nat) × String) :=
  [((4, 0), "sherlock"), ((4, 5), "watson"), ((5, 0), "spock"), ((5, 5), "vulcan"), ((6, 0), "alice"),
    ((6, 5), "mad-hatter"), ((7, 0), "cheshire-cat")]

/-- The half that a minor number falls into: from five on it counts as five, below as zero. -/
def bucket (minor : Int) : Nat := if 5 ≤ minor then 5 else 0

/-- The part of a text before the first occurrence of a character, and the part after it. -/
def splitAtFirst (c : Char) (cs : List Char) : List Char × List Char :=
  (cs.takeWhile (· != c), (cs.dropWhile (· != c)).drop 1)

def flavorOf (number : String) : Except Fault String :=
  match number.toList.splitOn '.' with
  | major :: minor :: _ =>
    match Numeral.int? (String.ofList major) with
    | none => .error (.rejected (.majorNotNumber number))
    | some major =>
      match Numeral.int? (String.ofList minor) with
      | none => .error (.rejected (.minorNotNumber number))
      | some minor =>
        match flavors.lookup (major, bucket minor) with
        | some flavor => .ok flavor
        | none => .error (.rejected (.unknownFlavor major (bucket minor)))
  | _ => .error (.rejected (.noMinorVersion number))

def resolve (text : String) : Except Fault Version :=
  let (number, build) := splitAtFirst '-' text.toList
  (flavorOf (String.ofList number)).map fun flavor => ⟨String.ofList number, flavor, String.ofList build⟩

/-- The number, with the build number after a hyphen if there is one. -/
def numberAndBuild (v : Version) : String := if v.build = "" then v.number else s!"{v.number}-{v.build}"

def tag (v : Version) : String := s!"{v.numberAndBuild}.centos7"

def image (v : Version) (registry : String) : String := s!"{registry}/dynclsr-couchbase_{v.tag}"

def package (v : Version) : String := s!"couchbase-server-enterprise-{v.numberAndBuild}-centos7.x86_64.rpm"

/-- Where the server package is published: releases by number, builds by flavor and build number. -/
def url (v : Version) (releaseUrl buildUrl : String) : String :=
  if v.build = "" then s!"{releaseUrl}{v.number}" else s!"{buildUrl}{v.flavor}/{v.build}"

example : (resolve "6.6.2-1234").toOption.map (·.tag) = some "6.6.2-1234.centos7" := by decide +kernel

end Version

end ClusterLease
