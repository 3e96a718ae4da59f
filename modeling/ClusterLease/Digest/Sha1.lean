import ClusterLease.Text.Hex

/-!
The SHA-1 digest of bytes: five 32-bit words, chained over blocks of sixteen words.
-/

namespace ClusterLease.Sha1

/-- The chaining state. -/
structure State where
  a : UInt32
  b : UInt32
  c : UInt32
  d : UInt32
  e : UInt32
  deriving DecidableEq, Repr

/-- The state before the first block. -/
def initial : State := ⟨0x67452301, 0xEFCDAB89, 0x98BADCFE, 0x10325476, 0xC3D2E1F0⟩

def rotate (w : UInt32) (bits : UInt32) : UInt32 := (w <<< bits) ||| (w >>> (32 - bits))

/-- The message with a one bit, zeros up to eight bytes short of a whole block, and its length in bits. -/
def padded (message : List UInt8) : List UInt8 :=
  let zeros := (55 + 64 - message.length % 64) % 64
  let bits := message.length * 8
  message ++ 0x80 :: List.replicate zeros 0 ++
    (List.range 8).map fun i => UInt8.ofNat (bits / Nat.pow 256 (7 - i))

/-- Words of four bytes, the highest byte first. -/
def words : List UInt8 → List UInt32
  | a :: b :: c :: d :: rest =>
    ((a.toUInt32 <<< 24) ||| (b.toUInt32 <<< 16) ||| (c.toUInt32 <<< 8) ||| d.toUInt32) :: words rest
  | _ => []

/-- Further words of a block, each mixed from four of the sixteen before it. -/
def expand : (count : Nat) → (window : List UInt32) → List UInt32
  | 0, _ => []
  | count + 1, window =>
    let next := rotate (window.getD 0 0 ^^^ window.getD 2 0 ^^^ window.getD 8 0 ^^^ window.getD 13 0) 1
    next :: expand count (window.drop 1 ++ [next])

/-- The mixing function and constant of a round. -/
def roundMix (round : Nat) (s : State) : UInt32 × UInt32 :=
  if round < 20 then ((s.b &&& s.c) ||| (~~~s.b &&& s.d), 0x5A827999)
  else if round < 40 then (s.b ^^^ s.c ^^^ s.d, 0x6ED9EBA1)
  else if round < 60 then ((s.b &&& s.c) ||| (s.b &&& s.d) ||| (s.c &&& s.d), 0x8F1BBCDC)
  else (s.b ^^^ s.c ^^^ s.d, 0xCA62C1D6)

/-- One round. -/
def round (s : State) (index : Nat) (word : UInt32) : State :=
  let (mix, constant) := roundMix index s
  ⟨rotate s.a 5 + mix + s.e + constant + word, s.a, rotate s.b 30, s.c, s.d⟩

def block (s : State) (words : List UInt32) : State :=
  let schedule := words ++ expand 64 words
  let t := (schedule.zip (List.range 80)).foldl (fun t (word, index) => round t index word) s
  ⟨s.a + t.a, s.b + t.b, s.c + t.c, s.d + t.d, s.e + t.e⟩

/-- The state after some blocks. -/
def blocks : (count : Nat) → State → List UInt32 → State
  | 0, s, _ => s
  | count + 1, s, words => blocks count (block s (words.take 16)) (words.drop 16)

def hexDigest (message : List UInt8) : String :=
  let all := words (padded message)
  let s := blocks (all.length / 16) initial all
  String.ofList ([s.a, s.b, s.c, s.d, s.e].flatMap fun word => Text.hexPadded 8 word.toNat)

end ClusterLease.Sha1
