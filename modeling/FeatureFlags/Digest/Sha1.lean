/-!
# SHA-1

The digest that spreads keys over buckets.  A message is padded to whole blocks of sixteen words;
each block is stretched to eighty words, which are mixed into a state of five.

## What is here

* `Sha1.digest`: the five words of the digest of a list of bytes.
* `Sha1.leading`: the first bits of a digest as a number.
-/

set_option autoImplicit false

namespace FeatureFlags.Digest.Sha1

/-! ## Words -/

/-- Rotation to the left. -/
def rotate (x : UInt32) (count : UInt32) : UInt32 := (x <<< count) ||| (x >>> (32 - count))

/-- The words of bytes, four to a word, the most significant first. -/
def words : List UInt8 → List UInt32
  | a :: b :: c :: d :: rest =>
    ((a.toUInt32 <<< 24) ||| (b.toUInt32 <<< 16) ||| (c.toUInt32 <<< 8) ||| d.toUInt32) ::
      words rest
  | _ => []

/-- The bytes of a number, the most significant first. -/
def bytes : Nat → Nat → List UInt8
  | 0, _ => []
  | count + 1, n => UInt8.ofNat (n / Nat.pow 256 count) :: bytes count n

/-- The bytes of a message in one block. -/
def blockBytes : Nat := 64

/-- A message with its padding: a one bit, zeros, and the length in bits as the last eight bytes of
a block. -/
def pad (message : List UInt8) : List UInt8 :=
  let zeros := (2 * blockBytes - 9 - message.length % blockBytes) % blockBytes
  message ++ 0x80 :: List.replicate zeros 0 ++ bytes 8 (8 * message.length)

/-! ## Blocks -/

/-- The state of five words. -/
structure State where
  a : UInt32
  b : UInt32
  c : UInt32
  d : UInt32
  e : UInt32

/-- The state before the first block. -/
def initial : State := ⟨0x67452301, 0xEFCDAB89, 0x98BADCFE, 0x10325476, 0xC3D2E1F0⟩

/-- The words so far, latest first, and `count` more. -/
def stretch : Nat → List UInt32 → List UInt32
  | 0, latest => latest
  | count + 1, latest =>
    let word := latest.getD 2 0 ^^^ latest.getD 7 0 ^^^ latest.getD 13 0 ^^^ latest.getD 15 0
    stretch count (rotate word 1 :: latest)

/-- The eighty words of a block of sixteen. -/
def schedule (block : List UInt32) : List UInt32 := (stretch 64 block.reverse).reverse

/-- The mixing function and the constant of a round. -/
def mixing (round : Nat) (b c d : UInt32) : UInt32 :=
  if round < 20 then ((b &&& c) ||| (~~~b &&& d)) + 0x5A827999
  else if round < 40 then (b ^^^ c ^^^ d) + 0x6ED9EBA1
  else if round < 60 then ((b &&& c) ||| (b &&& d) ||| (c &&& d)) + 0x8F1BBCDC
  else (b ^^^ c ^^^ d) + 0xCA62C1D6

/-- The rounds of a block, one for each word. -/
def rounds : Nat → List UInt32 → State → State
  | _, [], s => s
  | round, word :: rest, s =>
    rounds (round + 1) rest
      ⟨rotate s.a 5 + mixing round s.b s.c s.d + s.e + word, s.a, rotate s.b 30, s.c, s.d⟩

/-- The state after a block. -/
def absorb (s : State) (block : List UInt32) : State :=
  let t := rounds 0 (schedule block) s
  ⟨s.a + t.a, s.b + t.b, s.c + t.c, s.d + t.d, s.e + t.e⟩

/-- The state after `count` blocks of the given words. -/
def absorbAll : Nat → List UInt32 → State → State
  | 0, _, s => s
  | count + 1, ws, s => absorbAll count (ws.drop 16) (absorb s (ws.take 16))

/-! ## Digests -/

/-- The digest of a message. -/
def digest (message : List UInt8) : State :=
  let padded := pad message
  absorbAll (padded.length / blockBytes) (words padded) initial

/-- A digest as a number of 160 bits. -/
def State.toNat (s : State) : Nat :=
  [s.a, s.b, s.c, s.d, s.e].foldl (fun n w => n * Nat.pow 2 32 + w.toNat) 0

/-- The first bits of the digest of a text, as a number. -/
def leading (bits : Nat) (text : String) : Nat :=
  (digest text.toUTF8.data.toList).toNat / Nat.pow 2 (160 - bits)

end FeatureFlags.Digest.Sha1
