import FeatureFlags.Pattern.CharSet

/-!
# Sets of characters as bytes

An automaton that reads a text byte by byte sees a character as up to four bytes.  A range of
characters becomes a list of sequences of byte ranges, such that a character is in the range exactly
if its bytes lie in the ranges of one of the sequences.  For this a range is cut where the number of
bytes changes, and then so that in each piece the bytes vary independently of one another.

## What is here

* `utf8`, `utf8Length`: the bytes of a character and their number.
* `CharSet.sequences`: the sequences of a set.
* `ByteTree`: sequences that share their beginnings.
-/

set_option autoImplicit false

namespace FeatureFlags

/-! ## Characters -/

/-- The number of bytes of a code point. -/
def utf8Length (code : Nat) : Nat :=
  if code < 0x80 then 1 else if code < 0x800 then 2 else if code < 0x10000 then 3 else 4

/-- The bytes of a code point. -/
def utf8 (code : Nat) : List Nat :=
  let tail (n : Nat) : Nat := 0x80 + n % 64
  if code < 0x80 then [code]
  else if code < 0x800 then [0xC0 + code / 64, tail code]
  else if code < 0x10000 then [0xE0 + code / 4096, tail (code / 64), tail code]
  else [0xF0 + code / 262144, tail (code / 4096), tail (code / 64), tail code]

/-! ## Ranges -/

/-- A range of bytes. -/
structure ByteRange where
  first : Nat
  last : Nat
  deriving DecidableEq

/-- Cuts a range into pieces.  In a piece that spans several blocks of a width, all blocks are whole
ones.  The widths grow, each one the size of what a further byte spans. -/
def pieces : List Nat → Nat → Nat → List (Nat × Nat)
  | [], lo, hi => [(lo, hi)]
  | width :: wider, lo, hi =>
    if lo / width = hi / width then [(lo, hi)]
    else
      let start := (lo + width - 1) / width * width
      let stop := (hi + 1) / width * width
      (if lo < start then [(lo, start - 1)] else []) ++
      (if start < stop then pieces wider start (stop - 1) else []) ++
      (if stop ≤ hi then [(stop, hi)] else [])

/-- The characters by the number of their bytes: first and last code point, and the widths of what
the bytes after the first span. -/
def encodedLengths : List (Nat × Nat × List Nat) := [
  (0, 0x7F, []),
  (0x80, 0x7FF, [64]),
  (0x800, 0xD7FF, [64, 4096]),
  (0xE000, 0xFFFF, [64, 4096]),
  (0x10000, 0x10FFFF, [64, 4096, 262144])]

/-- The sequences of byte ranges of the characters from `lo` to `hi`. -/
def rangeSequences (lo hi : Nat) : List (List ByteRange) :=
  encodedLengths.flatMap fun (first, last, widths) =>
    if min hi last < max lo first then []
    else (pieces widths (max lo first) (min hi last)).map fun (a, b) =>
      List.zipWith ByteRange.mk (utf8 a) (utf8 b)

/-- The sequences of byte ranges of a set of characters. -/
def CharSet.sequences (s : CharSet) : List (List ByteRange) :=
  s.ranges.flatMap fun (lo, hi) => rangeSequences lo hi

/-! ## Trees -/

/-- Sequences that share their beginnings: byte ranges with what follows each of them, the latest
one first.  Nothing follows the last range of a sequence. -/
inductive ByteTree where
  | leaf
  | branch (range : ByteRange) (following earlier : ByteTree)

namespace ByteTree

/-- Whether there is nothing in a tree. -/
def isLeaf : ByteTree → Bool
  | leaf => true
  | branch .. => false

/-- Adds a sequence, which shares the beginning of the latest one. -/
def insert : List ByteRange → ByteTree → ByteTree
  | [], tree => tree
  | range :: rest, leaf => branch range (insert rest leaf) leaf
  | range :: rest, branch latest following earlier =>
    if range = latest then branch latest (insert rest following) earlier
    else branch range (insert rest leaf) (branch latest following earlier)

/-- The tree of sequences given in order. -/
def ofSequences (sequences : List (List ByteRange)) : ByteTree :=
  sequences.foldl (fun tree sequence => tree.insert sequence) leaf

end ByteTree

end FeatureFlags
