/-!
# Sets of characters

A set of characters is a list of ranges of code points, in increasing order and with a gap between
any two of them.  Sets are combined by sweeping over ranges, never character by character, so the
set of all letters costs no more than its few hundred ranges.

## What is here

* `CharSet.contains`: membership.
* `CharSet.union`, `compl`, `inter`, `diff`, `symmDiff`: the operations of set notation.
-/

set_option autoImplicit false

namespace FeatureFlags

/-- A set of code points, as inclusive ranges. -/
structure CharSet where
  ranges : List (Nat × Nat)
  deriving DecidableEq

namespace CharSet

/-- The largest code point. -/
def maxCode : Nat := 0x10FFFF

/-- Whether a code point is in one of the ranges. -/
def containsCode (s : CharSet) (code : Nat) : Bool :=
  s.ranges.any fun r => r.1 ≤ code && code ≤ r.2

/-- Whether a character is in the set. -/
def contains (s : CharSet) (c : Char) : Bool := s.containsCode c.toNat

/-- Joins ranges that overlap or touch, given the range so far and further ranges ordered by their
lower ends. -/
def joinRanges (lo hi : Nat) : List (Nat × Nat) → List (Nat × Nat)
  | [] => [(lo, hi)]
  | (lo', hi') :: rest =>
    if lo' ≤ hi + 1 then joinRanges lo (max hi hi') rest
    else (lo, hi) :: joinRanges lo' hi' rest

/-- The set of ranges given in any order.  Ranges that end before they begin are empty. -/
def ofRanges (ranges : List (Nat × Nat)) : CharSet :=
  match (ranges.filter fun r => r.1 ≤ r.2).mergeSort fun a b => a.1 ≤ b.1 with
  | [] => ⟨[]⟩
  | (lo, hi) :: rest => ⟨joinRanges lo hi rest⟩

/-- The set without members. -/
def empty : CharSet := ⟨[]⟩

/-- The set of one code point. -/
def single (code : Nat) : CharSet := ⟨[(code, code)]⟩

/-- The set of all code points from `lo` to `hi`. -/
def range (lo hi : Nat) : CharSet := ofRanges [(lo, hi)]

/-- The set of every code point. -/
def all : CharSet := ⟨[(0, maxCode)]⟩

/-- The members of either set. -/
def union (s t : CharSet) : CharSet := ofRanges (s.ranges ++ t.ranges)

/-- The range from `lo` to `hi` cut back to begin and end with characters: surrogates, which are
none, are taken off its ends. -/
def characterRange (lo hi : Nat) : List (Nat × Nat) :=
  let isSurrogate (code : Nat) : Bool := 0xD800 ≤ code && code < 0xE000
  let first := if isSurrogate lo then 0xE000 else lo
  let last := if isSurrogate hi then 0xD7FF else hi
  if first ≤ last then [(first, last)] else []

/-- The gaps before, between and after ranges, from `start` on. -/
def gaps (start : Nat) : List (Nat × Nat) → List (Nat × Nat)
  | [] => if start ≤ maxCode then characterRange start maxCode else []
  | (lo, hi) :: rest =>
    if start < lo then characterRange start (lo - 1) ++ gaps (hi + 1) rest else gaps (hi + 1) rest

/-- The characters that are not members. -/
def compl (s : CharSet) : CharSet := ⟨gaps 0 s.ranges⟩

/-- The members of both sets. -/
def inter (s t : CharSet) : CharSet := (s.compl.union t.compl).compl

/-- The members of `s` that are not members of `t`. -/
def diff (s t : CharSet) : CharSet := s.inter t.compl

/-- The members of exactly one of the sets. -/
def symmDiff (s t : CharSet) : CharSet := (s.diff t).union (t.diff s)

/-- Whether every member is an ASCII character. -/
def isAscii (s : CharSet) : Bool := s.ranges.all fun r => r.2 < 0x80

end CharSet

end FeatureFlags
