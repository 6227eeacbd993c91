import FeatureFlags.Pattern.Expression
import FeatureFlags.Pattern.Tree
import FeatureFlags.Pattern.Unicode.CaseFolding

/-!
# The meaning of a pattern

Flags may change inside a pattern, and what a form means depends on those in force where it stands.
Interpretation carries them along, from left to right and out of one alternative into the next, and
restores them at the end of each group.  What comes out is an expression over texts, sets of
characters and tests of places, in which flags have no more part.

Case is ignored by closing a class under case before it is negated.  Without Unicode a pattern may
only speak of ASCII characters, lest it match a part of a character.

## What is here

* `Flags`: the flags in force, and what forms mean under them.
* `Tree.expression?`: the meaning of a form, if it has one.
-/

set_option autoImplicit false

namespace FeatureFlags.Pattern

open Unicode

/-! ## Flags -/

/-- The flags in force at some point of a pattern. -/
structure Flags where
  ignoreCase : Bool := false
  multiLine : Bool := false
  dotMatchesNewline : Bool := false
  swapGreed : Bool := false
  unicode : Bool := true
  crlf : Bool := false

/-- The flags after a directive. -/
def Flags.apply (flags : Flags) (d : Directive) : Flags where
  ignoreCase := (d.value? .ignoreCase).getD flags.ignoreCase
  multiLine := (d.value? .multiLine).getD flags.multiLine
  dotMatchesNewline := (d.value? .dotMatchesNewline).getD flags.dotMatchesNewline
  swapGreed := (d.value? .swapGreed).getD flags.swapGreed
  unicode := (d.value? .unicode).getD flags.unicode
  crlf := (d.value? .crlf).getD flags.crlf

/-- The ASCII letters added that differ from a member by case only. -/
def closeUnderAsciiCase (s : CharSet) : CharSet :=
  let letters (first last : Char) (shift : Int) : CharSet :=
    ⟨((s.inter (.range first.toNat last.toNat)).ranges.map fun r =>
      ((r.1 + shift).toNat, (r.2 + shift).toNat))⟩
  s.union ((letters 'A' 'Z' 32).union (letters 'a' 'z' (-32)))

namespace Flags

/-- A set with the characters that differ from a member by case, if case is ignored. -/
def fold (flags : Flags) (s : CharSet) : CharSet :=
  if flags.ignoreCase then
    if flags.unicode then closeUnderCase s else closeUnderAsciiCase s
  else s

/-- A set or its complement.  Without Unicode the complement of an ASCII set holds bytes that are
no characters and so has no meaning. -/
def negate (flags : Flags) (negated : Bool) (s : CharSet) : Option CharSet :=
  let t := if negated then s.compl else s
  if flags.unicode || t.isAscii then some t else none

/-- The set of a shorthand, in which case plays no part. -/
def shorthand (flags : Flags) (s : Shorthand) (negated : Bool) : Option CharSet :=
  flags.negate negated (s.set flags.unicode)

/-- The set of a property, which only Unicode patterns can name. -/
def property (flags : Flags) (set : CharSet) (negated : Bool) : Option CharSet :=
  if flags.unicode then flags.negate negated (flags.fold set) else none

/-- The set of a literal outside of brackets.  Without Unicode a number above ASCII in two digits
is a byte and no character. -/
def literal (flags : Flags) (l : Literal) : Option CharSet :=
  if flags.unicode then some (flags.fold (.single l.char.toNat))
  else if l.isByte && l.char.toNat ≥ 0x80 then none
  else some (flags.fold (.single l.char.toNat))

/-- A character in brackets, which is ASCII unless the pattern is a Unicode one. -/
def member (flags : Flags) (l : Literal) : Option Nat :=
  if flags.unicode || l.char.toNat < 0x80 then some l.char.toNat else none

/-- The set that the dot stands for. -/
def dot (flags : Flags) : Option CharSet :=
  if !flags.unicode then none
  else if flags.dotMatchesNewline then some .all
  else if flags.crlf then some (CharSet.ofRanges [(10, 10), (13, 13)]).compl
  else some (CharSet.single 10).compl

/-- The test of an anchor. -/
def look (flags : Flags) : Anchor → Look
  | .lineStart => if flags.multiLine then .lineStart flags.crlf else .textStart
  | .lineEnd => if flags.multiLine then .lineEnd flags.crlf else .textEnd
  | .textStart => .textStart
  | .textEnd => .textEnd
  | .wordBoundary => .word .boundary flags.unicode
  | .notWordBoundary => .word .notBoundary flags.unicode
  | .wordStart => .word .start flags.unicode
  | .wordEnd => .word .finish flags.unicode
  | .wordStartHalf => .word .startHalf flags.unicode
  | .wordEndHalf => .word .finishHalf flags.unicode

end Flags

/-! ## Interpretation -/

mutual

/-- The set of the contents of a class.  Both sides of an operation are closed under case. -/
def ClassTree.set? (flags : Flags) : ClassTree → Option CharSet
  | .empty => some .empty
  | .literal l => (flags.member l).map .single
  | .range lo hi => do return .range (← flags.member lo) (← flags.member hi)
  | .ascii set negated => flags.negate negated (flags.fold set)
  | .shorthand s negated => flags.shorthand s negated
  | .property set negated => flags.property set negated
  | .bracketed negated contents => do flags.negate negated (flags.fold (← contents.set? flags))
  | .union items => sets? flags items
  | .op kind left right => do
    let s := flags.fold (← left.set? flags)
    let t := flags.fold (← right.set? flags)
    return match kind with
      | .intersection => s.inter t
      | .difference => s.diff t
      | .symmetricDifference => s.symmDiff t

/-- The union of the sets of contents. -/
def ClassTree.sets? (flags : Flags) : List ClassTree → Option CharSet
  | [] => some .empty
  | item :: rest => do return (← item.set? flags).union (← sets? flags rest)

end

/-- Interpretation under flags that may change on the way.  Nothing comes out for a form without a
meaning. -/
abbrev Interpretation := StateT Flags Option

mutual

/-- The meaning of a form under the flags at its start. -/
def Tree.interpret : Tree → Interpretation (Expression Atom)
  | .empty => return .empty
  | .literal l => do return .ofSet (← (← get).literal l)
  | .dot => do return .ofSet (← (← get).dot)
  | .anchor a => do return .atom (.look ((← get).look a))
  | .shorthand s negated => do return .ofSet (← (← get).shorthand s negated)
  | .property set negated => do return .ofSet (← (← get).property set negated)
  | .bracketed negated contents => do
    let flags ← get
    return .ofSet (← flags.negate negated (flags.fold (← contents.set? flags)))
  | .directive d => do
    modify (·.apply d)
    return .empty
  | .group captures d body => do
    let outer ← get
    modify (·.apply d)
    let e ← body.interpret
    set outer
    return if captures then .capture e else e
  | .repetition body least most greedy => do
    let e ← body.interpret
    return .repetition e least most (greedy != (← get).swapGreed)
  | .sequence items => do return .ofSequence (← interpretAll items)
  | .alternatives branches => do return .ofAlternatives (← interpretAll branches)

/-- The meanings of forms that stand one after the other. -/
def Tree.interpretAll : List Tree → Interpretation (List (Expression Atom))
  | [] => return []
  | t :: rest => do return (← t.interpret) :: (← interpretAll rest)

end

/-- How deeply a pattern may be nested. -/
def maxDepth : Nat := 250

/-- The meaning of a form, unless it is nested too deeply. -/
def Tree.expression? (t : Tree) : Option (Expression Atom) :=
  if maxDepth < t.depth then none else (t.interpret.run {}).map Prod.fst

end FeatureFlags.Pattern
