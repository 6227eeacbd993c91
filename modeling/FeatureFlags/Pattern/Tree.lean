import FeatureFlags.Pattern.Class

/-!
# The form of a pattern

A pattern as it is written: literals, classes, groups, repetitions and alternatives.  What a form
means depends on the flags in force where it stands, so a form keeps the flag directives and the
difference between a character and a byte escape.

## What is here

* `ClassTree`: what stands between brackets.
* `Tree`: a pattern.
* `Tree.depth`: how deeply a pattern is nested.
-/

set_option autoImplicit false

namespace FeatureFlags.Pattern

/-- A flag that a directive turns on or off. -/
inductive Flag where
  | ignoreCase
  | multiLine
  | dotMatchesNewline
  | swapGreed
  | unicode
  | crlf
  | ignoreBlanks
  deriving DecidableEq

/-- A directive: flags with their new values. -/
abbrev Directive := List (Flag × Bool)

/-- The value that a directive gives to a flag. -/
def Directive.value? (d : Directive) (flag : Flag) : Option Bool :=
  (d.find? fun change => change.1 == flag).map Prod.snd

/-- A test of a place between characters. -/
inductive Anchor where
  | lineStart
  | lineEnd
  | textStart
  | textEnd
  | wordBoundary
  | notWordBoundary
  | wordStart
  | wordEnd
  | wordStartHalf
  | wordEndHalf
  deriving DecidableEq

/-- A character of a pattern, and whether it was written as a byte of two hexadecimal digits. -/
structure Literal where
  char : Char
  isByte : Bool
  deriving DecidableEq

/-- The operations on classes. -/
inductive SetOp where
  | intersection
  | difference
  | symmetricDifference
  deriving DecidableEq

/-- The contents of a class in brackets. -/
inductive ClassTree where
  | empty
  | literal (l : Literal)
  | range (lo hi : Literal)
  | ascii (set : CharSet) (negated : Bool)
  | shorthand (s : Shorthand) (negated : Bool)
  | property (set : CharSet) (negated : Bool)
  | bracketed (negated : Bool) (contents : ClassTree)
  | union (items : List ClassTree)
  | op (kind : SetOp) (left right : ClassTree)

/-- A pattern. -/
inductive Tree where
  | empty
  | literal (l : Literal)
  | dot
  | anchor (a : Anchor)
  | shorthand (s : Shorthand) (negated : Bool)
  | property (set : CharSet) (negated : Bool)
  | bracketed (negated : Bool) (contents : ClassTree)
  | directive (d : Directive)
  | group (captures : Bool) (d : Directive) (body : Tree)
  | repetition (body : Tree) (least : Nat) (most : Option Nat) (greedy : Bool)
  | sequence (items : List Tree)
  | alternatives (branches : List Tree)

/-! ## Depth -/

mutual

/-- How deeply the contents of a class are nested. -/
def ClassTree.depth : ClassTree → Nat
  | .bracketed _ contents => contents.depth + 1
  | .union items => depths items + 1
  | .op _ left right => max left.depth right.depth + 1
  | _ => 0

/-- The greatest depth of a list of contents. -/
def ClassTree.depths : List ClassTree → Nat
  | [] => 0
  | c :: rest => max c.depth (depths rest)

end

mutual

/-- How deeply a pattern is nested: each class, group, repetition, sequence and list of
alternatives adds one. -/
def Tree.depth : Tree → Nat
  | .bracketed _ contents => contents.depth + 1
  | .group _ _ body => body.depth + 1
  | .repetition body _ _ _ => body.depth + 1
  | .sequence items => depths items + 1
  | .alternatives branches => depths branches + 1
  | _ => 0

/-- The greatest depth of a list of patterns. -/
def Tree.depths : List Tree → Nat
  | [] => 0
  | t :: rest => max t.depth (depths rest)

end

end FeatureFlags.Pattern
