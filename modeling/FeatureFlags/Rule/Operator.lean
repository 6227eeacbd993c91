import FeatureFlags.Attribute.Value
import FeatureFlags.Pattern.Matcher
import FeatureFlags.Warning

/-!
# Operators

An operator compares a value of a context with a value of a clause.  If either cannot be read with
the type of the operator, the comparison is false.

## What is here

* `Operator`: the operators, with their names in flag data.
* `Operator.test`: the comparison of two values.
* `Operator.compare`: the same comparison with what there is to remark about it.
-/

set_option autoImplicit false

namespace FeatureFlags

/-- The ways to compare a value of a context with a value of a clause.  Data may name operators
unknown to this library; these compare as false. -/
inductive Operator where
  | isIn
  | startsWith
  | endsWith
  | contains
  | matchesPattern
  | lessThan
  | lessThanOrEqual
  | greaterThan
  | greaterThanOrEqual
  | before
  | after
  | segmentMatch
  | versionEqual
  | versionGreaterThan
  | versionLessThan
  | unknown
  deriving DecidableEq

namespace Operator

/-- The operator of a name. -/
def ofName : String → Operator
  | "in" => isIn
  | "startsWith" => startsWith
  | "endsWith" => endsWith
  | "contains" => contains
  | "matches" => matchesPattern
  | "lessThan" => lessThan
  | "lessThanOrEqual" => lessThanOrEqual
  | "greaterThan" => greaterThan
  | "greaterThanOrEqual" => greaterThanOrEqual
  | "before" => before
  | "after" => after
  | "segmentMatch" => segmentMatch
  | "semVerEqual" => versionEqual
  | "semVerGreaterThan" => versionGreaterThan
  | "semVerLessThan" => versionLessThan
  | _ => unknown

/-- A test of two values that are both read in the same way; false if either cannot be. -/
def both {α : Type} (read : AttributeValue → Option α) (test : α → α → Bool)
    (l r : AttributeValue) : Bool :=
  match read l, read r with
  | some x, some y => test x y
  | _, _ => false

/-- Whether one list occurs in another without gaps. -/
def isWithin (part : List Char) : List Char → Bool
  | [] => part.isEmpty
  | c :: rest => part.isPrefixOf (c :: rest) || isWithin part rest

/-- Whether a text matches a pattern.  A text that is no pattern matches nothing. -/
def matchesText (text pattern : String) : Bool :=
  (Pattern.ofString? pattern).any fun p => p.occursIn text

/-- The comparison of a value of a context, on the left, with a value of a clause.  Whether a
context is in a segment is no matter of comparing values. -/
def test : Operator → AttributeValue → AttributeValue → Bool
  | isIn => AttributeValue.equal
  | startsWith => both AttributeValue.asString? fun s t => t.toList.isPrefixOf s.toList
  | endsWith => both AttributeValue.asString? fun s t => t.toList.isSuffixOf s.toList
  | contains => both AttributeValue.asString? fun s t => isWithin t.toList s.toList
  | matchesPattern => both AttributeValue.asString? matchesText
  | lessThan => both AttributeValue.asNumber? Binary.less
  | lessThanOrEqual => both AttributeValue.asNumber? Binary.atMost
  | greaterThan => both AttributeValue.asNumber? fun x y => y.less x
  | greaterThanOrEqual => both AttributeValue.asNumber? fun x y => y.atMost x
  | before => both AttributeValue.toInstant? Instant.less
  | after => both AttributeValue.toInstant? fun i j => j.less i
  | versionEqual => both AttributeValue.toVersion? fun v w => v == w
  | versionGreaterThan => both AttributeValue.toVersion? fun v w => v.compare w == .gt
  | versionLessThan => both AttributeValue.toVersion? fun v w => v.compare w == .lt
  | segmentMatch | unknown => fun _ _ => false

/-- The comparison of two values together with what there is to remark about it: a text that should
be a pattern and is none. -/
def compare : Operator → AttributeValue → AttributeValue → Bool × Option Warning
  | matchesPattern, .string text, .string pattern =>
    match Pattern.ofString? pattern with
    | some p => (p.occursIn text, none)
    | none => (false, some .invalidPattern)
  | op, l, r => (op.test l r, none)

theorem fst_compare (op : Operator) (l r : AttributeValue) : (op.compare l r).1 = op.test l r := by
  unfold compare
  split
  · next text pattern =>
    simp only [test, both, AttributeValue.asString?, matchesText]
    cases Pattern.ofString? pattern <;> rfl
  · rfl

end Operator

end FeatureFlags
