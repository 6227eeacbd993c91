import FeatureFlags.Decoding
import FeatureFlags.Evaluation.Error
import FeatureFlags.Rule.Operator

/-!
# Clauses

A clause is one condition on a context.  It compares the value of an attribute with a list of
values, and holds if any comparison does; for an attribute that is a list, any element will do.  A
clause on the attribute `kind` looks at the kinds of all entities.  A negated clause holds if no
comparison does, but an attribute that is missing or null satisfies no clause, negated or not.

A clause with the operator for segments names segments instead, and is decided elsewhere.

## What is here

* `Clause`, read by `Clause.ofJson`.
* `Clause.subjects`: the values of a context that a clause compares.
* `Clause.holds`: whether a clause holds; `Clause.judge`: the same with what there is to remark.
-/

set_option autoImplicit false

namespace FeatureFlags

/-- A condition on a context. -/
structure Clause where
  contextKind : Kind
  reference : Reference
  negate : Bool
  op : Operator
  values : List AttributeValue

namespace Clause

/-- The keys of the segments that a clause names.  Values other than texts name none. -/
def segmentKeys (clause : Clause) : List String := clause.values.filterMap AttributeValue.asString?

/-- The values of a context that a clause compares, if there are any to compare. -/
def subjects (clause : Clause) (c : Context) : Option (List AttributeValue) :=
  if clause.reference.isKind then some (c.kinds.map fun k => .string k.name)
  else
    match (c.entity? clause.contextKind).bind (·.value? clause.reference) with
    | none | some .null => none
    | some (.array items) => some items
    | some v => some [v]

/-- Whether any comparison of the given values holds. -/
def anyMatch (clause : Clause) (subjects : List AttributeValue) : Bool :=
  subjects.any fun v => clause.values.any fun w => clause.op.test v w

/-- The result of a clause, given whether it is met apart from negation. -/
def result (clause : Clause) (matched : Bool) : Bool := clause.negate != matched

/-- Whether a clause that names no segments holds. -/
def holds (clause : Clause) (c : Context) : Except EvalError Bool := do
  clause.reference.check
  return match clause.subjects c with
    | none => false
    | some subjects => clause.result (clause.anyMatch subjects)

/-! ## Deciding with remarks -/

/-- The comparisons of the given values, in the order in which they are made. -/
def comparisons (clause : Clause) (subjects : List AttributeValue) :
    List (AttributeValue × AttributeValue) :=
  subjects.flatMap fun v => clause.values.map fun w => (v, w)

/-- Whether any of the comparisons holds, and what there is to remark about them.  No comparison is
made after one that holds. -/
def compareInTurn (op : Operator) : List (AttributeValue × AttributeValue) → Bool × List Warning
  | [] => (false, [])
  | (v, w) :: rest =>
    let (met, remark) := op.compare v w
    if met then (true, remark.toList)
    else
      let (metLater, remarks) := compareInTurn op rest
      (metLater, remark.toList ++ remarks)

/-- Whether a clause that names no segments holds, and what there is to remark about it. -/
def judge (clause : Clause) (c : Context) : Except EvalError (Bool × List Warning) := do
  clause.reference.check
  return match clause.subjects c with
    | none => (false, [])
    | some subjects =>
      let (met, remarks) := compareInTurn clause.op (clause.comparisons subjects)
      (clause.result met, remarks)

theorem fst_compareInTurn (op : Operator) (pairs : List (AttributeValue × AttributeValue)) :
    (compareInTurn op pairs).1 = pairs.any fun pair => op.test pair.1 pair.2 := by
  induction pairs with
  | nil => rfl
  | cons pair rest ih =>
    simp only [compareInTurn, List.any_cons, ← Operator.fst_compare op pair.1 pair.2, ← ih]
    split <;> simp_all

theorem any_comparisons (clause : Clause) (subjects : List AttributeValue) :
    ((clause.comparisons subjects).any fun pair => clause.op.test pair.1 pair.2) =
      clause.anyMatch subjects := by
  simp [comparisons, anyMatch, List.any_flatMap, List.any_map, Function.comp_def]

/-- **Remarks do not bear on the decision.** -/
theorem fst_judge (clause : Clause) (c : Context) :
    (clause.judge c).map Prod.fst = clause.holds c := by
  simp only [judge, holds]
  cases clause.reference.check with
  | error e => rfl
  | ok u =>
    cases h : clause.subjects c with
    | none => rfl
    | some subjects =>
      simp [Except.map, bind, Except.bind, pure, Except.pure, fst_compareInTurn, any_comparisons]

/-! ## Reading -/

/-- Reads a clause.  Without a context kind the attribute is a name and no reference. -/
def ofJson : Decoder Clause := fun j => do
  let ms ← Decode.fields ["contextKind", "attribute", "negate", "op", "values"] 4 j
  let name ← Decode.fieldOr ms "attribute" "" Decode.string
  let contextKind ← Decode.optionalField ms "contextKind" Decode.kind
  let negate ← Decode.fieldOr ms "negate" false Decode.bool
  let op ← Decode.field ms "op" (Decode.named fun name => some (Operator.ofName name))
  let values ← Decode.listField ms "values" fun j => .ok (AttributeValue.ofJson j)
  return {
    contextKind := contextKind.getD .user
    reference := .ofFlagData name contextKind.isSome
    negate
    op := ← Decode.require "op" op
    values }

end Clause

end FeatureFlags
