import FeatureFlags.Evaluation.Scope

/-!
# Being in a segment

Whether a context is in a segment may depend on other segments, which its rules name.  Clauses and
segments are therefore decided with the help of a function that decides the segments named, and
that function is built on top of them, for one level of nesting after the other.

A segment that is met again while it is being decided is an error, so no more levels are needed
than there are segments.

## What is here

* `Clause.evaluate`, `Segment.contains`: the decisions, given one for the segments named.
* `Environment.inSegment`: whether the context is in the segment with a key.
-/

set_option autoImplicit false

namespace FeatureFlags

/-- Whether a clause holds, given a decision for the segments that it names. -/
def Clause.evaluate (env : Environment) (inSegment : String → Eval Bool) (clause : Clause) :
    Eval Bool := do
  if clause.op = .segmentMatch then
    return clause.result (← Eval.any inSegment clause.segmentKeys)
  else
    let (result, remarks) ← Eval.ofExcept (clause.judge env.context)
    Eval.warn remarks
    return result

/-- Whether all clauses hold.  None is looked at after one that does not. -/
def allHold (env : Environment) (inSegment : String → Eval Bool) (clauses : List Clause) :
    Eval Bool :=
  Eval.all (fun clause => clause.evaluate env inSegment) clauses

/-- Whether a rule of a segment with the given key and salt includes the context. -/
def SegmentRule.evaluate (env : Environment) (inSegment : String → Eval Bool) (key salt : String)
    (r : SegmentRule) : Eval Bool := do
  if ← allHold env inSegment r.clauses then Eval.ofExcept (r.includes key salt env.context)
  else return false

namespace Segment

/-- What the store of big segments says about the context.  A context without the kind of the
segment is not in it. -/
def storeVerdict (env : Environment) (s : Segment) : Eval (Option Bool) :=
  match env.context.entity? s.unboundedContextKind with
  | none => return some false
  | some e => env.consult e.key s.storeReference?

/-- What is known of the context before the rules are looked at. -/
def verdict (env : Environment) (s : Segment) : Eval (Option Bool) :=
  if s.unbounded then s.storeVerdict env else return s.listing? env.context

/-- Whether the context is in a segment, given a decision for the segments that its rules name. -/
def contains (env : Environment) (inSegment : String → Eval Bool) (s : Segment) : Eval Bool := do
  match ← s.verdict env with
  | some answer => return answer
  | none => Eval.any (fun r => r.evaluate env inSegment s.key s.salt) s.rules

end Segment

namespace Environment

/-- Looks up the segment with a key and decides it.  Nobody is in a segment that is missing. -/
def findSegment (env : Environment) (decide : Segment → Eval Bool) (key : String) :
    Eval Bool := do
  match ← env.segment? key with
  | none => return false
  | some s => decide s

/-- The same, unless the segment is being decided already. -/
def enterSegment (env : Environment) (decide : Segment → Eval Bool) (key : String) :
    Eval Bool := do
  if (← Eval.read Scope.segmentChain).contains key then Eval.fail (.segmentCycle key)
  else env.findSegment (fun s => Eval.withSegment key (decide s)) key

/-- Whether the context is in the segment with a key, with at most `depth` levels of nesting. -/
def inSegment (env : Environment) : Nat → String → Eval Bool
  | 0 => env.enterSegment fun _ => Eval.fail .tooDeep
  | depth + 1 => env.enterSegment fun s => s.contains env (env.inSegment depth)

/-- Levels of nesting that suffice for segments. -/
def segmentDepth (env : Environment) : Nat := env.store.data.segments.size

end Environment

end FeatureFlags
