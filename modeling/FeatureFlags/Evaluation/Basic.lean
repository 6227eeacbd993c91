import FeatureFlags.Evaluation.Membership

/-!
# Evaluation

A flag that is off serves its off variation.  A flag that is on looks at its prerequisites first:
each of them is evaluated, even after one has failed, until one is missing.  If any is not
satisfied, the flag serves its off variation as well.  Otherwise the first target that lists the
context decides, then the first rule whose clauses all hold, and then the fallthrough.

A prerequisite that is met again while it is being evaluated is an error.  Where every flag is
filed under its own key, no more levels of nesting are needed than there are flags.  A flag under a
foreign key may take another flag's key off the chain; but a level that finds the same flag and the
same chain as one around it would never end, so there are no more levels than such pairs.

## What is here

* `Environment.evaluateFlag`: the evaluation of a flag and, nested in it, of its prerequisites.
* `evaluate`: the evaluation of a flag for a context, with all that comes of it.
-/

set_option autoImplicit false

namespace FeatureFlags

/-! ## Prerequisites -/

/-- Whether a flag with the given detail satisfies a prerequisite. -/
def Prerequisite.isSatisfied (p : Prerequisite) (f : Flag) (detail : Detail FlagValue) : Bool :=
  f.on && detail.index == some p.variation

/-- Records the detail of a prerequisite of the flag with key `parent`.  Gives whether the
prerequisite is satisfied by it. -/
def Prerequisite.settle (p : Prerequisite) (parent : String) (f : Flag)
    (detail : Detail FlagValue) : Eval (Option Bool) := do
  Eval.record f parent detail
  match detail.reason with
  | .error _ => Eval.fail (.malformedPrerequisite p.key)
  | _ => return some (p.isSatisfied f detail)

namespace Environment

variable (env : Environment)

/-- Looks up a prerequisite, evaluates it by a given evaluation of flags, and records the result.
Gives whether it is satisfied, or nothing if it is missing. -/
def findPrerequisite (evaluate : Flag → Eval (Detail FlagValue)) (parent : String)
    (p : Prerequisite) : Eval (Option Bool) := do
  match ← env.flag? p.key with
  | none => return none
  | some f => p.settle parent f (← evaluate f)

/-- The same, unless the prerequisite is being evaluated already. -/
def enterPrerequisite (evaluate : Flag → Eval (Detail FlagValue)) (parent : String)
    (p : Prerequisite) : Eval (Option Bool) := do
  if (← Eval.read Scope.flagChain).contains p.key then Eval.fail (.prerequisiteCycle p.key)
  else env.findPrerequisite evaluate parent p

end Environment

/-- Takes prerequisites one after the other by a given check, after `failed` as the first that was
not satisfied.  Gives the key of the first that is not satisfied.  None is looked at after one that
is missing. -/
def checkInTurn (check : Prerequisite → Eval (Option Bool)) :
    Option String → List Prerequisite → Eval (Option String)
  | failed, [] => return failed
  | failed, p :: rest => do
    match ← check p with
    | none => return failed <|> some p.key
    | some true => checkInTurn check failed rest
    | some false => checkInTurn check (failed <|> some p.key) rest

/-! ## Targets, rules and fallthrough -/

namespace Flag

/-- The detail of the fallthrough. -/
def decideByFallthrough (env : Environment) (f : Flag) : Eval (Detail FlagValue) := do
  let selection ← Eval.ofExcept (f.select f.fallthrough env.context)
  return f.variation selection.variation (.fallthrough selection.inExperiment)

/-- The detail of the first of the given rules whose clauses all hold, or of the fallthrough.  The
first rule has the given index. -/
def decideByRules (env : Environment) (inSegment : String → Eval Bool) (f : Flag) :
    Nat → List FlagRule → Eval (Detail FlagValue)
  | _, [] => f.decideByFallthrough env
  | index, rule :: rest => do
    if ← allHold env inSegment rule.clauses then
      let selection ← Eval.ofExcept (f.select rule.outcome env.context)
      return f.variation selection.variation (.ruleMatch index rule.id selection.inExperiment)
    else f.decideByRules env inSegment (index + 1) rest

/-- The detail of a flag whose prerequisites are satisfied, given a decision for the segments that
its rules name. -/
def decide (env : Environment) (inSegment : String → Eval Bool) (f : Flag) :
    Eval (Detail FlagValue) :=
  match f.targetVariation? env.context with
  | some index => return f.variation index .targetMatch
  | none => f.decideByRules env inSegment 0 f.rules

/-- The detail of a flag, given a check of its prerequisites and a decision for the segments that
its rules name. -/
def evaluateWith (env : Environment) (inSegment : String → Eval Bool)
    (prerequisites : Eval (Option String)) (f : Flag) : Eval (Detail FlagValue) := do
  if f.on then
    match ← prerequisites with
    | some key => return f.offValue (.prerequisiteFailed key)
    | none => f.decide env inSegment
  else return f.offValue .off

end Flag

/-! ## Whole evaluations -/

namespace Environment

variable (env : Environment)

/-- The key of the first prerequisite of a flag that is not satisfied, given an evaluation of
flags.  The flag is on the chain meanwhile. -/
def failedPrerequisite? (evaluate : Flag → Eval (Detail FlagValue)) (f : Flag) :
    Eval (Option String) :=
  Eval.withFlag f.key (checkInTurn (env.enterPrerequisite evaluate f.key) none f.prerequisites)

/-- The detail of a flag, given an evaluation of the flags below it. -/
def evaluateAbove (evaluate : Flag → Eval (Detail FlagValue)) (f : Flag) :
    Eval (Detail FlagValue) :=
  f.evaluateWith env (env.inSegment env.segmentDepth) (env.failedPrerequisite? evaluate f)

/-- The detail of a flag, with at most `depth` levels of prerequisites below it. -/
def evaluateFlag : Nat → Flag → Eval (Detail FlagValue)
  | 0 => env.evaluateAbove fun _ => Eval.fail .tooDeep
  | depth + 1 => env.evaluateAbove (evaluateFlag depth)

/-- Levels of nesting that suffice for flags: one for each pair of a flag and a chain. -/
def flagDepth : Nat :=
  let count := env.store.data.flags.size + 1
  count * Nat.pow 2 count

/-- The evaluation of a flag from the start: its detail or an error, and what was kept track
of. -/
def run (f : Flag) : Except EvalError (Detail FlagValue) × Scope :=
  env.evaluateFlag env.flagDepth f .empty

end Environment

/-- All that comes of an evaluation. -/
structure Evaluation where
  detail : Detail FlagValue
  records : List PrerequisiteRecord
  queries : List String
  warnings : List Warning

/-- The keys for which a provider was queried, in order. -/
def Scope.queries (scope : Scope) : List String :=
  scope.events.filterMap fun
    | .query contextKey => some contextKey
    | _ => none

/-- What comes of the run of an evaluation.  An error becomes an answer of its kind and a
warning. -/
def Evaluation.ofRun (f : Flag) : Except EvalError (Detail FlagValue) × Scope → Evaluation
  | (.ok detail, scope) =>
    ⟨{ detail with status := scope.status }, scope.records, scope.queries, scope.warnings⟩
  | (.error e, scope) =>
    ⟨{ (Detail.err e.kind : Detail FlagValue) with status := scope.status }, scope.records,
      scope.queries, scope.warnings ++ [.evaluationFailed f.key e.message]⟩

/-- The evaluation of a flag. -/
def evaluate (env : Environment) (f : Flag) : Evaluation := .ofRun f (env.run f)

end FeatureFlags
