import FeatureFlags.Flag.Value
import FeatureFlags.Rollout.Outcome
import FeatureFlags.Rule.Clause

/-!
# Flags

A flag decides which of its variations to serve to a context.  If it is on and its prerequisites
are satisfied, targets are looked at first, then rules, and then the fallthrough decides.

## What is here

* `Flag`, `FlagRule`, `Target`, `Prerequisite`, read by `Flag.ofJson`.
* `Flag.variation`, `Flag.offValue`: the detail that serves a variation.
* `Flag.targetVariation?`: the search for a target that lists a context.
* `Flag.isExperimentationEnabled`: whether a result is to be tracked in full.
-/

set_option autoImplicit false

namespace FeatureFlags

/-- A flag that must be on and serve a given variation. -/
structure Prerequisite where
  key : String
  variation : Nat

/-- Keys of entities of one kind that are served a given variation. -/
structure Target where
  contextKind : Kind
  values : List String
  variation : Nat

/-- A rule: if all clauses hold, the outcome is served. -/
structure FlagRule where
  id : String
  clauses : List Clause
  outcome : Outcome
  trackEvents : Bool

/-- A flag. -/
structure Flag where
  key : String
  version : Nat
  deleted : Bool
  on : Bool
  prerequisites : List Prerequisite
  targets : List Target
  contextTargets : List Target
  rules : List FlagRule
  fallthrough : Outcome
  offVariation : Option Nat
  variations : List FlagValue
  salt : String
  trackEvents : Bool
  trackEventsFallthrough : Bool
  debugEventsUntilDate : Option Nat

/-! ## Targets -/

/-- Whether a target lists the key of the context's entity of its kind. -/
def Target.lists (t : Target) (c : Context) : Bool :=
  (c.entity? t.contextKind).any fun e => t.values.contains e.key

/-- The variation of a target, if it lists the context. -/
def Target.serve? (t : Target) (c : Context) : Option Nat :=
  if t.lists c then some t.variation else none

/-- Whether a target stands for the older targets with its variation. -/
def Target.isPlaceholder (t : Target) : Bool := t.contextKind.isUser && t.values.isEmpty

namespace Flag

/-- The variation of the first target that lists a context.  Among targets that name their kind, a
user target without keys marks where the older targets with its variation are searched. -/
def targetVariation? (f : Flag) (c : Context) : Option Nat :=
  if f.contextTargets.isEmpty then f.targets.findSome? fun t => t.serve? c
  else
    f.contextTargets.findSome? fun t =>
      if t.isPlaceholder then
        (f.targets.filter fun older => older.variation == t.variation).findSome? fun older =>
          older.serve? c
      else t.serve? c

/-! ## Results -/

/-- The detail that serves a variation. -/
def variation (f : Flag) (index : Nat) (reason : Reason) : Detail FlagValue :=
  match f.variations[index]? with
  | some value => { (Detail.empty reason : Detail FlagValue) with value, index }
  | none => .err .malformedFlag

/-- The detail that serves the off variation, or no value if there is none. -/
def offValue (f : Flag) (reason : Reason) : Detail FlagValue :=
  match f.offVariation with
  | some index => f.variation index reason
  | none => .empty reason

/-- The selection of an outcome of the flag for a context. -/
def select (f : Flag) (o : Outcome) (c : Context) : Except EvalError Selection :=
  o.select f.key f.salt c

/-- Whether a result with the given reason is to be tracked in full. -/
def isExperimentationEnabled (f : Flag) (reason : Reason) : Bool :=
  reason.isInExperiment ||
    match reason with
    | .fallthrough _ => f.trackEventsFallthrough
    | .ruleMatch index _ _ => (f.rules[index]?).any FlagRule.trackEvents
    | _ => false

/-- Whether one flag has a later version than another. -/
def isNewerThan (f g : Flag) : Bool := decide (g.version < f.version)

end Flag

/-! ## Reading -/

/-- Reads a prerequisite. -/
def Prerequisite.ofJson : Decoder Prerequisite := fun j => do
  let ms ← Decode.fields ["key", "variation"] 2 j
  let key ← Decode.field ms "key" Decode.string
  let variation ← Decode.field ms "variation" Decode.natural
  return ⟨← Decode.require "key" key, ← Decode.require "variation" variation⟩

/-- Reads a target. -/
def Target.ofJson : Decoder Target := fun j => do
  let ms ← Decode.fields ["contextKind", "values", "variation"] 3 j
  let contextKind ← Decode.fieldOr ms "contextKind" .user Decode.kind
  let values ← Decode.fieldOr ms "values" [] (Decode.list Decode.string)
  let variation ← Decode.field ms "variation" Decode.natural
  return ⟨contextKind, values, ← Decode.require "variation" variation⟩

/-- The fields of a rule that are no part of its outcome. -/
def FlagRule.ownFields : List String := ["id", "clauses", "trackEvents"]

/-- Reads a rule.  The outcome is made of all other fields. -/
def FlagRule.ofJson : Decoder FlagRule := fun j => do
  let ms ← Decode.members j
  let clauses ← Decode.listField ms "clauses" Clause.ofJson
  let id ← Decode.fieldOr ms "id" "" Decode.string
  let trackEvents ← Decode.fieldOr ms "trackEvents" false Decode.bool
  let outcome := Outcome.ofJson (.object (ms.filter fun m => !ownFields.contains m.1))
  return ⟨id, clauses, outcome, trackEvents⟩

/-- The names of the fields of a flag. -/
def Flag.fieldNames : List String :=
  ["key", "version", "deleted", "on", "prerequisites", "targets", "contextTargets", "rules",
    "fallthrough", "offVariation", "variations", "salt", "trackEvents", "trackEventsFallthrough",
    "debugEventsUntilDate"]

/-- Reads a flag.  Every field may be missing. -/
def Flag.ofJson : Decoder Flag := fun j => do
  let ms ← Decode.fields fieldNames 0 j
  let contextTargets ← Decode.listField ms "contextTargets" Target.ofJson
  let debugEventsUntilDate ← Decode.optionalField ms "debugEventsUntilDate" Decode.natural
  let deleted ← Decode.fieldOr ms "deleted" false Decode.bool
  let fallthrough ← Decode.fieldOr ms "fallthrough" (.malformed .null) fun j => .ok (.ofJson j)
  let key ← Decode.fieldOr ms "key" "" Decode.string
  let offVariation ← Decode.optionalField ms "offVariation" Decode.natural
  let on ← Decode.fieldOr ms "on" false Decode.bool
  let prerequisites ← Decode.listField ms "prerequisites" Prerequisite.ofJson
  let rules ← Decode.listField ms "rules" FlagRule.ofJson
  let salt ← Decode.fieldOr ms "salt" "" Decode.string
  let targets ← Decode.listField ms "targets" Target.ofJson
  let trackEvents ← Decode.fieldOr ms "trackEvents" false Decode.bool
  let trackEventsFallthrough ← Decode.fieldOr ms "trackEventsFallthrough" false Decode.bool
  let variations ← Decode.listField ms "variations" fun j => .ok (FlagValue.ofJson j)
  let version ← Decode.fieldOr ms "version" 0 Decode.natural
  return {
    key, version, deleted, on, prerequisites, targets, contextTargets, rules, fallthrough
    offVariation, variations, salt, trackEvents, trackEventsFallthrough, debugEventsUntilDate }

end FeatureFlags
