import FeatureFlags.Rollout.Bucket
import FeatureFlags.Rule.Clause

/-!
# Segments

A segment is a set of contexts that rules can refer to by its key.  It lists the keys of entities
that belong to it and of those that do not, and decides about the others by rules.  The keys of an
unbounded segment are held by a store of big segments instead.

## What is here

* `Segment`, `SegmentRule`, `SegmentTarget`, read by `Segment.ofJson`.
* `Segment.listing?`: what the lists of a segment say of a context.
* `SegmentRule.includes`: whether the weight of a rule includes a context.
-/

set_option autoImplicit false

namespace FeatureFlags

/-- Keys of entities of one kind. -/
structure SegmentTarget where
  contextKind : Kind
  values : List String

/-- A rule of a segment.  A rule with a weight includes only that share of the contexts. -/
structure SegmentRule where
  clauses : List Clause
  weight : Option Single
  bucketBy : Option Reference
  rolloutContextKind : Kind

/-- A set of contexts. -/
structure Segment where
  key : String
  version : Nat
  deleted : Bool
  included : List String
  excluded : List String
  includedContexts : List SegmentTarget
  excludedContexts : List SegmentTarget
  rules : List SegmentRule
  salt : String
  unbounded : Bool
  unboundedContextKind : Kind
  generation : Option Int

/-! ## Membership -/

/-- Whether a target lists the key of the context's entity of its kind. -/
def SegmentTarget.contains (t : SegmentTarget) (c : Context) : Bool :=
  (c.entity? t.contextKind).any fun e => t.values.contains e.key

/-- Whether keys of users, or targets, list a context. -/
def listsContext (userKeys : List String) (targets : List SegmentTarget) (c : Context) : Bool :=
  (SegmentTarget.mk .user userKeys).contains c || targets.any (·.contains c)

/-- Whether the weight of a rule includes a context, in a segment with the given key and salt.  A
missing or negative weight includes every context. -/
def SegmentRule.includes (r : SegmentRule) (key salt : String) (c : Context) :
    Except EvalError Bool :=
  match r.weight with
  | none => .ok true
  | some weight =>
    if (Binary.ofNat 0).atMost weight then do
      let bucket ← c.bucket r.rolloutContextKind r.bucketBy (key ++ "." ++ salt) false
      return bucket.any fun b => b.less (weightShare weight)
    else .ok true

namespace Segment

/-- What the lists of a segment say of a context, if anything. -/
def listing? (s : Segment) (c : Context) : Option Bool :=
  if listsContext s.included s.includedContexts c then some true
  else if listsContext s.excluded s.excludedContexts c then some false
  else none

/-- The reference under which a store of big segments holds a segment.  It names the generation,
without which a segment cannot be looked up. -/
def storeReference? (s : Segment) : Option String :=
  s.generation.map fun generation => s.key ++ ".g" ++ toString generation

/-- Whether one segment has a later version than another. -/
def isNewerThan (s t : Segment) : Bool := decide (t.version < s.version)

end Segment

/-! ## Reading -/

/-- Reads a target of a segment. -/
def SegmentTarget.ofJson : Decoder SegmentTarget := fun j => do
  let ms ← Decode.fields ["contextKind", "values"] 0 j
  let contextKind ← Decode.fieldOr ms "contextKind" .user Decode.kind
  let values ← Decode.fieldOr ms "values" [] (Decode.list Decode.string)
  return ⟨contextKind, values⟩

/-- Reads a rule of a segment. -/
def SegmentRule.ofJson : Decoder SegmentRule := fun j => do
  let ms ← Decode.fields ["clauses", "weight", "bucketBy", "rolloutContextKind"] 0 j
  let bucketBy ← Decode.optionalField ms "bucketBy" Decode.string
  let clauses ← Decode.listField ms "clauses" Clause.ofJson
  let rolloutContextKind ← Decode.optionalField ms "rolloutContextKind" Decode.kind
  let weight ← Decode.optionalField ms "weight" Decode.single
  return {
    clauses
    weight
    bucketBy := bucketBy.map fun name => .ofFlagData name rolloutContextKind.isSome
    rolloutContextKind := rolloutContextKind.getD .user }

/-- The names of the fields of a segment. -/
def Segment.fieldNames : List String :=
  ["key", "version", "deleted", "included", "excluded", "includedContexts", "excludedContexts",
    "rules", "salt", "unbounded", "unboundedContextKind", "generation"]

/-- Reads a segment.  Every field may be missing. -/
def Segment.ofJson : Decoder Segment := fun j => do
  let ms ← Decode.fields fieldNames 0 j
  let deleted ← Decode.fieldOr ms "deleted" false Decode.bool
  let excluded ← Decode.listField ms "excluded" Decode.string
  let excludedContexts ← Decode.listField ms "excludedContexts" SegmentTarget.ofJson
  let generation ← Decode.optionalField ms "generation" Decode.integer
  let included ← Decode.listField ms "included" Decode.string
  let includedContexts ← Decode.listField ms "includedContexts" SegmentTarget.ofJson
  let key ← Decode.fieldOr ms "key" "" Decode.string
  let rules ← Decode.listField ms "rules" SegmentRule.ofJson
  let salt ← Decode.fieldOr ms "salt" "" Decode.string
  let unbounded ← Decode.fieldOr ms "unbounded" false Decode.bool
  let unboundedContextKind ← Decode.fieldOr ms "unboundedContextKind" .user Decode.kind
  let version ← Decode.fieldOr ms "version" 0 Decode.natural
  return {
    key, version, deleted, included, excluded, includedContexts, excludedContexts, rules, salt
    unbounded, unboundedContextKind, generation }

end FeatureFlags
