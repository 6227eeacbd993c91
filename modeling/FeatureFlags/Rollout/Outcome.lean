import FeatureFlags.Decoding
import FeatureFlags.Rollout.Bucket

/-!
# Outcomes

What a rule or the fallthrough of a flag serves: a fixed variation, or a rollout that spreads
contexts over variations by weight.  Data that is neither is kept, and fails only when used.

## What is here

* `Rollout`, `Outcome`: the types, read by `Rollout.ofJson` and `Outcome.ofJson`.
* `Rollout.choose`: the entry of a rollout for a bucket.
* `Outcome.select`: the variation of an outcome for a context.
-/

set_option autoImplicit false

namespace FeatureFlags

/-! ## Rollouts -/

/-- A variation with its weight.  An untracked entry is no part of an experiment. -/
structure WeightedVariation where
  variation : Nat
  weight : Single
  untracked : Bool

/-- A rollout: entries with their weights, and how entities are put into buckets. -/
structure Rollout where
  isExperiment : Bool
  contextKind : Kind
  bucketBy : Option Reference
  variations : List WeightedVariation
  seed : Option Int

/-- Whether two entries are equal, weights compared numerically. -/
def WeightedVariation.equal (a b : WeightedVariation) : Bool :=
  a.variation == b.variation && a.weight.equal b.weight && a.untracked == b.untracked

namespace Rollout

/-- Whether two rollouts are equal. -/
def equal (a b : Rollout) : Bool :=
  a.isExperiment == b.isExperiment && a.contextKind == b.contextKind &&
    a.bucketBy == b.bucketBy && a.seed == b.seed &&
    a.variations.length == b.variations.length &&
    (a.variations.zip b.variations).all fun pair => pair.1.equal pair.2

/-- The first entry whose weight, added to the share of the entries before it, exceeds a bucket. -/
def firstAbove? (bucket : Single) : Single → List WeightedVariation → Option WeightedVariation
  | _, [] => none
  | share, entry :: rest =>
    let share := share.add (weightShare entry.weight)
    if bucket.less share then some entry else firstAbove? bucket share rest

/-- The entry for a bucket.  A bucket above the sum of all weights gets the last entry. -/
def choose? (r : Rollout) (bucket : Single) : Option WeightedVariation :=
  firstAbove? bucket (Binary.ofNat 0) r.variations <|> r.variations.getLast?

/-- The salt of a rollout: its seed, or else the key and the salt of the flag. -/
def saltText (r : Rollout) (key salt : String) : String :=
  r.seed.elim (key ++ "." ++ salt) toString

end Rollout

/-! ## Outcomes -/

/-- What a rule or the fallthrough of a flag serves. -/
inductive Outcome where
  | fixed (variation : Nat)
  | rollout (r : Rollout)
  | malformed (data : Json)

/-- A variation, and whether it was selected by a tracked part of an experiment. -/
structure Selection where
  variation : Nat
  inExperiment : Bool
  deriving DecidableEq

namespace Outcome

/-- Whether two outcomes are equal. -/
def equal : Outcome → Outcome → Bool
  | fixed m, fixed n => m == n
  | rollout a, rollout b => a.equal b
  | malformed j, malformed k => j.equal k
  | _, _ => false

/-- The variation for a context, in a flag with the given key and salt. -/
def select (o : Outcome) (key salt : String) (c : Context) : Except EvalError Selection :=
  match o with
  | fixed n => .ok ⟨n, false⟩
  | malformed _ => .error .missingVariation
  | rollout r =>
    if r.variations.isEmpty then .error .missingVariation
    else
      match c.bucket r.contextKind r.bucketBy (r.saltText key salt) r.isExperiment with
      | .error e => .error e
      | .ok none => .error (.missingContextKind r.contextKind)
      | .ok (some bucket) =>
        match r.choose? bucket with
        | none => .error .missingVariation
        | some entry => .ok ⟨entry.variation, r.isExperiment && !entry.untracked⟩

end Outcome

/-! ## Reading -/

/-- Reads an entry of a rollout. -/
def WeightedVariation.ofJson : Decoder WeightedVariation := fun j => do
  let ms ← Decode.fields ["variation", "weight", "untracked"] 2 j
  let untracked ← Decode.fieldOr ms "untracked" false Decode.bool
  let variation ← Decode.field ms "variation" Decode.natural
  let weight ← Decode.field ms "weight" Decode.single
  return ⟨← Decode.require "variation" variation, ← Decode.require "weight" weight, untracked⟩

/-- Whether a kind of rollout is that of experiments. -/
def Rollout.experimentOfName? : String → Option Bool
  | "rollout" => some false
  | "experiment" => some true
  | _ => none

/-- Reads a rollout. -/
def Rollout.ofJson : Decoder Rollout := fun j => do
  let ms ← Decode.fields ["kind", "contextKind", "bucketBy", "variations", "seed"] 5 j
  let bucketBy ← Decode.optionalField ms "bucketBy" Decode.string
  let contextKind ← Decode.optionalField ms "contextKind" Decode.kind
  let isExperiment ← Decode.fieldOr ms "kind" false (Decode.named experimentOfName?)
  let seed ← Decode.optionalField ms "seed" Decode.integer
  let variations ← Decode.field ms "variations" (Decode.list WeightedVariation.ofJson)
  return {
    isExperiment
    contextKind := contextKind.getD .user
    bucketBy := bucketBy.map fun name => .ofFlagData name contextKind.isSome
    variations := ← Decode.require "variations" variations
    seed }

/-- The outcome of a JSON value.  A variation counts before a rollout. -/
def Outcome.ofJson (j : Json) : Outcome :=
  match (j.find? "variation").map Decode.natural, (j.find? "rollout").map Rollout.ofJson with
  | some (.ok n), _ => .fixed n
  | _, some (.ok r) => .rollout r
  | _, _ => .malformed j

end FeatureFlags
