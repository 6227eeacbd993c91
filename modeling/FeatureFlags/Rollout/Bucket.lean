import FeatureFlags.Context.Basic
import FeatureFlags.Digest.Sha1
import FeatureFlags.Evaluation.Error

/-!
# Buckets

An entity is put into a bucket, a number from zero to one that is fixed by a salt and a value of
the entity and otherwise as good as random.  It is the quotient of the first sixty bits of a
digest, rounded, and the greatest such number, rounded.

## What is here

* `bucketOfText`: the bucket of a text under a salt.
* `Context.bucket`: the bucket of the entity of a kind.
-/

set_option autoImplicit false

namespace FeatureFlags

/-- How many bits of a digest make a bucket. -/
def bucketBits : Nat := 60

/-- The number by which the leading bits of a digest are divided. -/
def bucketScale : Single := Binary.ofNat (Nat.pow 2 bucketBits - 1)

/-- The bucket of leading bits. -/
def bucketOfBits (bits : Nat) : Single := (Binary.ofNat bits : Single).div bucketScale

/-- The bucket of a text under a salt. -/
def bucketOfText (salt text : String) : Single :=
  bucketOfBits (Digest.Sha1.leading bucketBits (salt ++ "." ++ text))

/-- The text by which an entity is put into a bucket, given the value to go by.  The secondary key
counts as part of it. -/
def bucketText? (value : Option AttributeValue) (secondary : Option String) : Option String :=
  (value.bind AttributeValue.bucketText?).map fun id =>
    secondary.elim id fun s => id ++ "." ++ s

/-- The bucket for a value.  What has no text is put into the lowest bucket. -/
def bucketOfValue (salt : String) (value : Option AttributeValue) (secondary : Option String) :
    Single :=
  (bucketText? value secondary).elim (Binary.ofNat 0) (bucketOfText salt)

/-- The bucket of an entity by the value of a reference, or by its key.  An experiment always goes
by the key alone. -/
def Entity.bucket (e : Entity) (reference : Option Reference) (salt : String) (isExperiment : Bool) :
    Except EvalError Single :=
  match isExperiment, reference with
  | true, _ => .ok (bucketOfValue salt (some (.string e.key)) none)
  | false, none => .ok (bucketOfValue salt (some (.string e.key)) e.secondary)
  | false, some r => do
    r.check
    return bucketOfValue salt (e.value? r) e.secondary

/-- The bucket of the entity of a kind, if the context has one. -/
def Context.bucket (c : Context) (kind : Kind) (reference : Option Reference) (salt : String)
    (isExperiment : Bool) : Except EvalError (Option Single) :=
  match c.entity? kind with
  | none => .ok none
  | some e => some <$> e.bucket reference salt isExperiment

/-- Weights are given in this many parts of the whole. -/
def weightScale : Single := Binary.ofNat 100000

/-- A weight as a part of the whole. -/
def weightShare (weight : Single) : Single := weight.div weightScale

end FeatureFlags
