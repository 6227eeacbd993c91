import FeatureFlags.Proofs.Number.Arithmetic
import FeatureFlags.Proofs.Rollout.Range
import Mathlib.Control.Monad.Basic

/-!
# Weights of segments and of flags

A rule of a segment with a weight compares the bucket of the context with the share of the weight.  A
rollout adds the share to zero first, looks at its other entries if the bucket is not below the sum,
and never gives nothing.  A rollout of two entries, the first with the weight of the rule and the
second with any, is a way to say with a flag who is in a segment.  Both ways agree: the sum with zero
is the share again, as far as comparisons can tell, and a bucket that is not below it gets the second
entry, be it for the sum of both or because there is no other.

The two differ for a context without the kind that they go by.  It is not in the segment, but the
flag is malformed for it.

## What is here

* `weightShare_mono`: shares are in the order of weights.
* `less_add_weightShare`: the sum of a rollout after its first entry.
* `SegmentRule.evaluate_agrees`: the theorem.
-/

set_option autoImplicit false

namespace FeatureFlags

/-! ## Shares -/

theorem isDivisor_weightScale : weightScale.IsDivisor :=
  ⟨by decide, by decide, by decide⟩

/-- A weight that counts is a number. -/
theorem isNaN_of_atMost {x y : Single} (h : x.atMost y = true) : y.isNaN = false := by
  simp only [Binary.atMost, Bool.and_eq_true, Bool.not_eq_true'] at h
  exact h.1.2

/-- Shares are in the order of weights. -/
theorem weightShare_mono {v w : Single} (hv : (Binary.ofNat 0).atMost v = true)
    (h : v.atMost w = true) : (weightShare v).atMost (weightShare w) = true :=
  isDivisor_weightScale.div_mono hv h

/-- The first share that is added to nothing makes no other difference to a bucket than the share by
itself. -/
theorem less_add_weightShare {weight : Single} (h : weight.isNaN = false) (bucket : Single) :
    bucket.less ((Binary.ofNat 0).add (weightShare weight)) = bucket.less (weightShare weight) := by
  have hshare : (weightShare weight).isNaN = false := isDivisor_weightScale.isNaN_div h
  obtain ⟨hrank, hnan⟩ := Binary.rank_zero_add (by decide) hshare
  exact Binary.less_congr hrank (hnan.trans hshare.symm) bucket

/-! ## Contexts without a bucket -/

namespace Context

variable {c : Context} {kind : Kind} {reference : Option Reference} {salt : String}
  {isExperiment : Bool}

theorem bucket_eq_ok_none_iff :
    c.bucket kind reference salt isExperiment = .ok none ↔ c.entity? kind = none := by
  rw [bucket]
  cases c.entity? kind with
  | none => simp
  | some e =>
    cases hbucket : e.bucket reference salt isExperiment <;> simp [hbucket, Functor.map, Except.map]

/-- Nothing but an invalid reference that is followed is an error. -/
theorem bucket_eq_error_iff {e : EvalError} :
    c.bucket kind reference salt isExperiment = .error e ↔
      (c.entity? kind).isSome = true ∧ isExperiment = false ∧ ∃ r cause, reference = some r ∧
        r.error? = some cause ∧ e = .invalidReference r cause := by
  rw [bucket]
  cases c.entity? kind with
  | none => simp
  | some entity =>
    cases isExperiment with
    | true => simp [Entity.bucket.eq_def, Functor.map, Except.map]
    | false =>
      cases reference with
      | none => simp [Entity.bucket.eq_def, Functor.map, Except.map]
      | some r =>
        cases hpath : r.path <;>
          simp [Entity.bucket.eq_def, Reference.check, Reference.error?, hpath, bind, Except.bind,
            pure, Except.pure, Functor.map, Except.map, eq_comm]

end Context

/-! ## Two ways to take a share of the contexts -/

/-- The rollout that goes by what a rule of a segment goes by, and gives variation one to the share of
a weight and variation zero to the others. -/
def Rollout.sharing (r : SegmentRule) (weight rest : Single) (untracked untracked' : Bool) :
    Rollout where
  isExperiment := false
  contextKind := r.rolloutContextKind
  bucketBy := r.bucketBy
  variations := [⟨1, weight, untracked⟩, ⟨0, rest, untracked'⟩]
  seed := none

section

variable {r : SegmentRule} {weight : Single} {key salt : String} {c : Context}

/-- A rule with a weight that counts includes the contexts with buckets below its share. -/
theorem SegmentRule.includes_of_weight (hweight : r.weight = some weight)
    (hcounts : (Binary.ofNat 0).atMost weight = true) :
    r.includes key salt c =
      (c.bucket r.rolloutContextKind r.bucketBy (key ++ "." ++ salt) false).map fun bucket =>
        bucket.any fun b => b.less (weightShare weight) := by
  rw [includes, hweight]
  simp only [hcounts, if_true]
  cases c.bucket r.rolloutContextKind r.bucketBy (key ++ "." ++ salt) false <;> rfl

/-- The first entry gets the buckets below the share of its weight, and the second all others. -/
theorem Rollout.choose?_sharing (h : weight.isNaN = false) (rest : Single)
    (untracked untracked' : Bool) (bucket : Single) :
    (sharing r weight rest untracked untracked').choose? bucket =
      some (if bucket.less (weightShare weight) then ⟨1, weight, untracked⟩
        else ⟨0, rest, untracked'⟩) := by
  simp only [choose?, sharing, firstAbove?, less_add_weightShare h]
  split
  · rfl
  · split <;> rfl

/-- A rollout of two entries selects by the same bucket as the rule. -/
theorem Outcome.select_sharing (h : weight.isNaN = false) (rest : Single)
    (untracked untracked' : Bool) :
    (rollout (.sharing r weight rest untracked untracked')).select key salt c =
      match c.bucket r.rolloutContextKind r.bucketBy (key ++ "." ++ salt) false with
      | .error e => .error e
      | .ok none => .error (.missingContextKind r.rolloutContextKind)
      | .ok (some bucket) =>
        .ok ⟨if bucket.less (weightShare weight) then 1 else 0, false⟩ := by
  have hsalt : (Rollout.sharing r weight rest untracked untracked').saltText key salt =
      key ++ "." ++ salt := rfl
  rw [select]
  simp only [hsalt, Rollout.choose?_sharing h]
  simp only [Rollout.sharing, List.isEmpty_cons, Bool.false_eq_true, if_false, Bool.false_and]
  rcases c.bucket r.rolloutContextKind r.bucketBy (key ++ "." ++ salt) false with e | _ | bucket
  · rfl
  · rfl
  · simp only [apply_ite WeightedVariation.variation]

end

/-- **Segments and rollouts agree on who is in.**  Take a rule without clauses and with a weight that
counts, and a rollout that gives variation one to its share of the contexts, in a segment and a flag
with the same key and salt.  For a context with the kind that they go by, the rule matches just if
the rollout selects variation one, and otherwise it selects variation zero; one of them fails just if
the other does, with the same error, which is that of an invalid reference.  For a context without
the kind the rule does not match, and the rollout fails. -/
theorem SegmentRule.evaluate_agrees (env : Environment) (inSegment : String → Eval Bool)
    (key salt : String) (r : SegmentRule) (weight rest : Single) (untracked untracked' : Bool)
    (s : Scope) (hclauses : r.clauses = []) (hweight : r.weight = some weight)
    (hcounts : (Binary.ofNat 0).atMost weight = true) :
    let evaluated := r.evaluate env inSegment key salt s
    let selected :=
      (Outcome.rollout (.sharing r weight rest untracked untracked')).select key salt env.context
    evaluated.2 = s ∧
    ((env.context.entity? r.rolloutContextKind).isSome = true →
      (evaluated.1 = .ok true ↔ selected = .ok ⟨1, false⟩) ∧
      (evaluated.1 = .ok false ↔ selected = .ok ⟨0, false⟩) ∧
      (∀ e, evaluated.1 = .error e ↔ selected = .error e) ∧
      ∀ e, evaluated.1 = .error e ↔ ∃ reference cause, r.bucketBy = some reference ∧
        reference.error? = some cause ∧ e = .invalidReference reference cause) ∧
    (env.context.entity? r.rolloutContextKind = none →
      evaluated.1 = .ok false ∧ selected = .error (.missingContextKind r.rolloutContextKind)) := by
  intro evaluated selected
  have hevaluated : evaluated = (r.includes key salt env.context, s) := by
    simp only [evaluated, evaluate, hclauses]
    rfl
  have hselected : selected = _ := Outcome.select_sharing (isNaN_of_atMost hcounts) rest untracked
    untracked'
  rw [hevaluated, hselected, includes_of_weight hweight hcounts]
  refine ⟨rfl, fun hkind => ?_, fun hkind => ?_⟩
  · have hcause (e : EvalError) : env.context.bucket r.rolloutContextKind r.bucketBy
        (key ++ "." ++ salt) false = .error e ↔ ∃ reference cause,
          r.bucketBy = some reference ∧ reference.error? = some cause ∧
            e = .invalidReference reference cause := by
      rw [Context.bucket_eq_error_iff]
      simp only [hkind, true_and]
    rcases hbucket : env.context.bucket r.rolloutContextKind r.bucketBy (key ++ "." ++ salt) false
      with e | _ | bucket
    · rw [hbucket] at hcause
      refine ⟨?_, ?_, fun e' => ?_, fun e' => ?_⟩
      · simp [Except.map]
      · simp [Except.map]
      · simp [Except.map]
      · simpa [Except.map] using hcause e'
    · rw [Context.bucket_eq_ok_none_iff.1 hbucket] at hkind
      cases hkind
    · rw [hbucket] at hcause
      refine ⟨?_, ?_, fun e => ?_, fun e => ?_⟩
      · cases bucket.less (weightShare weight) <;> simp [Except.map]
      · cases bucket.less (weightShare weight) <;> simp [Except.map]
      · simp [Except.map]
      · simpa [Except.map] using hcause e
  · rw [Context.bucket_eq_ok_none_iff.2 hkind]
    exact ⟨rfl, rfl⟩

/-- The rule of a segment for half of the users, by a reference or by their keys. -/
def SegmentRule.forHalf (bucketBy : Option Reference) : SegmentRule :=
  ⟨[], some (Binary.ofNat 50000), bucketBy, .user⟩

/-- One user is in the half and another one is not, and an invalid reference is an error, even beside
a weight that is not a number. -/
theorem SegmentRule.evaluate_agrees_half :
    let evaluated user bucketBy := ((SegmentRule.forHalf bucketBy).evaluate (.forUser user)
      (fun _ => Eval.fail .tooDeep) "beta" "pepper" .empty).1
    let selected user bucketBy := (Outcome.rollout (.sharing (.forHalf bucketBy) (Binary.ofNat 50000)
      .nan false false)).select "beta" "pepper" (.ofUserKey user)
    (Binary.ofNat 0 : Single).atMost (Binary.ofNat 50000) = true ∧
      evaluated "u" none = .ok true ∧ selected "u" none = .ok ⟨1, false⟩ ∧
      evaluated "v" none = .ok false ∧ selected "v" none = .ok ⟨0, false⟩ ∧
      evaluated "u" (some ⟨"/"⟩) = .error (.invalidReference ⟨"/"⟩ .empty) ∧
      selected "u" (some ⟨"/"⟩) = .error (.invalidReference ⟨"/"⟩ .empty) := by
  intro evaluated selected
  have hcounts : (Binary.ofNat 0 : Single).atMost (Binary.ofNat 50000) = true := by decide
  have hagrees (user : String) (bucketBy : Option Reference) :=
    (SegmentRule.evaluate_agrees (.forUser user) (fun _ => Eval.fail .tooDeep) "beta" "pepper"
      (.forHalf bucketBy) (Binary.ofNat 50000) .nan false false .empty rfl rfl hcounts).2.1 rfl
  have hincluded : evaluated "u" none = .ok true := by decide +kernel
  have hexcluded : evaluated "v" none = .ok false := by decide +kernel
  have hfails : evaluated "u" (some ⟨"/"⟩) = .error (.invalidReference ⟨"/"⟩ .empty) :=
    ((hagrees "u" (some ⟨"/"⟩)).2.2.2 _).2 ⟨_, _, rfl, by decide, rfl⟩
  exact ⟨hcounts, hincluded, (hagrees "u" none).1.1 hincluded, hexcluded,
    (hagrees "v" none).2.1.1 hexcluded, hfails, ((hagrees "u" (some ⟨"/"⟩)).2.2.1 _).1 hfails⟩

end FeatureFlags
