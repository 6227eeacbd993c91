import FeatureFlags.Evaluation.Membership
import FeatureFlags.Proofs.Attribute.Escaping

/-!
# Clauses and their opposites

A clause and the same clause negated do not simply split the contexts among them.  They do so where
there is something to compare, and the ways of deciding a clause differ in when this is so.

A clause that names segments always splits, unless it fails.  A clause on the attribute `kind`
always splits as well, since every context has a kind, or several.  Any other clause has to find a
value of the entity of its kind first.  If there is none, or if it is null, then neither the clause
nor its opposite holds: nothing is compared, and negation has nothing to turn around.  A value to
which no comparison applies is another matter.  An empty list, or an operator that nobody knows, is
a comparison that is not met, and so the negated clause holds.

What fails is a reference or a segment, and negation looks at neither.

## What is here

* `Clause.flipped`: the clause with negation the other way round.
* `Clause.judge_flipped`, `evaluate_of_segments`: the two ways of deciding it.
* `Clause.value?`, `AttributeValue.parts`: what a clause finds, and what of it is compared.
* `Clause.Splits`, `Clause.negation_splits`: the theorem.
-/

set_option autoImplicit false

namespace FeatureFlags

/-- The values that a value is compared by: the elements of a list, or else the value itself. -/
def AttributeValue.parts : AttributeValue → List AttributeValue
  | array items => items
  | v => [v]

namespace Clause

variable {env : Environment} {inSegment : String → Eval Bool} {clause : Clause} {c : Context}
  {s : Scope}

/-! ## Deciding a clause -/

/-- A clause that names segments fails or holds as the search among them does. -/
theorem evaluate_of_segments (h : clause.op = .segmentMatch) :
    clause.evaluate env inSegment s =
      ((Eval.any inSegment clause.segmentKeys s).1.map clause.result,
        (Eval.any inSegment clause.segmentKeys s).2) := by
  simp only [evaluate, if_pos h, bind, Eval.bind]
  rcases Eval.any inSegment clause.segmentKeys s with ⟨result, t⟩
  cases result <;> rfl

/-- Any other clause is judged, and its remarks are all that is left behind. -/
theorem evaluate_of_comparisons (h : clause.op ≠ .segmentMatch) :
    clause.evaluate env inSegment s = match clause.judge env.context with
      | .ok (holds, remarks) => (.ok holds, { s with warnings := s.warnings ++ remarks })
      | .error e => (.error e, s) := by
  simp only [evaluate, if_neg h, bind, Eval.bind, Eval.ofExcept]
  cases clause.judge env.context <;> rfl

/-- Its answer does not depend on the scope. -/
theorem fst_evaluate (h : clause.op ≠ .segmentMatch) :
    (clause.evaluate env inSegment s).1 = clause.holds env.context := by
  rw [evaluate_of_comparisons h, ← fst_judge]
  cases clause.judge env.context <;> rfl

/-- It leaves nothing but warnings in the scope. -/
theorem exists_snd_evaluate (env : Environment) (inSegment : String → Eval Bool)
    (h : clause.op ≠ .segmentMatch) (s : Scope) :
    ∃ warnings, (clause.evaluate env inSegment s).2 = { s with warnings } := by
  rw [evaluate_of_comparisons h]
  cases clause.judge env.context with
  | ok judgement => exact ⟨_, rfl⟩
  | error e => exact ⟨s.warnings, rfl⟩

/-! ## What a clause compares -/

/-- The value that a clause finds: that of its reference in the entity of its kind. -/
def value? (clause : Clause) (c : Context) : Option AttributeValue :=
  (c.entity? clause.contextKind).bind (·.value? clause.reference)

/-- Some comparison of one of the given values is met. -/
def Meets (clause : Clause) (subjects : List AttributeValue) : Prop :=
  ∃ v ∈ subjects, ∃ w ∈ clause.values, clause.op.test v w = true

theorem anyMatch_eq_true_iff {subjects : List AttributeValue} :
    clause.anyMatch subjects = true ↔ clause.Meets subjects := by
  simp [anyMatch, Meets]

theorem subjects_of_isKind (h : clause.reference.isKind = true) :
    clause.subjects c = some (c.kinds.map fun k => .string k.name) := if_pos h

/-- Where nothing is found, or null, there is nothing to compare. -/
theorem subjects_of_absent (h : clause.reference.isKind = false)
    (habsent : clause.value? c = none ∨ clause.value? c = some .null) :
    clause.subjects c = none := by
  rw [value?] at habsent
  rw [subjects, if_neg (by simp [h])]
  rcases habsent with hnone | hnull
  · rw [hnone]
  · rw [hnull]

theorem subjects_of_value {v : AttributeValue} (h : clause.reference.isKind = false)
    (hv : clause.value? c = some v) (hnull : v ≠ .null) : clause.subjects c = some v.parts := by
  rw [value?] at hv
  rw [subjects, if_neg (by simp [h]), hv]
  cases v with
  | null => exact absurd rfl hnull
  | _ => rfl

/-! ## Results -/

/-- An invalid reference is an error, whatever there is to compare. -/
theorem holds_of_invalid {e : ReferenceError} (h : clause.reference.path = .error e) :
    clause.holds c = .error (.invalidReference clause.reference e) := by
  rw [holds, Reference.check, h]
  rfl

theorem holds_of_valid (h : clause.reference.isValid = true) :
    clause.holds c = .ok (match clause.subjects c with
      | none => false
      | some subjects => clause.result (clause.anyMatch subjects)) := by
  obtain ⟨components, hpath⟩ := Reference.isValid_iff.1 h
  rw [holds, Reference.check, hpath]
  rfl

/-! ## The opposite -/

/-- The same clause with negation the other way round. -/
def flipped (clause : Clause) : Clause := { clause with negate := !clause.negate }

theorem result_flipped (matched : Bool) :
    clause.flipped.result matched = !clause.result matched := by
  simp [flipped, result]

/-- The opposite is judged by the same comparisons.  If there are any, it has the other answer. -/
theorem judge_flipped :
    clause.flipped.judge c = (clause.judge c).map fun judgement =>
      (if (clause.subjects c).isSome then !judgement.1 else judgement.1, judgement.2) := by
  have hsubjects : clause.flipped.subjects c = clause.subjects c := rfl
  simp only [judge, hsubjects, result_flipped]
  change (clause.reference.check >>= _) = _
  cases clause.reference.check with
  | error e => rfl
  | ok u => cases clause.subjects c <;> rfl

/-- The opposite leaves the same scope behind. -/
theorem snd_evaluate_flipped :
    (clause.flipped.evaluate env inSegment s).2 = (clause.evaluate env inSegment s).2 := by
  have hsame : clause.flipped.op = clause.op := rfl
  by_cases hop : clause.op = .segmentMatch
  · rw [evaluate_of_segments hop, evaluate_of_segments (hsame.trans hop)]
    rfl
  · rw [evaluate_of_comparisons hop, evaluate_of_comparisons (hsame ▸ hop), judge_flipped]
    cases clause.judge env.context <;> rfl

/-! ## Splitting -/

/-- Exactly one of a clause and its opposite holds: the one that is not negated if something is met,
and the negated one otherwise. -/
def Splits (clause : Clause) (met : Prop) (result opposite : Except EvalError Bool) : Prop :=
  ∃ holds, result = .ok holds ∧ opposite = .ok (!holds) ∧
    (holds = true ↔ (met ↔ clause.negate = false))

theorem result_eq_true_iff {matched : Bool} :
    clause.result matched = true ↔ (matched = true ↔ clause.negate = false) := by
  cases hnegate : clause.negate <;> cases matched <;> simp [result, hnegate]

/-- Where there is something to compare, exactly one of a clause and its opposite holds. -/
theorem splits_of_subjects (h : clause.reference.isValid = true) {subjects : List AttributeValue}
    (hsubjects : clause.subjects c = some subjects) :
    clause.Splits (clause.Meets subjects) (clause.holds c) (clause.flipped.holds c) := by
  have hvalid : clause.flipped.reference.isValid = true := h
  have hflipped : clause.flipped.subjects c = some subjects := hsubjects
  rw [holds_of_valid h, holds_of_valid hvalid, hsubjects, hflipped]
  refine ⟨_, rfl, ?_, ?_⟩
  · simp only [result_flipped]
    rfl
  · rw [result_eq_true_iff, anyMatch_eq_true_iff]

/-- A reference that is invalid has no components, so it is not that of the kind. -/
theorem isValid_of_isKind (h : clause.reference.isKind = true) :
    clause.reference.isValid = true := by
  rw [Reference.isKind, Reference.components] at h
  cases hpath : clause.reference.path with
  | ok components => exact Reference.isValid_iff.2 ⟨components, hpath⟩
  | error e => simp [hpath] at h

/-- Search among segments that fails does so for both, and otherwise exactly one holds. -/
theorem splits_of_segments (h : clause.op = .segmentMatch) :
    let result := (clause.evaluate env inSegment s).1
    let opposite := (clause.flipped.evaluate env inSegment s).1
    (∃ e, result = .error e ∧ opposite = .error e) ∨
      clause.Splits ((Eval.any inSegment clause.segmentKeys s).1 = .ok true) result opposite := by
  have hop : clause.flipped.op = .segmentMatch := h
  have hkeys : clause.flipped.segmentKeys = clause.segmentKeys := rfl
  simp only [evaluate_of_segments h, evaluate_of_segments hop, hkeys]
  cases (Eval.any inSegment clause.segmentKeys s).1 with
  | error e => exact Or.inl ⟨e, rfl, rfl⟩
  | ok matched =>
    refine Or.inr ⟨clause.result matched, rfl, ?_, ?_⟩
    · rw [← result_flipped]
      rfl
    · simp [result_eq_true_iff]

/-- **Negation is complement where there is something to compare.**  Take a clause and its opposite,
whatever decides segments and from whatever scope.  They leave the same scope behind.

If the clause names segments, both fail alike or exactly one holds.  If it does not, and its
reference is invalid, both fail alike.  If it is on the kind, exactly one holds, namely the one that
is not negated if some comparison with some kind of the context is met.  Otherwise exactly one holds
if the clause finds a value that is not null, namely the one that is not negated if some comparison
with a part of the value is met; and neither holds if the context has no entity of the kind, or if
what is found there is nothing or null. -/
theorem negation_splits (env : Environment) (inSegment : String → Eval Bool) (clause : Clause)
    (s : Scope) :
    let result := (clause.evaluate env inSegment s).1
    let opposite := (clause.flipped.evaluate env inSegment s).1
    (clause.flipped.evaluate env inSegment s).2 = (clause.evaluate env inSegment s).2 ∧
    (clause.op = .segmentMatch → (∃ e, result = .error e ∧ opposite = .error e) ∨
      clause.Splits ((Eval.any inSegment clause.segmentKeys s).1 = .ok true) result opposite) ∧
    (clause.op ≠ .segmentMatch →
      (clause.reference.isValid = false → ∃ e, clause.reference.path = .error e ∧
        result = .error (.invalidReference clause.reference e) ∧ opposite = result) ∧
      (clause.reference.isKind = true → clause.Splits
        (clause.Meets (env.context.kinds.map fun kind => .string kind.name)) result opposite) ∧
      (clause.reference.isValid = true → clause.reference.isKind = false →
        (∀ e v, env.context.entity? clause.contextKind = some e →
          e.value? clause.reference = some v → v ≠ .null →
          clause.Splits (clause.Meets v.parts) result opposite) ∧
        (env.context.entity? clause.contextKind = none →
          result = .ok false ∧ opposite = .ok false) ∧
        ∀ e, env.context.entity? clause.contextKind = some e →
          e.value? clause.reference = none ∨ e.value? clause.reference = some .null →
          result = .ok false ∧ opposite = .ok false)) := by
  intro result opposite
  refine ⟨snd_evaluate_flipped, splits_of_segments, fun hop => ?_⟩
  have hflipped : clause.flipped.op ≠ .segmentMatch := hop
  have hresult : result = clause.holds env.context := fst_evaluate hop
  have hopposite : opposite = clause.flipped.holds env.context := fst_evaluate hflipped
  rw [hresult, hopposite]
  refine ⟨fun hinvalid => ?_, fun hkind => ?_, fun hvalid hkind => ?_⟩
  · cases hpath : clause.reference.path with
    | ok components => simp [Reference.isValid_iff.2 ⟨components, hpath⟩] at hinvalid
    | error e =>
      have hopposite : clause.flipped.holds env.context = _ := holds_of_invalid hpath
      exact ⟨e, rfl, holds_of_invalid hpath, hopposite.trans (holds_of_invalid hpath).symm⟩
  · exact splits_of_subjects (isValid_of_isKind hkind) (subjects_of_isKind hkind)
  · have habsent (h : clause.value? env.context = none ∨ clause.value? env.context = some .null) :
        clause.holds env.context = .ok false ∧ clause.flipped.holds env.context = .ok false := by
      have hnone := subjects_of_absent hkind h
      have hopposite : clause.flipped.subjects env.context = none := hnone
      have hvalid' : clause.flipped.reference.isValid = true := hvalid
      rw [holds_of_valid hvalid, holds_of_valid hvalid', hnone, hopposite]
      exact ⟨rfl, rfl⟩
    refine ⟨fun e v he hv hnull => ?_, fun he => habsent ?_, fun e he hv => habsent ?_⟩
    · have hvalue : clause.value? env.context = some v := by rw [value?, he, Option.bind_some, hv]
      exact splits_of_subjects hvalid (subjects_of_value hkind hvalue hnull)
    · exact Or.inl (by rw [value?, he, Option.bind_none])
    · rwa [value?, he, Option.bind_some]

/-- The clause that compares an attribute of the user in a way that nobody knows. -/
def asking (text : String) : Clause where
  contextKind := .user
  reference := ⟨text⟩
  negate := false
  op := .unknown
  values := [.null]

end Clause

/-- A user without tags, in a city that is not known. -/
def Entity.untagged : Entity where
  kind := .user
  key := "u"
  name := none
  anonymous := false
  secondary := none
  attributes := .ofList [("address", .object [("city", .null)]), ("tags", .array [])]

/-- There is nothing among the tags, which is not the same as no tags. -/
theorem Clause.negation_splits_untagged :
    let env : Environment := ⟨.ofDataset .empty, none, .single .untagged⟩
    let given text := ((Clause.asking text).evaluate env (env.inSegment 0) .empty).1
    let opposite text := ((Clause.asking text).flipped.evaluate env (env.inSegment 0) .empty).1
    (given "tags" = .ok false ∧ opposite "tags" = .ok true) ∧
      (given "/address/city" = .ok false ∧ opposite "/address/city" = .ok false) ∧
      (given "address" = .ok false ∧ opposite "address" = .ok true) ∧
      (given "kind" = .ok false ∧ opposite "kind" = .ok true) ∧
      opposite "/address//city" =
        .error (.invalidReference ⟨"/address//city"⟩ .emptyComponent) := by
  intro env given opposite
  have hsplits (text : String) :=
    (Clause.negation_splits env (env.inSegment 0) (.asking text) .empty).2.2
      (by simp [Clause.asking])
  have hunmet {result other : Except EvalError Bool} {text : String}
      {subjects : List AttributeValue}
      (h : (Clause.asking text).Splits ((Clause.asking text).Meets subjects) result other) :
      result = .ok false ∧ other = .ok true := by
    obtain ⟨holds, hresult, hother, hholds⟩ := h
    have hno : ¬ (Clause.asking text).Meets subjects := by
      simp [Clause.Meets, Clause.asking, Operator.test]
    cases holds with
    | true => exact absurd ((hholds.1 rfl).2 rfl) hno
    | false => exact ⟨hresult, hother⟩
  have hvalid : ∀ text ∈ ["tags", "/address/city", "address"],
      (Clause.asking text).reference.isValid = true ∧
        (Clause.asking text).reference.isKind = false := by decide +kernel
  have hvalue (text : String) (h : text ∈ ["tags", "/address/city", "address"]) :=
    (hsplits text).2.2 (hvalid text h).1 (hvalid text h).2
  refine ⟨hunmet ((hvalue "tags" (by simp)).1 _ _ rfl rfl (by simp)),
    (hvalue "/address/city" (by simp)).2.2 _ rfl (Or.inr rfl),
    hunmet ((hvalue "address" (by simp)).1 _ _ rfl rfl (by simp)),
    hunmet ((hsplits "kind").2.1 (by decide +kernel)), ?_⟩
  obtain ⟨e, hpath, hresult, hopposite⟩ := (hsplits "/address//city").1 (by decide +kernel)
  have he : (Clause.asking "/address//city").reference.path = .error .emptyComponent := rfl
  obtain rfl : .emptyComponent = e := Except.error.inj (he.symm.trans hpath)
  exact hopposite.trans hresult

end FeatureFlags
