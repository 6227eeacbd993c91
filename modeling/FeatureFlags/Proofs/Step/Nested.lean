import FeatureFlags.Proofs.Step.Congruence

/-!
# Relations that are kept from level to level

Before a segment is decided or a prerequisite evaluated, its key is looked for on a chain and then
in the store, and it is on the chain for as long as it takes.  Some comparisons have nothing to do
with any of this: their two evaluations have the same keys on the same chains at all times.  A
relation of that sort is kept by entering a segment or a prerequisite, and so by a whole level of
an evaluation if it is kept by the levels below.

## What is here

* `EvalError.IsOfStore`: the errors that come from a lookup.
* `Eval.FlagCongruence`: a relation of this sort, as far as flags are concerned.
* `Eval.NestedCongruence`: the same for segments as well, and so for whole evaluations.
* `Environment.enterSegment_eq_ok_iff`: when a segment is entered and gives an answer.
-/

set_option autoImplicit false

namespace FeatureFlags

/-- The errors that the store answers a lookup with.  All others an evaluation finds by itself. -/
def EvalError.IsOfStore : EvalError → Prop
  | .store _ => True
  | _ => False

theorem EvalError.IsOfData.not_isOfStore {e : EvalError} (h : e.IsOfData) : ¬ e.IsOfStore := by
  cases e <;> first | exact id | exact h.elim

namespace Eval

/-! ## Flags -/

/-- A compositional relation of two evaluations that have the same flags on their chains.  It relates
lookups of flags, records and all failures but those of lookups, and does not care about what is on
the chains. -/
structure FlagCongruence (env₁ env₂ : Environment) (R : ∀ ⦃α : Type⦄, Eval α → Eval α → Prop) :
    Prop extends Compositional env₁ env₂ (fun e => ¬ e.IsOfStore) R where
  /-- The same flags are being evaluated. -/
  flagChain : R (Eval.read Scope.flagChain) (Eval.read Scope.flagChain)
  /-- A flag can be put on the chain. -/
  withFlag : ∀ {α : Type} (key : String) {x y : Eval α}, R x y →
    R (Eval.withFlag key x) (Eval.withFlag key y)
  /-- Lookups of flags are related. -/
  flag? : ∀ key, R (env₁.flag? key) (env₂.flag? key)
  /-- Records are related. -/
  record : ∀ g parent detail, R (Eval.record g parent detail) (Eval.record g parent detail)

namespace FlagCongruence

variable {env₁ env₂ : Environment} {R : ∀ ⦃α : Type⦄, Eval α → Eval α → Prop}
  (h : FlagCongruence env₁ env₂ R) {evaluate₁ evaluate₂ : Flag → Eval (Detail FlagValue)}
  (hevaluate : ∀ g, R (evaluate₁ g) (evaluate₂ g))

include h hevaluate

/-- Entering a prerequisite respects a relation of the evaluations of flags. -/
theorem enterPrerequisite (parent : String) (p : Prerequisite) :
    R (env₁.enterPrerequisite evaluate₁ parent p) (env₂.enterPrerequisite evaluate₂ parent p) := by
  refine h.bind h.flagChain fun chain => ?_
  split
  · exact h.fail id
  · refine h.bind (h.flag? p.key) fun found => ?_
    cases found with
    | none => exact h.pure none
    | some g =>
      refine h.bind (hevaluate g) fun detail => h.bind (h.record g parent detail) fun _ => ?_
      split
      · exact h.fail id
      · exact h.pure _

/-- One level of an evaluation respects a relation of the levels below it. -/
theorem level {in₁ in₂ : String → Eval Bool} (hin : ∀ key, R (in₁ key) (in₂ key)) (f : Flag) :
    R (f.evaluateWith env₁ in₁ (env₁.failedPrerequisite? evaluate₁ f))
      (f.evaluateWith env₂ in₂ (env₂.failedPrerequisite? evaluate₂ f)) := by
  refine h.flag (fun _ he => he.not_isOfStore) (fun _ => ?_) fun key _ => hin key
  refine h.withFlag f.key ?_
  exact h.inTurn fun p _ => h.enterPrerequisite hevaluate f.key p

end FlagCongruence

/-! ## Segments -/

/-- A relation of flags and segments.  The two evaluations have the same segments on their chains as
well. -/
structure NestedCongruence (env₁ env₂ : Environment) (R : ∀ ⦃α : Type⦄, Eval α → Eval α → Prop) :
    Prop extends FlagCongruence env₁ env₂ R where
  /-- The same segments are being decided. -/
  segmentChain : R (Eval.read Scope.segmentChain) (Eval.read Scope.segmentChain)
  /-- A segment can be put on the chain. -/
  withSegment : ∀ {α : Type} (key : String) {x y : Eval α}, R x y →
    R (Eval.withSegment key x) (Eval.withSegment key y)
  /-- Lookups of segments are related. -/
  segment? : ∀ key, R (env₁.segment? key) (env₂.segment? key)

namespace NestedCongruence

variable {env₁ env₂ : Environment} {R : ∀ ⦃α : Type⦄, Eval α → Eval α → Prop}
  (h : NestedCongruence env₁ env₂ R)

include h

/-- Entering a segment respects a relation of the decisions for segments. -/
theorem enterSegment {decide₁ decide₂ : Segment → Eval Bool}
    (hdecide : ∀ s, R (decide₁ s) (decide₂ s)) (key : String) :
    R (env₁.enterSegment decide₁ key) (env₂.enterSegment decide₂ key) := by
  refine h.bind h.segmentChain fun chain => ?_
  split
  · exact h.fail id
  · refine h.bind (h.segment? key) fun found => ?_
    cases found with
    | none => exact h.pure false
    | some s => exact h.withSegment key (hdecide s)

variable (hverdict : ∀ s : Segment, R (s.verdict env₁) (s.verdict env₂))

include hverdict

/-- Segments are decided alike, on any number of levels, if what is known before their rules are
looked at is. -/
theorem inSegment (depth : Nat) (key : String) :
    R (env₁.inSegment depth key) (env₂.inSegment depth key) := by
  induction depth generalizing key with
  | zero => exact h.enterSegment (fun _ => h.fail id) key
  | succ depth ih =>
    refine h.enterSegment (fun s => ?_) key
    exact h.containsAfter (fun _ he => he.not_isOfStore) (hverdict s) fun key _ => ih key

/-- Flags are evaluated alike as well. -/
theorem evaluateFlag (hlevels : env₁.segmentDepth = env₂.segmentDepth) (depth : Nat) (f : Flag) :
    R (env₁.evaluateFlag depth f) (env₂.evaluateFlag depth f) := by
  have hin : ∀ key, R (env₁.inSegment env₁.segmentDepth key) (env₂.inSegment env₂.segmentDepth key) :=
    fun key => hlevels ▸ h.inSegment hverdict env₁.segmentDepth key
  induction depth generalizing f with
  | zero => exact h.level (fun _ => h.fail id) hin f
  | succ depth ih => exact h.level ih hin f

end NestedCongruence

end Eval

/-! ## Entering a segment

A segment on the chain is not entered.  One that is off it is on it while it is being decided. -/

/-- The scope in which a segment is decided that is looked up in another. -/
def Scope.entering (s : Scope) (key : String) : Scope :=
  { s with
    segmentChain := Eval.enter key s.segmentChain
    events := s.events ++ [.segmentLookup key] }

theorem Scope.mem_segmentChain_entering (s : Scope) (key : String) :
    key ∈ (s.entering key).segmentChain := by
  by_cases h : key ∈ s.segmentChain <;> simp [entering, Eval.enter, h]

namespace Environment

variable {env : Environment} {decide : Segment → Eval Bool} {key : String} {s : Scope}

theorem enterSegment_of_mem (h : key ∈ s.segmentChain) :
    env.enterSegment decide key s = (.error (.segmentCycle key), s) := by
  simp [enterSegment, bind, Eval.bind, Eval.read, Eval.fail, h]

theorem enterSegment_of_not_mem (h : key ∉ s.segmentChain) :
    env.enterSegment decide key s =
      env.findSegment (fun S => Eval.withSegment key (decide S)) key s := by
  simp [enterSegment, bind, Eval.bind, Eval.read, h]

/-- A segment that is found gives an answer just if it is off the chain and its lookup does not fail,
and then the answer is that of the decision with its key on the chain. -/
theorem enterSegment_eq_ok_iff {S : Segment} (hfound : env.store.data.segment? key = some S)
    {b : Bool} : (∃ t, env.enterSegment decide key s = (.ok b, t)) ↔
      key ∉ s.segmentChain ∧ env.store.segmentFailures key = none ∧
        ∃ t, decide S (s.entering key) = (.ok b, t) := by
  by_cases hmem : key ∈ s.segmentChain
  · rw [enterSegment_of_mem hmem]
    refine iff_of_false ?_ fun h => h.1 hmem
    rintro ⟨t, h⟩
    cases h
  · rw [enterSegment_of_not_mem hmem, findSegment, bind_segment?]
    cases hfail : env.store.segmentFailures key with
    | some e =>
      refine iff_of_false ?_ ?_
      · rintro ⟨t, h⟩
        cases h
      · rintro ⟨-, hfine, -⟩
        cases hfine
    | none =>
      rw [hfound]
      change (∃ t, Eval.withSegment key (decide S)
        { s with events := s.events ++ [.segmentLookup key] } = (.ok b, t)) ↔ _
      constructor
      · rintro ⟨t, h⟩
        obtain ⟨u, hu, -⟩ := Eval.around_eq_ok h
        exact ⟨hmem, rfl, u, hu⟩
      · rintro ⟨-, -, u, hu⟩
        have hresult : (decide S (s.entering key)).1 = .ok b := congrArg Prod.fst hu
        exact ⟨_, Prod.ext hresult rfl⟩

end Environment

end FeatureFlags
