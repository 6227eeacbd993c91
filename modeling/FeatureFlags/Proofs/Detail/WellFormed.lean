import FeatureFlags.Proofs.Detail.Answer
import FeatureFlags.Proofs.Nesting.Depth

/-!
# Well-formed details

Flag data can be wrong in many ways: indices can be out of range, outcomes can select nothing, the
off variation can be missing.  Whatever the data, a detail that comes of an evaluation holds
together: its value is the variation that its index names, it has none of the two if there was an
error, and its reason names what is there.

Each answer of a flag is well formed by itself, so only the records need an invariant: all that have
been made are well formed, each for the flag that it is about.

## What is here

* `Detail.WellFormed`: what holds of a detail with respect to a flag.
* `Flag.Answer.wellFormed`: the answers of a flag are well formed.
* `evaluate_wellFormed`: the theorem, for the detail of an evaluation and for its records.
-/

set_option autoImplicit false

namespace FeatureFlags

/-! ## Details -/

/-- The detail fits the flag, and if it is an error then one of the given kinds. -/
structure Detail.WellFormed (kinds : List ErrorKind) (f : Flag) (d : Detail FlagValue) : Prop where
  /-- An index is that of the variation served. -/
  served : ∀ index, d.index = some index →
    ∃ value, f.variations[index]? = some value ∧ d.value = some value
  /-- A value has an index. -/
  unserved : d.index = none → d.value = none
  /-- An error serves nothing. -/
  of_error : ∀ kind, d.reason = .error kind → kind ∈ kinds ∧ d.value = none ∧ d.index = none
  /-- Otherwise only a missing off variation serves nothing, where one is to be served. -/
  of_none : d.value = none → (∀ kind, d.reason ≠ .error kind) →
    f.offVariation = none ∧ (d.reason = .off ∨ ∃ key, d.reason = .prerequisiteFailed key)
  /-- A rule that has matched is a rule of the flag. -/
  of_ruleMatch : ∀ place id inExperiment, d.reason = .ruleMatch place id inExperiment →
    ∃ r, f.rules[place]? = some r ∧ r.id = id

namespace Detail.WellFormed

variable {kinds : List ErrorKind} {f : Flag} {d : Detail FlagValue}

/-- The status has no part in it. -/
theorem withStatus (h : d.WellFormed kinds f) (status : Option BigSegmentStatus) :
    ({ d with status } : Detail FlagValue).WellFormed kinds f :=
  ⟨h.served, h.unserved, h.of_error, h.of_none, h.of_ruleMatch⟩

theorem mono {kinds' : List ErrorKind} (h : d.WellFormed kinds f) (hkinds : kinds ⊆ kinds') :
    d.WellFormed kinds' f where
  served := h.served
  unserved := h.unserved
  of_error kind hreason := ⟨hkinds (h.of_error kind hreason).1, (h.of_error kind hreason).2⟩
  of_none := h.of_none
  of_ruleMatch := h.of_ruleMatch

end Detail.WellFormed

/-! ## Answers -/

namespace Flag

variable {kinds : List ErrorKind} (f : Flag)

theorem wellFormed_err {kind : ErrorKind} (h : kind ∈ kinds) :
    (Detail.err kind : Detail FlagValue).WellFormed kinds f where
  served index hindex := by cases hindex
  unserved _ := rfl
  of_error kind' hreason := by
    cases hreason
    exact ⟨h, rfl, rfl⟩
  of_none _ hreason := absurd rfl (hreason kind)
  of_ruleMatch place id inExperiment hreason := by cases hreason

/-- A variation is served or out of range, and then the flag is malformed. -/
theorem wellFormed_variation {reason : Reason} (index : Nat)
    (herror : ∀ kind, reason ≠ .error kind)
    (hrule : ∀ place id inExperiment, reason = .ruleMatch place id inExperiment →
      ∃ r, f.rules[place]? = some r ∧ r.id = id) :
    (f.variation index reason).WellFormed [.malformedFlag] f := by
  rw [variation]
  split
  · next value hvalue =>
    refine ⟨fun index' hindex => ?_, fun hindex => ?_, fun kind hkind => ?_, fun hnone => ?_, hrule⟩
    · cases hindex
      exact ⟨value, hvalue, rfl⟩
    · cases hindex
    · exact absurd hkind (herror kind)
    · cases hnone
  · exact f.wellFormed_err List.mem_cons_self

theorem wellFormed_offValue {reason : Reason}
    (hreason : reason = .off ∨ ∃ key, reason = .prerequisiteFailed key) :
    (f.offValue reason).WellFormed [.malformedFlag] f := by
  have herror : ∀ kind, reason ≠ .error kind := by
    rcases hreason with rfl | ⟨key, rfl⟩ <;> exact fun kind h => by cases h
  have hrule : ∀ place id inExperiment, reason ≠ .ruleMatch place id inExperiment := by
    rcases hreason with rfl | ⟨key, rfl⟩ <;> exact fun place id inExperiment h => by cases h
  rw [offValue]
  cases hoff : f.offVariation with
  | some index =>
    exact f.wellFormed_variation index herror fun place id inExperiment h =>
      absurd h (hrule place id inExperiment)
  | none =>
    refine ⟨fun index hindex => ?_, fun _ => rfl, fun kind hkind => ?_, fun _ _ => ?_, ?_⟩
    · cases hindex
    · exact absurd hkind (herror kind)
    · exact ⟨hoff, hreason⟩
    · exact fun place id inExperiment h => absurd h (hrule place id inExperiment)

variable {f} {detail : Detail FlagValue}

theorem Decision.wellFormed (h : f.Decision detail) : detail.WellFormed [.malformedFlag] f := by
  cases h with
  | target index =>
    exact f.wellFormed_variation index (fun _ h => by cases h) fun _ _ _ h => by cases h
  | @rule place r hr index inExperiment =>
    refine f.wellFormed_variation index (fun _ h => by cases h) fun place' id _ h => ?_
    cases h
    exact ⟨r, hr, rfl⟩
  | fallthrough index inExperiment =>
    exact f.wellFormed_variation index (fun _ h => by cases h) fun _ _ _ h => by cases h

theorem Answer.wellFormed (h : f.Answer detail) : detail.WellFormed [.malformedFlag] f := by
  cases h with
  | off _ => exact f.wellFormed_offValue (Or.inl rfl)
  | prerequisiteFailed _ key => exact f.wellFormed_offValue (Or.inr ⟨key, rfl⟩)
  | decided _ hdecision => exact hdecision.wellFormed

end Flag

/-! ## Records -/

/-- All records that have been made are well formed. -/
def Scope.RecordsWellFormed (s : Scope) : Prop :=
  ∀ r ∈ s.records, r.detail.WellFormed [.malformedFlag] r.flag

theorem Scope.visible_recordsWellFormed : Visible RecordsWellFormed := by
  intro s t h hs r hr
  exact hs r (h.records ▸ hr)

namespace Environment

variable {env : Environment}

theorem record_recordsWellFormed {E : EvalError → Prop} {g : Flag} {detail : Detail FlagValue}
    (parent : String) (h : detail.WellFormed [.malformedFlag] g) :
    Eval.Keeps Scope.RecordsWellFormed (Eval.record g parent detail) (fun _ => True) E := by
  refine Eval.Keeps.update (fun s hs r hr => ?_) trivial
  rcases List.mem_append.1 hr with hr | hr
  · exact hs r hr
  · obtain rfl := List.mem_singleton.1 hr
    exact h.withStatus s.status

theorem evaluateAbove_recordsWellFormed {evaluate : Flag → Eval (Detail FlagValue)}
    (hevaluate : ∀ g, Eval.Keeps Scope.RecordsWellFormed (evaluate g) g.Answer (fun _ => True))
    (f : Flag) :
    Eval.Keeps Scope.RecordsWellFormed (env.evaluateAbove evaluate f) (fun _ => True)
      (fun _ => True) := by
  refine Eval.Keeps.flag Scope.visible_recordsWellFormed (fun _ _ => trivial) ?_ fun key _ => ?_
  · refine Eval.Keeps.around (fun _ hs => hs) (fun _ hs => hs) ?_
    refine Eval.Keeps.inTurn Scope.visible_recordsWellFormed env fun p _ => ?_
    refine Eval.Keeps.bind (P := fun _ => True) (fun _ hs => ⟨hs, trivial⟩) fun chain _ => ?_
    split
    · exact Eval.Keeps.fail trivial
    · exact Eval.Keeps.findPrerequisite Scope.visible_recordsWellFormed (fun _ _ => trivial) trivial
        (fun g _ => hevaluate g) fun g detail h => record_recordsWellFormed f.key h.wellFormed
  · refine Eval.Keeps.of_at Scope.visible_recordsWellFormed fun s hs => ?_
    exact inSegment_keeps (fun _ _ => trivial) key (Or.inl trivial)

/-- **All records that an evaluation makes are well formed**, whether it fails or not. -/
theorem evaluateFlag_recordsWellFormed (depth : Nat) (f : Flag) :
    Eval.Keeps Scope.RecordsWellFormed (env.evaluateFlag depth f) (fun _ => True)
      (fun _ => True) := by
  induction depth generalizing f with
  | zero => exact evaluateAbove_recordsWellFormed (fun _ => Eval.Keeps.fail trivial) f
  | succ depth ih =>
    refine evaluateAbove_recordsWellFormed (fun g => ?_) f
    exact ((env.evaluateFlag_gives depth g).keeps (ih g)).mono (fun _ h => h.2) fun _ h => h

end Environment

/-! ## Whole evaluations -/

theorem EvalError.kind_mem (e : EvalError) : e.kind ∈ [.malformedFlag, .exception] := by
  cases e <;> simp [kind]

/-- **Every detail that comes of an evaluation is well formed**: that of the flag, which alone can
be an exception, and those of the records, each for its own flag. -/
theorem evaluate_wellFormed (env : Environment) (f : Flag) :
    (evaluate env f).detail.WellFormed [.malformedFlag, .exception] f ∧
      ∀ r ∈ (evaluate env f).records, r.detail.WellFormed [.malformedFlag] r.flag := by
  have hrecords : (env.run f).2.RecordsWellFormed :=
    (Environment.evaluateFlag_recordsWellFormed env.flagDepth f .empty
      fun r hr => absurd hr List.not_mem_nil).1
  rw [evaluate]
  rcases h : env.run f with ⟨r, scope⟩
  rw [h] at hrecords
  cases r with
  | ok detail =>
    have hanswer := env.evaluateFlag_gives env.flagDepth f _ _ _ h
    exact ⟨(hanswer.wellFormed.mono (by simp)).withStatus _, hrecords⟩
  | error e => exact ⟨(f.wellFormed_err e.kind_mem).withStatus _, hrecords⟩

end FeatureFlags
