import FeatureFlags.Proofs.Decision.FirstMatch

/-!
# What a flag selects

A flag that is evaluated without failing selects a variation by its index: the off variation, or that
of a target, of a rule's outcome or of the fallthrough.  The index may be out of range, and then the
flag is malformed.  A missing off variation is no selection, but it is no error either.

## What is here

* `Environment.Selects`: the variations that a flag selects.
* `Environment.Selects.run_eq`, `Environment.exists_selects`: what is selected is served, and every
  error comes of a selection.
* `Environment.reason_eq_error_iff`: which flags are malformed.
-/

set_option autoImplicit false

namespace FeatureFlags

/-! ## Selections -/

namespace Environment

variable {env : Environment} {f : Flag} {index : Nat} {s : Scope} {detail : Detail FlagValue}

/-- The flag selects the variation with the index: as its off variation, or by a target, a rule or
the fallthrough. -/
inductive Selects (env : Environment) (f : Flag) : Nat → Prop where
  | off {index : Nat} (hoff : f.on = false) (h : f.offVariation = some index) : Selects env f index
  | prerequisiteFailed {index : Nat} {key : String} {s : Scope} (hon : f.on = true)
      (hfailed : env.checkPrerequisites f .empty = (.ok (some key), s))
      (h : f.offVariation = some index) : Selects env f index
  | target {index : Nat} {s : Scope} (hon : f.on = true)
      (hsatisfied : env.checkPrerequisites f .empty = (.ok none, s))
      (h : f.targetVariation? env.context = some index) : Selects env f index
  | rule {before after : List FlagRule} {r : FlagRule} {s t u : Scope} {selection : Selection}
      (hon : f.on = true) (hsatisfied : env.checkPrerequisites f .empty = (.ok none, s))
      (htarget : f.targetVariation? env.context = none) (hrules : f.rules = before ++ r :: after)
      (hpasses : env.PassesRules before s t) (hmatches : env.matchesRule r t = (.ok true, u))
      (h : f.select r.outcome env.context = .ok selection) : Selects env f selection.variation
  | fallthrough {s u : Scope} {selection : Selection} (hon : f.on = true)
      (hsatisfied : env.checkPrerequisites f .empty = (.ok none, s))
      (htarget : f.targetVariation? env.context = none) (hpasses : env.PassesRules f.rules s u)
      (h : f.select f.fallthrough env.context = .ok selection) : Selects env f selection.variation

theorem run_of_off (hoff : f.on = false) : env.run f = (.ok (f.offValue .off), .empty) := by
  have hon : ¬ f.on = true := by simp [hoff]
  rw [run]
  cases env.flagDepth <;> rw [evaluateFlag, evaluateAbove, Flag.evaluateWith, if_neg hon] <;> rfl

theorem run_of_failed {key : String} (hon : f.on = true)
    (hfailed : env.checkPrerequisites f .empty = (.ok (some key), s)) :
    env.run f = (.ok (f.offValue (.prerequisiteFailed key)), s) := by
  rw [env.run_eq hon, Eval.bind_of_ok hfailed]
  rfl

/-- What is selected is served, or is an error. -/
theorem Selects.run_eq (h : env.Selects f index) :
    ∃ reason s, (∀ kind, reason ≠ .error kind) ∧
      env.run f = (.ok (f.variation index reason), s) := by
  cases h with
  | off hoff h =>
    refine ⟨.off, .empty, by rintro _ ⟨⟩, ?_⟩
    rw [run_of_off hoff, Flag.offValue, h]
  | @prerequisiteFailed index key s hon hfailed h =>
    refine ⟨.prerequisiteFailed key, s, by rintro _ ⟨⟩, ?_⟩
    rw [run_of_failed hon hfailed, Flag.offValue, h]
  | target hon hsatisfied h =>
    exact ⟨.targetMatch, _, by rintro _ ⟨⟩, run_of_target hon hsatisfied h⟩
  | @rule before after r s t u selection hon hsatisfied htarget hrules hpasses hmatches h =>
    refine ⟨.ruleMatch before.length r.id selection.inExperiment, u, by rintro _ ⟨⟩, ?_⟩
    rw [run_of_stopsAt hon hsatisfied htarget hrules hpasses (Or.inl hmatches), hmatches]
    simp only [Flag.serve_apply, h]
  | @fallthrough s u selection hon hsatisfied htarget hpasses h =>
    refine ⟨.fallthrough selection.inExperiment, u, by rintro _ ⟨⟩, ?_⟩
    rw [run_of_fallthrough hon hsatisfied htarget hpasses, Flag.serve_apply, h]

/-- With its prerequisites satisfied, a flag that gets a detail selects a variation. -/
theorem exists_selects_of_satisfied (hon : f.on = true)
    (hsatisfied : env.checkPrerequisites f .empty = (.ok none, s))
    (h : (env.run f).1 = .ok detail) : ∃ index, env.Selects f index := by
  cases htarget : f.targetVariation? env.context with
  | some index => exact ⟨index, .target hon hsatisfied htarget⟩
  | none =>
    rcases passesRules_or_stopsAt f.rules s with
      ⟨u, hpasses⟩ | ⟨before, r, after, t, u, hrules, hpasses, hstops⟩
    · rw [run_of_fallthrough hon hsatisfied htarget hpasses, Flag.serve_apply] at h
      cases hselect : f.select f.fallthrough env.context with
      | ok selection => exact ⟨_, .fallthrough hon hsatisfied htarget hpasses hselect⟩
      | error e =>
        rw [hselect] at h
        cases h
    · rw [run_of_stopsAt hon hsatisfied htarget hrules hpasses hstops] at h
      rcases hstops with hmatches | ⟨e, hfails⟩
      · simp only [hmatches, Flag.serve_apply] at h
        cases hselect : f.select r.outcome env.context with
        | ok selection => exact ⟨_, .rule hon hsatisfied htarget hrules hpasses hmatches hselect⟩
        | error e =>
          rw [hselect] at h
          cases h
      · rw [hfails] at h
        cases h

/-- A flag that gets an error as its detail has selected a variation. -/
theorem exists_selects (h : (env.run f).1 = .ok detail) (herror : detail.IsError) :
    ∃ index, env.Selects f index := by
  have hoffValue : ∀ reason, (∀ kind, reason ≠ .error kind) → f.offValue reason = detail →
      ∃ index, f.offVariation = some index := by
    rintro reason hreason rfl
    cases hindex : f.offVariation with
    | some index => exact ⟨index, rfl⟩
    | none =>
      obtain ⟨kind, hkind⟩ := herror
      rw [Flag.offValue, hindex] at hkind
      exact absurd hkind (hreason kind)
  cases hon : f.on with
  | false =>
    rw [run_of_off hon] at h
    obtain ⟨index, hindex⟩ := hoffValue .off (by rintro _ ⟨⟩) (Except.ok.inj h)
    exact ⟨index, .off hon hindex⟩
  | true =>
    have hrun : env.run f = (.ok detail, (env.run f).2) := Prod.ext h rfl
    rw [env.run_eq hon] at hrun
    obtain ⟨failed, s, hchecked, -⟩ := Eval.bind_eq_ok.1 hrun
    cases failed with
    | none => exact exists_selects_of_satisfied hon hchecked h
    | some key =>
      rw [run_of_failed hon hchecked] at h
      obtain ⟨index, hindex⟩ :=
        hoffValue (.prerequisiteFailed key) (by rintro _ ⟨⟩) (Except.ok.inj h)
      exact ⟨index, .prerequisiteFailed hon hchecked hindex⟩

end Environment

/-- A variation that is out of range is an error, and only such a one. -/
theorem Flag.reason_variation_eq_error_iff {f : Flag} {index : Nat} {reason : Reason}
    (hreason : ∀ kind, reason ≠ .error kind) {kind : ErrorKind} :
    (f.variation index reason).reason = .error kind ↔
      kind = .malformedFlag ∧ f.variations.length ≤ index := by
  rw [variation]
  by_cases hindex : index < f.variations.length
  · rw [List.getElem?_eq_getElem hindex]
    exact iff_of_false (hreason kind) fun h => absurd hindex (Nat.not_lt.2 h.2)
  · have hout : f.variations.length ≤ index := Nat.le_of_not_lt hindex
    rw [List.getElem?_eq_none hout]
    constructor
    · intro h
      cases h
      exact ⟨rfl, hout⟩
    · rintro ⟨rfl, -⟩
      rfl

namespace Environment

variable {env : Environment} {f : Flag}

/-- The detail that a flag gets is an error just if it selects a variation that is out of range. -/
theorem reason_eq_error_iff {detail : Detail FlagValue} (h : (env.run f).1 = .ok detail)
    (kind : ErrorKind) : detail.reason = .error kind ↔
      kind = .malformedFlag ∧ ∃ index, env.Selects f index ∧ f.variations.length ≤ index := by
  have hserved : ∀ index, env.Selects f index →
      (detail.reason = .error kind ↔ kind = .malformedFlag ∧ f.variations.length ≤ index) := by
    intro index hselects
    obtain ⟨reason, s, hreason, hrun⟩ := hselects.run_eq
    rw [hrun] at h
    cases h
    exact Flag.reason_variation_eq_error_iff hreason
  constructor
  · intro herror
    obtain ⟨index, hselects⟩ := exists_selects h ⟨kind, herror⟩
    obtain ⟨hkind, hout⟩ := (hserved index hselects).1 herror
    exact ⟨hkind, index, hselects, hout⟩
  · rintro ⟨hkind, index, hselects, hout⟩
    exact (hserved index hselects).2 ⟨hkind, hout⟩

end Environment

end FeatureFlags
