import FeatureFlags.Proofs.Nesting.Unguarded
import FeatureFlags.Proofs.Step.Nested

/-!
# Evaluations come to an end

Flags refer to flags and segments to segments, so an evaluation is at heart a recursion without any
limit: a flag is evaluated by way of its prerequisites, and a segment decided by way of the segments
that it names.  Its definition counts levels all the same, and this file shows that the count could
be left out.

Cycles make no difference to this.  A flag that is entered is one of the store and is off the chain,
so each level of flags uses up a key of the store.  A flag that is off is on no chain, but it enters
nothing either.  Only the flag that is evaluated first need not be one of the store, so there is one
level more than there are flags; and segments are filed and chained under the key that names them,
whatever their own.  With so many levels an evaluation never runs out of them, from no scope.

An evaluation that does not run out of levels does what the recursion without limits does.  So the
equations of that recursion have one solution and no other.

## What is here

* `Environment.evaluateFlagWithin`: the evaluation of a flag with given numbers of levels.
* `Environment.IsUnlimited`: the equations of the recursion without limits.
* `Environment.evaluateFlagWithin_ne_tooDeep`: enough levels for any scope.
* `evaluate_terminates`: the theorem.
-/

set_option autoImplicit false

namespace FeatureFlags

namespace Environment

variable (env : Environment)

/-- The detail of a flag, with at most `flags` flags being evaluated and at most `segments` segments
being decided at any time. -/
def evaluateFlagWithin (segments : Nat) : Nat → Flag → Eval (Detail FlagValue)
  | 0, _ => Eval.fail .tooDeep
  | flags + 1, f => f.evaluateWith env (env.inSegment segments)
    (env.failedPrerequisite? (evaluateFlagWithin segments flags) f)

/-- The decisions for segments and the evaluations of flags go by each other without any limit. -/
structure IsUnlimited (inSegment : String → Eval Bool) (evaluate : Flag → Eval (Detail FlagValue)) :
    Prop where
  /-- A segment is decided by way of the segments that it names. -/
  segments : ∀ key, inSegment key = env.enterSegment (fun s => s.contains env inSegment) key
  /-- A flag is evaluated by way of its prerequisites and the segments that it names. -/
  flags : ∀ f, evaluate f = f.evaluateWith env inSegment (env.failedPrerequisite? evaluate f)

theorem evaluateFlag_eq_evaluateFlagWithin (depth : Nat) (f : Flag) :
    env.evaluateFlag depth f = env.evaluateFlagWithin env.segmentDepth (depth + 1) f := by
  induction depth generalizing f with
  | zero => rfl
  | succ depth ih =>
    have hbelow : env.evaluateFlag depth = env.evaluateFlagWithin env.segmentDepth (depth + 1) :=
      funext ih
    rw [evaluateFlag, evaluateAbove, evaluateFlagWithin, hbelow]

end Environment

/-! ## Levels enough -/

namespace Eval

variable {α : Type}

theorem Keeps.ne_error {I : Scope → Prop} {x : Eval α} {Q : α → Prop} {E : EvalError → Prop}
    {e : EvalError} {s : Scope} (h : Keeps I x Q E) (hs : I s) (he : ¬ E e) :
    (x s).1 ≠ .error e := fun hx => he (h.error hs (Prod.ext hx rfl)).2

end Eval

theorem EvalError.IsOfData.ne_tooDeep {e : EvalError} (h : e.IsOfData) : e ≠ .tooDeep := by
  rintro rfl
  exact h

namespace Environment

variable {env : Environment}

theorem ne_tooDeep_of_ruleError {e : EvalError} (h : env.RuleError e) : e ≠ .tooDeep := by
  rintro rfl
  exact h

/-- With a level for each segment of the store, segments are decided from any scope. -/
theorem inSegment_onChains {depth : Nat} (hdepth : env.store.data.segments.size ≤ depth)
    (C D : List String) (key : String) :
    Eval.Keeps (Scope.OnChains C D) (env.inSegment depth key) (fun _ => True) (· ≠ .tooDeep) := by
  refine Eval.Keeps.of_at (Scope.visible_onChains C D) fun s _ => ?_
  refine inSegment_keeps (fun _ => ne_tooDeep_of_ruleError) key (Or.inr ?_)
  exact Nat.le_trans (SortedMap.length_keysOff_le _) hdepth

theorem inSegment_ne_tooDeep (key : String) (s : Scope) :
    (env.inSegment env.segmentDepth key s).1 ≠ .error .tooDeep :=
  (inSegment_onChains Nat.le.refl s.flagChain s.segmentChain key).ne_error ⟨rfl, rfl⟩ fun h => h rfl

/-- Targets, rules and fallthrough do not run out of levels either. -/
theorem decide_onChains {depth : Nat} (hdepth : env.store.data.segments.size ≤ depth)
    (C D : List String) (f : Flag) :
    Eval.Keeps (Scope.OnChains C D) (f.decide env (env.inSegment depth)) (fun _ => True)
      (· ≠ .tooDeep) :=
  Eval.Keeps.decide (Scope.visible_onChains C D)
    (fun _ he => he.ne_tooDeep) fun key _ => inSegment_onChains hdepth C D key

/-- A prerequisite does not run out of levels if no flag off the chain does. -/
theorem enterPrerequisite_onChains (hkeys : env.store.data.FlagsUnderOwnKeys) {C D : List String}
    (evaluate : Flag → Eval (Detail FlagValue))
    (hevaluate : ∀ g, env.store.data.flag? g.key = some g → g.key ∉ C →
      Eval.Keeps (Scope.OnChains C D) (evaluate g) (fun _ => True) (· ≠ .tooDeep))
    (parent : String) (p : Prerequisite) :
    Eval.Keeps (Scope.OnChains C D) (env.enterPrerequisite evaluate parent p) (fun _ => True)
      (· ≠ .tooDeep) := by
  refine Eval.Keeps.bind_read (fun s hs => hs.1) ?_
  split
  · exact Eval.Keeps.fail (by simp)
  · next hkey =>
    have hkey : p.key ∉ C := by simpa using hkey
    refine Eval.Keeps.findPrerequisite (P := fun _ _ => True) (Scope.visible_onChains C D)
      (fun _ _ => by simp) (by simp) (fun g hg => ?_)
      fun _ _ _ => Eval.Keeps.update (fun _ hs => hs) trivial
    have hown : g.key = p.key := hkeys.key_eq hg
    exact hevaluate g (hown ▸ hg) (hown ▸ hkey)

/-- Prerequisites do not run out of levels if no flag off the chain does. -/
theorem checkInTurn_onChains (hkeys : env.store.data.FlagsUnderOwnKeys) {C D : List String}
    (evaluate : Flag → Eval (Detail FlagValue))
    (hevaluate : ∀ g, env.store.data.flag? g.key = some g → g.key ∉ C →
      Eval.Keeps (Scope.OnChains C D) (evaluate g) (fun _ => True) (· ≠ .tooDeep))
    (parent : String) (ps : List Prerequisite) :
    Eval.Keeps (Scope.OnChains C D)
      (checkInTurn (env.enterPrerequisite evaluate parent) none ps) (fun _ => True)
      (· ≠ .tooDeep) :=
  Eval.Keeps.inTurn (Scope.visible_onChains C D) env fun p _ =>
    enterPrerequisite_onChains hkeys evaluate hevaluate parent p

/-- A flag off the chain does not run out of levels if there is one for itself and one for each flag
of the store that is off the chain besides. -/
theorem evaluateFlagWithin_onChains (hkeys : env.store.data.FlagsUnderOwnKeys) {segments : Nat}
    (hsegments : env.store.data.segments.size ≤ segments) {flags : Nat} {C D : List String}
    {f : Flag} (hfresh : f.key ∉ C)
    (hflags : (env.store.data.flags.keysOff (f.key :: C)).length < flags) :
    Eval.Keeps (Scope.OnChains C D) (env.evaluateFlagWithin segments flags f) (fun _ => True)
      (· ≠ .tooDeep) := by
  induction flags generalizing C f with
  | zero => exact absurd hflags (Nat.not_lt_zero _)
  | succ flags ih =>
    refine Eval.Keeps.flag (Scope.visible_onChains C D) (fun _ he => he.ne_tooDeep) ?_
      fun key _ => inSegment_onChains hsegments C D key
    refine Eval.Keeps.around (J := Scope.OnChains (f.key :: C) D) ?_ ?_
      (checkInTurn_onChains hkeys _ (fun g hg hkey => ih hkey ?_) f.key f.prerequisites)
    · rintro s ⟨hC, hD⟩
      exact ⟨hC ▸ Eval.enter_of_not_mem (hC ▸ hfresh), hD⟩
    · rintro s ⟨hC, hD⟩
      exact ⟨hC ▸ Eval.leave_cons_self hfresh, hD⟩
    · have := SortedMap.length_keysOff_cons_lt (Dataset.find?_of_flag? hg) hkey
      omega

/-- **With a level for each item of the store, and one more for flags, no evaluation runs out of
levels**, from whatever scope it is taken. -/
theorem evaluateFlagWithin_ne_tooDeep (hkeys : env.store.data.FlagsUnderOwnKeys)
    {segments flags : Nat} (hsegments : env.store.data.segments.size ≤ segments)
    (hflags : env.store.data.flags.size < flags) (f : Flag) (s : Scope) :
    (env.evaluateFlagWithin segments flags f s).1 ≠ .error .tooDeep := by
  obtain ⟨flags, rfl⟩ : ∃ n, flags = n + 1 := ⟨flags - 1, by omega⟩
  -- the flag itself may be on the chain here, which no flag below it is
  have hchecks := checkInTurn_onChains (C := Eval.enter f.key s.flagChain) (D := s.segmentChain)
    hkeys (env.evaluateFlagWithin segments flags) (fun g hg hkey => by
      refine evaluateFlagWithin_onChains hkeys hsegments hkey ?_
      have hlt := SortedMap.length_keysOff_cons_lt (Dataset.find?_of_flag? hg) hkey
      have hle := env.store.data.flags.length_keysOff_le (Eval.enter f.key s.flagChain)
      omega) f.key f.prerequisites
  intro herror
  have h : env.evaluateFlagWithin segments (flags + 1) f s = (.error .tooDeep, _) :=
    Prod.ext herror rfl
  rw [evaluateFlagWithin, Flag.evaluateWith] at h
  split at h
  · rcases Eval.bind_eq_error.1 h with hpre | ⟨failed, t, hpre, hrest⟩
    · rw [failedPrerequisite?, Eval.withFlag] at hpre
      obtain ⟨t, ht, -⟩ := Eval.around_eq_error hpre
      have hentered : Scope.OnChains (Eval.enter f.key s.flagChain) s.segmentChain
          { s with flagChain := Eval.enter f.key s.flagChain } := ⟨rfl, rfl⟩
      exact (hchecks.error hentered ht).2 rfl
    · cases failed with
      | some key => cases hrest
      | none => exact ((decide_onChains hsegments _ _ f).error ⟨rfl, rfl⟩ hrest).2 rfl
  · cases h

end Environment

/-! ## The recursion without limits -/

namespace Eval.Refines

variable {α : Type}

theorem around {before after : Scope → Scope} {x y : Eval α} (h : Refines x y) :
    Refines (Eval.around before after x) (Eval.around before after y) := by
  intro s hs
  simp only [Eval.around] at hs ⊢
  rw [h (before s) hs]

/-- Both steps do the same to the chains. -/
theorem nested (env : Environment) : NestedCongruence env env fun _ x y => Refines x y where
  toCompositional := (congruence env).toCompositional.weaken fun _ _ => trivial
  flagChain := refl _
  segmentChain := refl _
  withFlag _ _ _ h := around h
  withSegment _ _ _ h := around h
  flag? _ := refl _
  segment? _ := refl _
  record _ _ _ := refl _

end Eval.Refines

namespace Environment

variable {env : Environment} {inSegment : String → Eval Bool}
  {evaluate : Flag → Eval (Detail FlagValue)}

/-- Deciding a segment with fewer levels for the segments that it names. -/
theorem enterSegment_refines {in₁ in₂ : String → Eval Bool}
    (h : ∀ key, Eval.Refines (in₁ key) (in₂ key)) (key : String) :
    Eval.Refines (env.enterSegment (fun s => s.contains env in₁) key)
      (env.enterSegment (fun s => s.contains env in₂) key) := by
  refine (Eval.Refines.nested env).enterSegment (fun s => ?_) key
  exact (Eval.Refines.congruence env).segment (fun _ _ => trivial) fun key _ => h key

theorem inSegment_refines {m n : Nat} (h : m ≤ n) (key : String) :
    Eval.Refines (env.inSegment m key) (env.inSegment n key) := by
  induction m generalizing n key with
  | zero =>
    cases n with
    | zero => exact Eval.Refines.refl _
    | succ n =>
      exact (Eval.Refines.nested env).enterSegment (fun _ => Eval.Refines.tooDeep _) key
  | succ m ih =>
    obtain ⟨n, rfl⟩ := Nat.exists_eq_add_of_lt h
    exact enterSegment_refines (fun key => ih (by omega) key) key

/-- More levels than suffice make no difference. -/
theorem inSegment_eq_of_le {depth : Nat} (h : env.segmentDepth ≤ depth) (key : String) (s : Scope) :
    env.inSegment depth key s = env.inSegment env.segmentDepth key s :=
  inSegment_refines h key s (inSegment_ne_tooDeep key s)

theorem evaluateFlagWithin_refines {k l m n : Nat} (hkl : k ≤ l) (hmn : m ≤ n) (f : Flag) :
    Eval.Refines (env.evaluateFlagWithin k m f) (env.evaluateFlagWithin l n f) := by
  induction m generalizing n f with
  | zero => exact Eval.Refines.tooDeep _
  | succ m ih =>
    obtain ⟨n, rfl⟩ := Nat.exists_eq_add_of_lt hmn
    exact (Eval.Refines.nested env).level (fun g => ih (by omega) g)
      (fun key => inSegment_refines hkl key) f

/-- What is decided with limits is decided without. -/
theorem IsUnlimited.inSegment_refines (h : env.IsUnlimited inSegment evaluate) (depth : Nat)
    (key : String) : Eval.Refines (env.inSegment depth key) (inSegment key) := by
  induction depth generalizing key with
  | zero =>
    rw [h.segments key]
    exact (Eval.Refines.nested env).enterSegment (fun _ => Eval.Refines.tooDeep _) key
  | succ depth ih =>
    rw [h.segments key]
    exact enterSegment_refines ih key

/-- What is given with limits is given without. -/
theorem IsUnlimited.evaluateFlagWithin_refines (h : env.IsUnlimited inSegment evaluate)
    (segments flags : Nat) (f : Flag) :
    Eval.Refines (env.evaluateFlagWithin segments flags f) (evaluate f) := by
  induction flags generalizing f with
  | zero => exact Eval.Refines.tooDeep _
  | succ flags ih =>
    rw [h.flags f]
    exact (Eval.Refines.nested env).level ih (fun key => h.inSegment_refines segments key) f

/-! ## Whole evaluations -/

/-- The definition has levels enough. -/
theorem evaluateFlagWithin_eq_evaluateFlag (hkeys : env.store.data.FlagsUnderOwnKeys)
    {segments flags : Nat} (hsegments : env.store.data.segments.size ≤ segments)
    (hflags : env.store.data.flags.size < flags) {depth : Nat}
    (hdepth : env.store.data.flags.size ≤ depth) (f : Flag) (s : Scope) :
    env.evaluateFlagWithin segments flags f s = env.evaluateFlag depth f s := by
  have hleast := evaluateFlagWithin_ne_tooDeep hkeys Nat.le.refl (Nat.lt_succ_self _) f s
  rw [evaluateFlag_eq_evaluateFlagWithin,
    evaluateFlagWithin_refines hsegments (Nat.succ_le_of_lt hflags) f s hleast]
  exact (evaluateFlagWithin_refines Nat.le.refl (Nat.succ_le_succ hdepth) f s hleast).symm

/-- The definition solves the equations of the recursion without limits. -/
theorem isUnlimited (hkeys : env.store.data.FlagsUnderOwnKeys) :
    env.IsUnlimited (env.inSegment env.segmentDepth) (env.evaluateFlag env.flagDepth) where
  segments key := by
    funext s
    exact (inSegment_eq_of_le (Nat.le_succ _) key s).symm
  flags f := by
    funext s
    have hmore := evaluateFlagWithin_eq_evaluateFlag hkeys Nat.le.refl (Nat.lt_succ_self _)
      (Nat.le_succ_of_le env.size_le_flagDepth) f s
    rw [← evaluateFlagWithin_eq_evaluateFlag hkeys Nat.le.refl (Nat.lt_succ_self _)
      env.size_le_flagDepth f s, hmore]
    rfl

end Environment

/-- **Evaluations come to an end, on any data.**  If every flag is filed under its own key, no
evaluation has more segments being decided at a time than there are segments in the store, or more
than one flag more being evaluated than there are flags; so any greater limits give what the
definition gives.  That is what the recursion without limits gives: its equations hold, and nothing
else solves them. -/
theorem evaluate_terminates (env : Environment) (hkeys : env.store.data.FlagsUnderOwnKeys) :
    (∀ segments flags, env.store.data.segments.size ≤ segments →
      env.store.data.flags.size + 1 ≤ flags → ∀ f scope,
        (env.evaluateFlagWithin segments flags f scope).1 ≠ .error .tooDeep ∧
        env.evaluateFlagWithin segments flags f scope = env.evaluateFlag env.flagDepth f scope) ∧
    env.IsUnlimited (env.inSegment env.segmentDepth) (env.evaluateFlag env.flagDepth) ∧
    ∀ inSegment evaluate, env.IsUnlimited inSegment evaluate →
      inSegment = env.inSegment env.segmentDepth ∧ evaluate = env.evaluateFlag env.flagDepth := by
  refine ⟨fun segments flags hsegments hflags f scope => ⟨?_, ?_⟩, Environment.isUnlimited hkeys, ?_⟩
  · exact Environment.evaluateFlagWithin_ne_tooDeep hkeys hsegments hflags f scope
  · exact Environment.evaluateFlagWithin_eq_evaluateFlag hkeys hsegments hflags
      env.size_le_flagDepth f scope
  · intro inSegment evaluate h
    constructor
    · funext key s
      exact h.inSegment_refines env.segmentDepth key s (Environment.inSegment_ne_tooDeep key s)
    · funext f s
      have hlevels := Environment.evaluateFlagWithin_ne_tooDeep hkeys Nat.le.refl
        (Nat.lt_succ_self _) f s
      rw [h.evaluateFlagWithin_refines _ _ f s hlevels]
      exact Environment.evaluateFlagWithin_eq_evaluateFlag hkeys Nat.le.refl (Nat.lt_succ_self _)
        env.size_le_flagDepth f s

/-- The error that the evaluation of a flag ends in with limits, if it does. -/
def Environment.errorWithin? (env : Environment) (segments flags : Nat) (f : Flag) :
    Option EvalError :=
  match (env.evaluateFlagWithin segments flags f .empty).1 with
  | .ok _ => none
  | .error e => some e

/-- Flags in a row, with two segments at its end that name each other.  One of these is filed under
a foreign key. -/
def winding : Environment where
  store := .ofDataset ⟨
    .ofList [("b", .requiring "b" ["c"]), ("c", (Flag.requiring "c" []).forSegments ["x"])],
    .ofList [("x", .naming "x" [] ["y"]), ("y", .naming "z" [] ["x"])]⟩
  provider := none
  context := .ofUserKey "u"

/-- The limits of the theorem are needed here, and the cycle ends the evaluation within them. -/
theorem evaluate_terminates_winding :
    let top := Flag.requiring "a" ["b"]
    winding.store.data.FlagsUnderOwnKeys ∧
      winding.errorWithin? 1 3 top = some .tooDeep ∧
      winding.errorWithin? 2 2 top = some .tooDeep ∧
      winding.errorWithin? 2 3 top = some (.segmentCycle "x") ∧
      (winding.evaluateFlagWithin 2 3 top .empty).1 ≠ .error .tooDeep ∧
      winding.evaluateFlagWithin 2 3 top .empty = winding.run top := by
  intro top
  have hkeys : winding.store.data.FlagsUnderOwnKeys := by
    intro key f hf
    have hmem := SortedMap.mem_of_find?_ofList hf
    simp only [List.mem_cons, List.not_mem_nil, or_false, Prod.mk.injEq] at hmem
    rcases hmem with ⟨rfl, rfl⟩ | ⟨rfl, rfl⟩ <;> rfl
  have hwithin := (evaluate_terminates winding hkeys).1 2 3 (by decide) (by decide) top .empty
  exact ⟨hkeys, by decide +kernel, by decide +kernel, by decide +kernel, hwithin.1, hwithin.2⟩

end FeatureFlags
