import FeatureFlags.Proofs.Step.Isolation
import FeatureFlags.Proofs.Step.Lockstep
import FeatureFlags.Proofs.Step.Nested

/-!
# Asking anew

An evaluation keeps what the provider of big segments has said of a key, and does not ask again.  A
provider that says the same whenever it is asked could be asked every time, and an evaluation that
does so is defined here.  Both are the same program but for the consultations.

The two are compared step by step.  What the first keeps is what the second hears, and the status
that the second hears again is part of what is known already.

## What is here

* `Environment.consultAnew`, and all that is built on it up to `evaluateAnew`.
* `Scope.SameButMemberships`: the scopes of the two evaluations.
* `Environment.evaluateFlag_sameAnew`: both evaluations do the same.
-/

set_option autoImplicit false

namespace FeatureFlags

open BigSegmentStatus (join)

/-! ## Evaluations that keep no memberships -/

namespace Environment

variable (env : Environment)

/-- What a provider says of a key, now. -/
def membershipAnew? (provider : Provider) (contextKey : String) : Eval (Option Membership) := do
  Eval.note (.query contextKey)
  let (membership, status) := provider.query contextKey
  observe status
  return membership

/-- A consultation that asks the provider in any case. -/
def consultAnew (contextKey : String) (reference : Option String) : Eval (Option Bool) := do
  Eval.note (.consultation contextKey reference)
  match reference, env.provider with
  | none, _ =>
    observe .notConfigured
    return some false
  | some _, none =>
    observe .notConfigured
    return none
  | some reference, some provider =>
    return (← membershipAnew? provider contextKey).bind (·.check reference)

end Environment

/-- What is known of the context before the rules are looked at, by asking anew. -/
def Segment.verdictAnew (env : Environment) (s : Segment) : Eval (Option Bool) :=
  if s.unbounded then
    match env.context.entity? s.unboundedContextKind with
    | none => return some false
    | some e => env.consultAnew e.key s.storeReference?
  else return s.listing? env.context

namespace Environment

variable (env : Environment)

/-- Whether the context is in the segment with a key, by asking anew. -/
def inSegmentAnew : Nat → String → Eval Bool
  | 0 => env.enterSegment fun _ => Eval.fail .tooDeep
  | depth + 1 => env.enterSegment fun s =>
    s.containsAfter env (inSegmentAnew depth) (s.verdictAnew env)

/-- The detail of a flag, by asking anew, given an evaluation of the flags below it. -/
def evaluateAboveAnew (evaluate : Flag → Eval (Detail FlagValue)) (f : Flag) :
    Eval (Detail FlagValue) :=
  f.evaluateWith env (env.inSegmentAnew env.segmentDepth) (env.failedPrerequisite? evaluate f)

/-- The detail of a flag, by asking anew. -/
def evaluateFlagAnew : Nat → Flag → Eval (Detail FlagValue)
  | 0 => env.evaluateAboveAnew fun _ => Eval.fail .tooDeep
  | depth + 1 => env.evaluateAboveAnew (evaluateFlagAnew depth)

end Environment

/-- The evaluation of a flag, by asking anew. -/
def evaluateAnew (env : Environment) (f : Flag) : Evaluation :=
  .ofRun f (env.evaluateFlagAnew env.flagDepth f .empty)

/-! ## Steps -/

/-- Both scopes agree in all but the memberships kept and the events, and the first keeps what the
provider says. -/
structure Scope.SameButMemberships (env : Environment) (s t : Scope) : Prop where
  /-- The same flags are being evaluated. -/
  flagChain : s.flagChain = t.flagChain
  /-- The same segments are being decided. -/
  segmentChain : s.segmentChain = t.segmentChain
  /-- The same status is known. -/
  status : s.status = t.status
  /-- The same prerequisites have been recorded. -/
  records : s.records = t.records
  /-- The same warnings have been given. -/
  warnings : s.warnings = t.warnings
  /-- The memberships kept are those of the provider. -/
  honest : s.Honest env

namespace Eval

variable {α β : Type} {env : Environment}

/-- Both steps end alike, from scopes that agree in all but the memberships. -/
def SameAnew (env : Environment) (x y : Eval α) : Prop :=
  ∀ s t : Scope, s.SameButMemberships env t →
    (x s).1 = (y t).1 ∧ (x s).2.SameButMemberships env (y t).2

namespace SameAnew

theorem pure (a : α) : SameAnew env (Pure.pure a) (Pure.pure a) := Lockstep.pure a

theorem bind {x y : Eval α} {f g : α → Eval β} (hx : SameAnew env x y)
    (hf : ∀ a, SameAnew env (f a) (g a)) : SameAnew env (x >>= f) (y >>= g) := Lockstep.bind hx hf

theorem update {f g : Scope → Scope}
    (hfg : ∀ s t, s.SameButMemberships env t → (f s).SameButMemberships env (g t)) :
    SameAnew env (Eval.update f) (Eval.update g) := Lockstep.update hfg

/-- The events do not matter. -/
theorem note (e e' : Event) : SameAnew env (Eval.note e) (Eval.note e') :=
  update fun _ _ h => ⟨h.flagChain, h.segmentChain, h.status, h.records, h.warnings, h.honest⟩

theorem observe (status : BigSegmentStatus) :
    SameAnew env (Environment.observe status) (Environment.observe status) := by
  refine update fun s t h => ?_
  refine ⟨h.flagChain, h.segmentChain, ?_, h.records, h.warnings, h.honest.observe status⟩
  rw [h.status]

theorem around {before after : Scope → Scope} {x y : Eval α}
    (hbefore : ∀ s t, s.SameButMemberships env t → (before s).SameButMemberships env (before t))
    (hafter : ∀ s t, s.SameButMemberships env t → (after s).SameButMemberships env (after t))
    (h : SameAnew env x y) :
    SameAnew env (Eval.around before after x) (Eval.around before after y) :=
  Lockstep.around hbefore hafter h

/-- **What is kept is what is heard anew**, with a status that is part of the one that is known. -/
theorem membership? {provider : Provider} (hprovider : env.provider = some provider)
    (key : String) :
    SameAnew env (Environment.membership? provider key)
      (Environment.membershipAnew? provider key) := by
  intro s t h
  have hanew : Environment.membershipAnew? provider key t =
      (.ok (provider.query key).1,
        (Environment.observe (provider.query key).2 { t with events := t.events ++ [.query key] }).2) :=
    rfl
  rw [hanew]
  cases hkept : s.memberships.find? key with
  | some known =>
    obtain ⟨rfl, hstatus⟩ := h.honest key known hkept provider hprovider
    rw [Environment.membership?_of_known hkept]
    refine ⟨rfl, h.flagChain, h.segmentChain, ?_, h.records, h.warnings, h.honest⟩
    rw [Environment.observe_status, ← h.status, hstatus]
  | none =>
    rw [Environment.membership?_of_unknown hkept]
    refine ⟨rfl, h.flagChain, h.segmentChain, ?_, h.records, h.warnings,
      h.honest.asked hprovider key⟩
    rw [Environment.asked, Environment.observe_status, Environment.observe_status, h.status]

theorem consult (key : String) (reference : Option String) :
    SameAnew env (env.consult key reference) (env.consultAnew key reference) := by
  refine bind (note _ _) fun _ => ?_
  cases reference with
  | none => exact bind (observe _) fun _ => pure _
  | some reference =>
    cases hprovider : env.provider with
    | none => exact bind (observe _) fun _ => pure _
    | some provider => exact bind (membership? hprovider key) fun _ => pure _

/-- The memberships are of no concern to anything but the consultations. -/
theorem nested (env : Environment) : NestedCongruence env env fun _ x y => SameAnew env x y where
  context := rfl
  pure := pure
  bind := bind
  fail _ := fun _ _ h => ⟨rfl, h⟩
  warn ws := update fun _ _ h => { h with warnings := by rw [h.warnings] }
  flagChain := fun _ _ h => ⟨congrArg Except.ok h.flagChain, h⟩
  segmentChain := fun _ _ h => ⟨congrArg Except.ok h.segmentChain, h⟩
  withFlag key _ _ h := around (fun _ _ hst => { hst with flagChain := by rw [hst.flagChain] })
    (fun _ _ hst => { hst with flagChain := by rw [hst.flagChain] }) h
  withSegment key _ _ h :=
    around (fun _ _ hst => { hst with segmentChain := by rw [hst.segmentChain] })
      (fun _ _ hst => { hst with segmentChain := by rw [hst.segmentChain] }) h
  flag? key := by
    intro s t h
    rw [Environment.flag?_apply, Environment.flag?_apply]
    exact ⟨rfl, (note _ _ s t h).2⟩
  segment? key := by
    intro s t h
    rw [Environment.segment?_apply, Environment.segment?_apply]
    exact ⟨rfl, (note _ _ s t h).2⟩
  record g parent detail := update fun _ _ h => { h with records := by rw [h.records, h.status] }

end SameAnew

end Eval

/-! ## Segments and flags -/

namespace Environment

variable {env : Environment}

theorem verdict_sameAnew (s : Segment) :
    Eval.SameAnew env (s.verdict env) (s.verdictAnew env) := by
  rw [Segment.verdict, Segment.storeVerdict, Segment.verdictAnew]
  split
  · cases env.context.entity? s.unboundedContextKind with
    | none => exact Eval.SameAnew.pure _
    | some e => exact Eval.SameAnew.consult _ _
  · exact Eval.SameAnew.pure _

theorem inSegment_sameAnew (depth : Nat) (key : String) :
    Eval.SameAnew env (env.inSegment depth key) (env.inSegmentAnew depth key) := by
  have hnested := Eval.SameAnew.nested env
  induction depth generalizing key with
  | zero => exact hnested.enterSegment (fun _ => hnested.fail id) key
  | succ depth ih =>
    refine hnested.enterSegment (fun s => ?_) key
    exact hnested.containsAfter (fun _ he => he.not_isOfStore) (verdict_sameAnew s) fun key _ => ih key

/-- **An evaluation does the same if it asks anew.** -/
theorem evaluateFlag_sameAnew (depth : Nat) (f : Flag) :
    Eval.SameAnew env (env.evaluateFlag depth f) (env.evaluateFlagAnew depth f) := by
  have hnested := Eval.SameAnew.nested env
  induction depth generalizing f with
  | zero =>
    exact hnested.level (fun _ => hnested.fail id) (fun key => inSegment_sameAnew _ key) f
  | succ depth ih => exact hnested.level ih (fun key => inSegment_sameAnew _ key) f

end Environment

/-- The result is the same but for the queries. -/
theorem evaluate_eq_evaluateAnew (env : Environment) (f : Flag) :
    (evaluate env f).detail = (evaluateAnew env f).detail ∧
      (evaluate env f).records = (evaluateAnew env f).records ∧
      (evaluate env f).warnings = (evaluateAnew env f).warnings := by
  have hstart : Scope.empty.SameButMemberships env .empty :=
    ⟨rfl, rfl, rfl, rfl, rfl, Scope.honest_empty env⟩
  obtain ⟨hresult, hscope⟩ :=
    Environment.evaluateFlag_sameAnew env.flagDepth f .empty .empty hstart
  rw [evaluate, Environment.run, evaluateAnew]
  rcases hkept : env.evaluateFlag env.flagDepth f .empty with ⟨r, s⟩
  rcases hanew : env.evaluateFlagAnew env.flagDepth f .empty with ⟨r', t⟩
  rw [hkept, hanew] at hresult hscope
  obtain rfl : r = r' := hresult
  cases r with
  | ok detail =>
    simp only [Evaluation.ofRun]
    exact ⟨by rw [hscope.status], hscope.records, hscope.warnings⟩
  | error e =>
    simp only [Evaluation.ofRun]
    exact ⟨by rw [hscope.status], hscope.records, by rw [hscope.warnings]⟩

end FeatureFlags
