import FeatureFlags.Proofs.Step.Invariant

/-!
# The answers of a flag

There are few ways in which the evaluation of a flag can end with a detail: the off variation, for
one of two reasons, and a variation that a target, a rule or the fallthrough has selected.  Which of
them it is depends on prerequisites and segments, but that it is one of them does not, so it is
proved without looking at either.

## What is here

* `Eval.Gives`: what the values of a step are like, wherever it is taken.
* `Detail.IsError`: details that tell of an error.
* `Flag.Decision`, `Flag.Answer`: the details that a flag can end with.
* `Flag.Serves`: those that are decided for a context, with what has been selected.
* `Environment.evaluateFlag_gives`: there are no others.
-/

set_option autoImplicit false

namespace FeatureFlags

/-! ## Values of steps -/

namespace Eval

variable {α β : Type} {P Q : α → Prop}

/-- Every value that the step gives is in `Q`. -/
def Gives (x : Eval α) (Q : α → Prop) : Prop := ∀ s t a, x s = (.ok a, t) → Q a

namespace Gives

theorem pure {a : α} (h : Q a) : Gives (Pure.pure a) Q := by
  intro s t b hb
  cases hb
  exact h

theorem bind {x : Eval β} {f : β → Eval α} (hf : ∀ b, Gives (f b) Q) : Gives (x >>= f) Q := by
  intro s t a h
  simp only [Bind.bind, Eval.bind] at h
  split at h
  · next b s' _ => exact hf b s' t a h
  · cases h

theorem mono {x : Eval α} (h : Gives x P) (hPQ : ∀ a, P a → Q a) : Gives x Q :=
  fun s t a ha => hPQ a (h s t a ha)

/-- A computation that fails gives nothing to what follows. -/
theorem bind_ofExcept {x : Except EvalError β} {f : β → Eval α}
    (hf : ∀ b, x = .ok b → Gives (f b) Q) : Gives (ofExcept x >>= f) Q := by
  cases x with
  | ok b => exact hf b rfl
  | error e =>
    intro s t a h
    cases h

/-- What is known of the values can be added to what a step keeps. -/
theorem keeps {I : Scope → Prop} {x : Eval α} {E : EvalError → Prop} (h : Gives x Q)
    (hx : Keeps I x P E) : Keeps I x (fun a => P a ∧ Q a) E := by
  intro s hs
  obtain ⟨ht, hr⟩ := hx s hs
  refine ⟨ht, ?_⟩
  rcases hxs : x s with ⟨r, t⟩
  rw [hxs] at hr
  cases r with
  | ok a => exact ⟨hr, h s t a hxs⟩
  | error e => exact hr

end Gives

end Eval

/-! ## Flags -/

/-- The detail tells of an error. -/
def Detail.IsError {α : Type} (d : Detail α) : Prop := ∃ kind, d.reason = .error kind

namespace Flag

/-- What targets, rules and fallthrough can decide. -/
inductive Decision (f : Flag) : Detail FlagValue → Prop where
  | target (index : Nat) : Decision f (f.variation index .targetMatch)
  | rule {place : Nat} {r : FlagRule} (h : f.rules[place]? = some r) (index : Nat)
      (inExperiment : Bool) : Decision f (f.variation index (.ruleMatch place r.id inExperiment))
  | fallthrough (index : Nat) (inExperiment : Bool) :
      Decision f (f.variation index (.fallthrough inExperiment))

/-- What an evaluation can end with. -/
inductive Answer (f : Flag) : Detail FlagValue → Prop where
  | off (h : f.on = false) : Answer f (f.offValue .off)
  | prerequisiteFailed (h : f.on = true) (key : String) :
      Answer f (f.offValue (.prerequisiteFailed key))
  | decided (h : f.on = true) {detail : Detail FlagValue} (hdecision : f.Decision detail) :
      Answer f detail

/-- What targets, rules and fallthrough can serve to a context, with what their outcomes select for
it. -/
inductive Serves (f : Flag) (c : Context) : Detail FlagValue → Prop where
  | target (index : Nat) : Serves f c (f.variation index .targetMatch)
  | rule {place : Nat} {r : FlagRule} {selection : Selection} (hr : f.rules[place]? = some r)
      (hselect : f.select r.outcome c = .ok selection) :
      Serves f c (f.variation selection.variation (.ruleMatch place r.id selection.inExperiment))
  | fallthrough {selection : Selection} (hselect : f.select f.fallthrough c = .ok selection) :
      Serves f c (f.variation selection.variation (.fallthrough selection.inExperiment))

theorem Serves.decision {f : Flag} {c : Context} {detail : Detail FlagValue}
    (h : f.Serves c detail) : f.Decision detail := by
  cases h with
  | target index => exact .target index
  | rule hr _ => exact .rule hr _ _
  | fallthrough _ => exact .fallthrough _ _

variable {env : Environment} {inSegment : String → Eval Bool} {f : Flag}

theorem decideByRules_serves {rules : List FlagRule} {index : Nat}
    (h : ∀ i, f.rules[index + i]? = rules[i]?) :
    Eval.Gives (f.decideByRules env inSegment index rules) (f.Serves env.context) := by
  induction rules generalizing index with
  | nil => exact Eval.Gives.bind_ofExcept fun _ hselect => Eval.Gives.pure (.fallthrough hselect)
  | cons r rules ih =>
    refine Eval.Gives.bind fun holds => ?_
    cases holds with
    | true =>
      have hr : f.rules[index]? = some r := h 0
      exact Eval.Gives.bind_ofExcept fun _ hselect => Eval.Gives.pure (.rule hr hselect)
    | false =>
      refine ih fun i => ?_
      have hi := h (i + 1)
      rw [List.getElem?_cons_succ] at hi
      rw [← hi, Nat.add_assoc, Nat.add_comm 1]

theorem decide_serves : Eval.Gives (f.decide env inSegment) (f.Serves env.context) := by
  rw [decide]
  split
  · next index _ => exact Eval.Gives.pure (.target index)
  · exact decideByRules_serves fun i => by rw [Nat.zero_add]

theorem decide_gives : Eval.Gives (f.decide env inSegment) f.Decision :=
  decide_serves.mono fun _ h => h.decision

/-- Whatever holds of the off variation and of what targets, rules and fallthrough serve holds of
every detail that an evaluation ends with. -/
theorem evaluateWith_gives_of {prerequisites : Eval (Option String)}
    {Q : Detail FlagValue → Prop} (hoff : f.on = false → Q (f.offValue .off))
    (hfailed : f.on = true → ∀ key, Q (f.offValue (.prerequisiteFailed key)))
    (hserves : f.on = true → ∀ detail, f.Serves env.context detail → Q detail) :
    Eval.Gives (f.evaluateWith env inSegment prerequisites) Q := by
  rw [evaluateWith]
  split
  · next hon =>
    refine Eval.Gives.bind fun failed => ?_
    cases failed with
    | some key => exact Eval.Gives.pure (hfailed hon key)
    | none => exact decide_serves.mono (hserves hon)
  · next hon => exact Eval.Gives.pure (hoff (by simpa using hon))

theorem evaluateWith_gives {prerequisites : Eval (Option String)} :
    Eval.Gives (f.evaluateWith env inSegment prerequisites) f.Answer :=
  evaluateWith_gives_of .off .prerequisiteFailed fun hon _ h => .decided hon h.decision

end Flag

/-- **An evaluation ends with one of the answers of its flag**, whatever the store and the
context. -/
theorem Environment.evaluateFlag_gives (env : Environment) (depth : Nat) (f : Flag) :
    Eval.Gives (env.evaluateFlag depth f) f.Answer := by
  cases depth with
  | zero => exact Flag.evaluateWith_gives
  | succ depth => exact Flag.evaluateWith_gives

end FeatureFlags
