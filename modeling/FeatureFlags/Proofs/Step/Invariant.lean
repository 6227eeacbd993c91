import FeatureFlags.Proofs.Step.Congruence

/-!
# What a step keeps, gives and fails with

`Eval.Keeps I x Q E` says all that is usually wanted of one step `x`: from a scope with the
invariant `I` it ends in one, whether it fails or not; a value that it gives is in `Q`, and an
error that it fails with is in `E`.  There is a rule for each way to build a step.

Chains are what most invariants are about.  A step takes place `At` chains and records; most steps
leave all three as they are, and so keep every invariant that reads nothing else.

## What is here

* `Eval.Keeps`, with its rules; `Keeps.congruence` makes it a congruence.
* `Scope.At`: the invariant of given chains and records.
* `Keeps.around`: steps with a key on a chain.
-/

set_option autoImplicit false

namespace FeatureFlags

/-! ## Chains

A key that is not on a chain can be put on it and taken off again.  One that was on it before would
be lost, which is why a key is looked for before it is entered. -/

namespace Eval

theorem enter_of_not_mem {key : String} {chain : List String} (h : key ∉ chain) :
    enter key chain = key :: chain := by
  simp [enter, h]

theorem leave_cons_self {key : String} {chain : List String} (h : key ∉ chain) :
    leave key (key :: chain) = chain := by
  rw [leave, List.filter_cons_of_neg (by simp), List.filter_eq_self]
  rintro other hother
  simpa using fun heq : other = key => h (heq ▸ hother)

end Eval

/-- Two scopes agree in their chains and records. -/
structure Scope.Agrees (s t : Scope) : Prop where
  /-- The same flags are being evaluated. -/
  flagChain : s.flagChain = t.flagChain
  /-- The same segments are being decided. -/
  segmentChain : s.segmentChain = t.segmentChain
  /-- The same prerequisites have been recorded. -/
  records : s.records = t.records

/-- The scope has the given chains and records. -/
def Scope.At (C D : List String) (rs : List PrerequisiteRecord) (s : Scope) : Prop :=
  s.flagChain = C ∧ s.segmentChain = D ∧ s.records = rs

/-- An invariant that reads only chains and records. -/
def Scope.Visible (I : Scope → Prop) : Prop := ∀ s t : Scope, s.Agrees t → I s → I t

theorem Scope.visible_at (C D : List String) (rs : List PrerequisiteRecord) :
    Visible (At C D rs) := by
  rintro s t h ⟨hC, hD, hrs⟩
  exact ⟨h.flagChain.symm.trans hC, h.segmentChain.symm.trans hD, h.records.symm.trans hrs⟩

namespace Eval

variable {α β : Type}

/-- From a scope with `I` the step ends in one; a value is then in `Q` and an error in `E`. -/
def Keeps (I : Scope → Prop) (x : Eval α) (Q : α → Prop) (E : EvalError → Prop) : Prop :=
  ∀ s, I s → I (x s).2 ∧ match (x s).1 with
    | .ok a => Q a
    | .error e => E e

namespace Keeps

variable {I J : Scope → Prop} {E : EvalError → Prop} {P Q : α → Prop}

/-! ## Reading it off a run -/

theorem ok {x : Eval α} {s t : Scope} {a : α} (h : Keeps I x Q E) (hs : I s)
    (hx : x s = (.ok a, t)) : I t ∧ Q a := by
  have := h s hs
  rwa [hx] at this

theorem error {x : Eval α} {s t : Scope} {e : EvalError} (h : Keeps I x Q E) (hs : I s)
    (hx : x s = (.error e, t)) : I t ∧ E e := by
  have := h s hs
  rwa [hx] at this

/-! ## Rules -/

theorem pure {a : α} (h : Q a) : Keeps I (Pure.pure a) Q E := fun _ hs => ⟨hs, h⟩

theorem fail {e : EvalError} (h : E e) : Keeps I (Eval.fail e) Q E := fun _ hs => ⟨hs, h⟩

theorem bind {x : Eval β} {f : β → Eval α} {P : β → Prop} (hx : Keeps I x P E)
    (hf : ∀ b, P b → Keeps I (f b) Q E) : Keeps I (x >>= f) Q E := by
  intro s hs
  have hb := hx s hs
  simp only [Bind.bind, Eval.bind]
  rcases hxs : x s with ⟨r, t⟩
  rw [hxs] at hb
  cases r with
  | error e => exact hb
  | ok b => exact hf b hb.2 t hb.1

theorem mono {x : Eval α} {E' : EvalError → Prop} (h : Keeps I x P E) (hQ : ∀ a, P a → Q a)
    (hE : ∀ e, E e → E' e) : Keeps I x Q E' := by
  intro s hs
  obtain ⟨ht, hr⟩ := h s hs
  refine ⟨ht, ?_⟩
  cases hx : (x s).1 with
  | ok a =>
    rw [hx] at hr
    exact hQ a hr
  | error e =>
    rw [hx] at hr
    exact hE e hr

theorem update {f : Scope → Scope} {Q : Unit → Prop} (hf : ∀ s, I s → I (f s)) (hQ : Q ()) :
    Keeps I (Eval.update f) Q E := fun s hs => ⟨hf s hs, hQ⟩

/-- A step that keeps chains and records where they are keeps what reads nothing else. -/
theorem of_at {x : Eval α} (hI : Scope.Visible I)
    (h : ∀ s, I s → Keeps (Scope.At s.flagChain s.segmentChain s.records) x Q E) :
    Keeps I x Q E := by
  intro s hs
  obtain ⟨⟨hC, hD, hrs⟩, hr⟩ := h s hs s ⟨rfl, rfl, rfl⟩
  exact ⟨hI s _ ⟨hC.symm, hD.symm, hrs.symm⟩ hs, hr⟩

/-! ## Steps that leave chains and records alone -/

theorem note (hI : Scope.Visible I) (e : Event) : Keeps I (Eval.note e) (fun _ => True) E :=
  update (fun s hs => hI s _ ⟨rfl, rfl, rfl⟩ hs) trivial

theorem warn (hI : Scope.Visible I) (ws : List Warning) :
    Keeps I (Eval.warn ws) (fun _ => True) E :=
  update (fun s hs => hI s _ ⟨rfl, rfl, rfl⟩ hs) trivial

theorem observe (hI : Scope.Visible I) (status : BigSegmentStatus) :
    Keeps I (Environment.observe status) (fun _ => True) E :=
  update (fun s hs => hI s _ ⟨rfl, rfl, rfl⟩ hs) trivial

theorem membership? (hI : Scope.Visible I) (provider : Provider) (key : String) :
    Keeps I (Environment.membership? provider key) (fun _ => True) E := by
  refine bind (P := fun _ => True) (fun s hs => ⟨hs, trivial⟩) fun known _ => ?_
  cases known with
  | some membership => exact pure trivial
  | none =>
    refine bind (note hI (.query key)) fun _ _ => bind (observe hI _) fun _ _ => ?_
    refine bind (P := fun _ => True) ?_ fun _ _ => pure trivial
    exact update (fun s hs => hI s _ ⟨rfl, rfl, rfl⟩ hs) trivial

theorem consult (hI : Scope.Visible I) (env : Environment) (key : String)
    (reference : Option String) : Keeps I (env.consult key reference) (fun _ => True) E := by
  refine bind (note hI (.consultation key reference)) fun _ _ => ?_
  split
  · exact bind (observe hI .notConfigured) fun _ _ => pure trivial
  · exact bind (observe hI .notConfigured) fun _ _ => pure trivial
  · next provider _ => exact bind (membership? hI provider key) fun _ _ => pure trivial

/-- **Keeping an invariant is a congruence**, so it needs to be shown only of what is particular to
it. -/
theorem congruence (hI : Scope.Visible I) (env : Environment) (E : EvalError → Prop) :
    Congruence env env E fun _ x _ => Keeps I x (fun _ => True) E where
  context := rfl
  pure _ := pure trivial
  bind hx hf := bind hx fun a _ => hf a
  fail he := fail he
  note e := note hI e
  warn ws := warn hI ws
  consult key reference := consult hI env key reference

/-- Deciding a segment keeps an invariant that deciding the segments named keeps. -/
theorem segment (hI : Scope.Visible I) {env : Environment} (hE : ∀ e : EvalError, e.IsOfData → E e)
    {inSegment : String → Eval Bool} {s : Segment}
    (hin : ∀ key ∈ s.namedSegments, Keeps I (inSegment key) (fun _ => True) E) :
    Keeps I (s.contains env inSegment) (fun _ => True) E :=
  @Congruence.segment env env E _ (congruence hI env E) inSegment inSegment hE s hin

/-- Targets, rules and fallthrough keep an invariant that deciding the segments named keeps. -/
theorem decide (hI : Scope.Visible I) {env : Environment} (hE : ∀ e : EvalError, e.IsOfData → E e)
    {inSegment : String → Eval Bool} {f : Flag}
    (hin : ∀ key ∈ f.namedSegments, Keeps I (inSegment key) (fun _ => True) E) :
    Keeps I (f.decide env inSegment) (fun _ => True) E :=
  @Compositional.decide env env E _ (congruence hI env E).toCompositional inSegment inSegment hE f hin

/-- Checking prerequisites one after the other keeps an invariant that each check keeps. -/
theorem inTurn (hI : Scope.Visible I) (env : Environment)
    {check : Prerequisite → Eval (Option Bool)} {failed : Option String} {ps : List Prerequisite}
    (hcheck : ∀ p ∈ ps, Keeps I (check p) (fun _ => True) E) :
    Keeps I (checkInTurn check failed ps) (fun _ => True) E :=
  @Compositional.inTurn env env E _ (congruence hI env E).toCompositional check check failed ps hcheck

/-- The evaluation of a flag keeps an invariant that checking its prerequisites and deciding the
segments named keep. -/
theorem flag (hI : Scope.Visible I) {env : Environment} (hE : ∀ e : EvalError, e.IsOfData → E e)
    {inSegment : String → Eval Bool} {f : Flag} {pre : Eval (Option String)}
    (hpre : Keeps I pre (fun _ => True) E)
    (hin : ∀ key ∈ f.namedSegments, Keeps I (inSegment key) (fun _ => True) E) :
    Keeps I (f.evaluateWith env inSegment pre) (fun _ => True) E :=
  @Compositional.flag env env E _ (congruence hI env E).toCompositional inSegment inSegment hE f pre pre
    (fun _ => hpre) hin

/-! ## Lookups -/

theorem bind_flag? (hI : Scope.Visible I) {env : Environment} {key : String}
    {k : Option Flag → Eval α} (hstore : ∀ e, env.store.flagFailures key = some e → E (.store e))
    (hk : Keeps I (k (env.store.data.flag? key)) Q E) : Keeps I (env.flag? key >>= k) Q E := by
  rw [Environment.bind_flag?]
  refine bind (note hI _) fun _ _ => ?_
  cases hf : env.store.flagFailures key with
  | some e => exact fail (hstore e hf)
  | none => exact hk

/-- Looking up a segment keeps an invariant that deciding it keeps. -/
theorem findSegment (hI : Scope.Visible I) {env : Environment} {decide : Segment → Eval Bool}
    {key : String} (hstore : ∀ e, env.store.segmentFailures key = some e → E (.store e))
    (hdecide : ∀ s, env.store.data.segment? key = some s → Keeps I (decide s) (fun _ => True) E) :
    Keeps I (env.findSegment decide key) (fun _ => True) E :=
  @Congruence.findSegment env env E _ (congruence hI env E) decide decide key rfl rfl hstore
    hdecide

/-- Looking up a prerequisite keeps an invariant that evaluating it keeps, if recording such a
result does. -/
theorem findPrerequisite (hI : Scope.Visible I) {env : Environment} {parent : String}
    {evaluate : Flag → Eval (Detail FlagValue)} {p : Prerequisite}
    {P : Flag → Detail FlagValue → Prop}
    (hstore : ∀ e, env.store.flagFailures p.key = some e → E (.store e))
    (hmalformed : E (.malformedPrerequisite p.key))
    (hevaluate : ∀ g, env.store.data.flag? p.key = some g → Keeps I (evaluate g) (P g) E)
    (hrecord : ∀ g detail, P g detail →
      Keeps I (Eval.record g parent detail) (fun _ => True) E) :
    Keeps I (env.findPrerequisite evaluate parent p) (fun _ => True) E := by
  refine bind_flag? hI hstore ?_
  cases hg : env.store.data.flag? p.key with
  | none => exact pure trivial
  | some g =>
    refine bind (hevaluate g hg) fun detail hdetail => ?_
    refine bind (hrecord g detail hdetail) fun _ _ => ?_
    split
    · exact fail hmalformed
    · exact pure trivial

/-! ## Keys on chains -/

/-- A step in a changed scope keeps what the changes lead from and to. -/
theorem around {before after : Scope → Scope} {x : Eval α} (hbefore : ∀ s, I s → J (before s))
    (hafter : ∀ s, J s → I (after s)) (hx : Keeps J x Q E) :
    Keeps I (Eval.around before after x) Q E := by
  intro s hs
  obtain ⟨ht, hr⟩ := hx (before s) (hbefore s hs)
  exact ⟨hafter _ ht, hr⟩

/-- What follows a look at something kept track of may rely on it. -/
theorem bind_read {γ : Type} {f : Scope → γ} {c : γ} {k : γ → Eval α} (hf : ∀ s, I s → f s = c)
    (hk : Keeps I (k c) Q E) : Keeps I (Eval.read f >>= k) Q E := by
  intro s hs
  have := hk s hs
  rw [← hf s hs] at this
  exact this

end Keeps

end Eval

end FeatureFlags
