import FeatureFlags.Proofs.Detail.WellFormed
import FeatureFlags.Proofs.Nesting.Graph
import FeatureFlags.Proofs.Step.Growth

/-!
# Lookups that fail

A store may fail to answer.  Such a failure is never taken for an answer: nothing on the way from a
lookup to the result of an evaluation recovers from an error, or makes another error of it.  So a
store that fails on some keys cannot change a result.  As long as none of these keys is looked up,
everything is as if the store did not fail; the first lookup of one ends the evaluation, and what
has been left behind until then is part of what would have been left behind in the end.

Two evaluations are compared here that differ in nothing but the failures of their stores, step by
step from the same scope.

## What is here

* `Environment.withFailures`: an environment whose store fails on some keys.
* `Scope.HasFailed`: a lookup has failed.
* `Eval.Interrupts`: a step does what another does, unless and until a lookup fails.
* `evaluate_withFailures`: the theorem.
-/

set_option autoImplicit false

namespace FeatureFlags

open BigSegmentStatus (noWorse noWorse_refl)

/-! ## Failures -/

namespace Environment

/-- The environment with a store that answers alike, but fails on some keys. -/
def withFailures (env : Environment) (flagFailures segmentFailures : String → Option StoreError) :
    Environment :=
  { env with store := { env.store with flagFailures, segmentFailures } }

/-- Whether an event is a lookup that fails. -/
def fails (env : Environment) : Event → Bool
  | .flagLookup key => (env.store.flagFailures key).isSome
  | .segmentLookup key => (env.store.segmentFailures key).isSome
  | .consultation _ _ | .query _ => false

end Environment

/-- A lookup has failed. -/
def Scope.HasFailed (env : Environment) (s : Scope) : Prop := s.events.any env.fails = true

theorem Scope.not_hasFailed_empty (env : Environment) : ¬ HasFailed env .empty := by
  intro h
  cases h

/-- If no lookup fails, none has failed. -/
theorem Store.NeverFails.not_hasFailed {env : Environment} (h : env.store.NeverFails) (s : Scope) :
    ¬ s.HasFailed env := by
  intro hfailed
  obtain ⟨event, -, hfails⟩ := List.any_eq_true.1 hfailed
  cases event <;> simp [Environment.fails, h.flags, h.segments] at hfails

theorem Scope.SameTrace.hasFailed_iff {env : Environment} {s t : Scope} (h : s.SameTrace t) :
    t.HasFailed env ↔ s.HasFailed env := by
  rw [HasFailed, HasFailed, h.events]

theorem Scope.hasFailed_note {env : Environment} {s : Scope} {e : Event} :
    HasFailed env { s with events := s.events ++ [e] } ↔ s.HasFailed env ∨ env.fails e = true := by
  simp [HasFailed, List.any_append]

/-! ## Steps -/

namespace Eval

variable {α β : Type} {env : Environment}

/-- The second step does what the first does, unless a lookup fails in it.  It ends with that
failure then, and what it has left behind is part of what the first leaves behind. -/
structure Interrupts (env : Environment) (x y : Eval α) : Prop where
  /-- The first step loses nothing. -/
  grows : Growing x
  /-- The second is the same, or a lookup fails in it. -/
  outcome : ∀ s : Scope, ¬ s.HasFailed env →
    y s = x s ∧ (∀ e, (x s).1 = .error e → ¬ e.IsOfStore) ∧ ¬ (x s).2.HasFailed env ∨
    (∃ e, (y s).1 = .error (.store e)) ∧ (y s).2.HasFailed env ∧ (y s).2.Grows (x s).2

namespace Interrupts

theorem pure (a : α) : Interrupts env (Pure.pure a) (Pure.pure a) where
  grows := Growing.still fun _ => rfl
  outcome s hs := by
    refine Or.inl ⟨rfl, fun e h => ?_, hs⟩
    cases h

theorem fail {e : EvalError} (he : ¬ e.IsOfStore) :
    Interrupts env (Eval.fail e : Eval α) (Eval.fail e) where
  grows := Growing.still fun _ => rfl
  outcome s hs := by
    refine Or.inl ⟨rfl, fun e' h => ?_, hs⟩
    cases h
    exact he

theorem read (f : Scope → α) : Interrupts env (Eval.read f) (Eval.read f) where
  grows := Growing.still fun _ => rfl
  outcome s hs := by
    refine Or.inl ⟨rfl, fun e h => ?_, hs⟩
    cases h

/-- What is kept track of is changed without a lookup that fails. -/
theorem update {f : Scope → Scope} (hgrows : ∀ s : Scope, s.Grows (f s))
    (hfine : ∀ s : Scope, ¬ s.HasFailed env → ¬ (f s).HasFailed env) :
    Interrupts env (Eval.update f) (Eval.update f) where
  grows := hgrows
  outcome s hs := by
    refine Or.inl ⟨rfl, fun e h => ?_, hfine s hs⟩
    cases h

theorem bind {x y : Eval α} {f g : α → Eval β} (hx : Interrupts env x y)
    (hf : ∀ a, Interrupts env (f a) (g a)) : Interrupts env (x >>= f) (y >>= g) where
  grows := hx.grows.bind fun a => (hf a).grows
  outcome s hs := by
    simp only [Bind.bind, Eval.bind]
    rcases hx.outcome s hs with ⟨hsame, hinternal, hfine⟩ | ⟨⟨e, he⟩, hfailed, hgrows⟩
    · rw [hsame]
      rcases hxs : x s with ⟨r, t⟩
      rw [hxs] at hinternal hfine
      cases r with
      | error e =>
        refine Or.inl ⟨rfl, fun e' h => ?_, hfine⟩
        cases h
        exact hinternal e rfl
      | ok a => exact (hf a).outcome t hfine
    · rcases hys : y s with ⟨r, t⟩
      rw [hys] at he hfailed hgrows
      subst he
      -- the first step may go on where the second has ended
      refine Or.inr ⟨⟨e, rfl⟩, hfailed, hgrows.trans ?_⟩
      rcases x s with ⟨r, u⟩
      cases r with
      | error e => exact Scope.Grows.refl u
      | ok a => exact (hf a).grows u

theorem note {e : Event} (he : env.fails e = false) :
    Interrupts env (Eval.note e) (Eval.note e) := by
  refine update (Growing.note e) fun s hs hfailed => ?_
  rcases Scope.hasFailed_note.1 hfailed with hs' | he'
  · exact hs hs'
  · rw [he] at he'
    cases he'

theorem observe (status : BigSegmentStatus) :
    Interrupts env (Environment.observe status) (Environment.observe status) :=
  update (Growing.observe status) fun _ hs => hs

theorem membership? (provider : Provider) (key : String) :
    Interrupts env (Environment.membership? provider key)
      (Environment.membership? provider key) := by
  refine bind (read _) fun known => ?_
  cases known with
  | some membership => exact pure membership
  | none =>
    refine bind (note rfl) fun _ => bind (observe _) fun _ => bind ?_ fun _ => pure _
    exact update (fun _ => ⟨List.prefix_refl _, List.prefix_refl _, noWorse_refl _⟩) fun _ hs => hs

theorem consult (env' : Environment) (key : String) (reference : Option String) :
    Interrupts env (env'.consult key reference) (env'.consult key reference) := by
  refine bind (note rfl) fun _ => ?_
  split
  · exact bind (observe _) fun _ => pure _
  · exact bind (observe _) fun _ => pure _
  · exact bind (membership? _ _) fun _ => pure _

theorem around {before after : Scope → Scope} {x y : Eval α}
    (hbefore : ∀ s : Scope, s.SameTrace (before s)) (hafter : ∀ s : Scope, s.SameTrace (after s))
    (h : Interrupts env x y) :
    Interrupts env (Eval.around before after x) (Eval.around before after y) where
  grows := h.grows.around hbefore hafter
  outcome s hs := by
    simp only [Eval.around]
    rcases h.outcome (before s) (mt (hbefore s).hasFailed_iff.1 hs) with
      ⟨hsame, hinternal, hfine⟩ | ⟨herror, hfailed, hgrows⟩
    · exact Or.inl ⟨by rw [hsame], hinternal, mt (hafter _).hasFailed_iff.1 hfine⟩
    · exact Or.inr ⟨herror, (hafter _).hasFailed_iff.2 hfailed,
        hgrows.of_sameTrace (hafter _) (hafter _)⟩

/-- A lookup is the same, or it fails. -/
theorem lookup {e : Event} {failure? : Option StoreError} {found : α} {x y : Eval α}
    (hx : ∀ s, x s = (.ok found, { s with events := s.events ++ [e] }))
    (hy : ∀ s, y s = (match failure? with
      | some error => .error (.store error)
      | none => .ok found, { s with events := s.events ++ [e] }))
    (hfails : env.fails e = failure?.isSome) : Interrupts env x y where
  grows s := by
    rw [hx]
    exact Growing.note e s
  outcome s hs := by
    rw [hx, hy, Scope.hasFailed_note, hfails]
    cases failure? with
    | none =>
      refine Or.inl ⟨rfl, fun e h => ?_, ?_⟩
      · cases h
      · exact fun h => h.elim hs Bool.noConfusion
    | some error => exact Or.inr ⟨⟨error, rfl⟩, Or.inr rfl, Scope.Grows.refl _⟩

variable {base : Environment} (hbase : base.store.NeverFails)
  {flagFailures segmentFailures : String → Option StoreError}

include hbase

theorem flag? (key : String) :
    Interrupts (base.withFailures flagFailures segmentFailures) (base.flag? key)
      ((base.withFailures flagFailures segmentFailures).flag? key) := by
  refine lookup (e := .flagLookup key) (fun s => ?_) (Environment.flag?_apply _ key) rfl
  rw [Environment.flag?_apply, hbase.flags key]
  rfl

theorem segment? (key : String) :
    Interrupts (base.withFailures flagFailures segmentFailures) (base.segment? key)
      ((base.withFailures flagFailures segmentFailures).segment? key) := by
  refine lookup (e := .segmentLookup key) (fun s => ?_) (Environment.segment?_apply _ key) rfl
  rw [Environment.segment?_apply, hbase.segments key]
  rfl

variable (flagFailures segmentFailures) in
/-- Two evaluations that differ in the failures of their stores have the same chains. -/
theorem nested :
    NestedCongruence base (base.withFailures flagFailures segmentFailures)
      fun _ x y => Interrupts (base.withFailures flagFailures segmentFailures) x y where
  context := rfl
  pure := pure
  bind := bind
  fail := fail
  warn ws := update (Growing.warn ws) fun _ hs => hs
  flagChain := read _
  segmentChain := read _
  withFlag _ _ _ h := around (fun _ => ⟨rfl, rfl, rfl⟩) (fun _ => ⟨rfl, rfl, rfl⟩) h
  withSegment _ _ _ h := around (fun _ => ⟨rfl, rfl, rfl⟩) (fun _ => ⟨rfl, rfl, rfl⟩) h
  flag? := flag? hbase
  segment? := segment? hbase
  record g parent detail := update (Growing.record g parent detail) fun _ hs => hs

end Interrupts

end Eval

/-! ## Segments and flags -/

namespace Environment

variable {env : Environment} {flagFailures segmentFailures : String → Option StoreError}

/-- What is known of the context before the rules are looked at takes no lookup. -/
theorem verdict_interrupts (s : Segment) :
    Eval.Interrupts (env.withFailures flagFailures segmentFailures) (s.verdict env)
      (s.verdict (env.withFailures flagFailures segmentFailures)) := by
  have hsame : s.verdict (env.withFailures flagFailures segmentFailures) = s.verdict env := rfl
  rw [hsame, Segment.verdict, Segment.storeVerdict]
  split
  · split
    · exact Eval.Interrupts.pure _
    · exact Eval.Interrupts.consult env _ _
  · exact Eval.Interrupts.pure _

variable (hstore : env.store.NeverFails)

include hstore

/-- **The evaluation of a flag is the same as without failures, unless and until a lookup
fails.** -/
theorem evaluateFlag_interrupts (depth : Nat) (f : Flag) :
    Eval.Interrupts (env.withFailures flagFailures segmentFailures) (env.evaluateFlag depth f)
      ((env.withFailures flagFailures segmentFailures).evaluateFlag depth f) :=
  (Eval.Interrupts.nested hstore flagFailures segmentFailures).evaluateFlag verdict_interrupts rfl
    depth f

/-- A run with failures is the same as without, or one of them ends it. -/
theorem run_withFailures (flagFailures segmentFailures : String → Option StoreError) (f : Flag) :
    let failing := env.withFailures flagFailures segmentFailures
    failing.run f = env.run f ∧ ¬ (failing.run f).2.HasFailed failing ∨
    (∃ e, (failing.run f).1 = .error (.store e)) ∧ (failing.run f).2.HasFailed failing ∧
      (failing.run f).2.Grows (env.run f).2 := by
  intro failing
  rcases (evaluateFlag_interrupts hstore env.flagDepth f).outcome .empty
    (Scope.not_hasFailed_empty failing) with ⟨hsame, -, hfine⟩ | hfailed
  · have hrun : failing.run f = env.run f := hsame
    exact Or.inl ⟨hrun, hrun ▸ hfine⟩
  · exact Or.inr hfailed

/-- Without failures no run ends with one. -/
theorem run_ne_store (f : Flag) (e : StoreError) : (env.run f).1 ≠ .error (.store e) := by
  -- the store fails as it does, which is never
  have hinterrupts : Eval.Interrupts (env.withFailures env.store.flagFailures
      env.store.segmentFailures) (env.evaluateFlag env.flagDepth f) _ :=
    evaluateFlag_interrupts hstore env.flagDepth f
  rcases hinterrupts.outcome .empty (hstore.not_hasFailed _) with ⟨-, hinternal, -⟩ | ⟨-, hfailed, -⟩
  · exact fun he => hinternal _ he trivial
  · exact absurd hfailed (hstore.not_hasFailed _)

end Environment

/-! ## Whole evaluations -/

theorem EvalError.kind_eq_exception_iff {e : EvalError} : e.kind = .exception ↔ e.IsOfStore := by
  cases e <;> simp [kind, IsOfStore]

/-- Only an error of the store is answered as an exception. -/
theorem reason_eq_exception_iff (env : Environment) (f : Flag) :
    (evaluate env f).detail.reason = .error .exception ↔
      ∃ e, (env.run f).1 = .error (.store e) := by
  rw [evaluate]
  rcases h : env.run f with ⟨r, s⟩
  cases r with
  | ok detail =>
    have hanswer := env.evaluateFlag_gives env.flagDepth f _ _ _ h
    constructor
    · intro hreason
      have hkind := (hanswer.wellFormed.of_error .exception hreason).1
      exact absurd hkind (by simp)
    · rintro ⟨e, he⟩
      cases he
  | error e =>
    simp only [Evaluation.ofRun, Detail.err, Detail.empty, Reason.error.injEq,
      EvalError.kind_eq_exception_iff, Except.error.injEq]
    cases e <;> simp [EvalError.IsOfStore]

/-- An evaluation that fails serves nothing. -/
theorem nothing_of_run_eq_error {env : Environment} {f : Flag} {e : EvalError}
    (h : (env.run f).1 = .error e) :
    (evaluate env f).detail.value = none ∧ (evaluate env f).detail.index = none := by
  rw [evaluate]
  rcases hrun : env.run f with ⟨r, s⟩
  rw [hrun] at h
  obtain rfl : r = .error e := h
  exact ⟨rfl, rfl⟩

/-- **A store that fails can interrupt an evaluation, but not change its result.**  Let lookups of
some keys fail in a store that otherwise does not.  If the evaluation looks up none of these keys,
its result is the same in every respect.  If it does, it is an exception without a value, the
records and queries made until then are the first of those made otherwise, and the status is no
worse than otherwise.  An evaluation is never an exception for any other cause. -/
theorem evaluate_withFailures (env : Environment) (hstore : env.store.NeverFails)
    (flagFailures segmentFailures : String → Option StoreError) (f : Flag) :
    let failing := env.withFailures flagFailures segmentFailures
    (¬ (failing.run f).2.HasFailed failing → evaluate failing f = evaluate env f) ∧
    ((failing.run f).2.HasFailed failing →
      (evaluate failing f).detail.reason = .error .exception ∧
      (evaluate failing f).detail.value = none ∧ (evaluate failing f).detail.index = none ∧
      (evaluate failing f).records <+: (evaluate env f).records ∧
      (evaluate failing f).queries <+: (evaluate env f).queries ∧
      noWorse (evaluate failing f).detail.status (evaluate env f).detail.status = true) ∧
    ((evaluate failing f).detail.reason = .error .exception ↔
      (failing.run f).2.HasFailed failing) ∧
    (evaluate env f).detail.reason ≠ .error .exception := by
  intro failing
  have hsound : (evaluate env f).detail.reason ≠ .error .exception := by
    rw [Ne, reason_eq_exception_iff]
    exact fun ⟨e, he⟩ => Environment.run_ne_store hstore f e he
  rcases Environment.run_withFailures hstore flagFailures segmentFailures f with
    ⟨hsame, hfine⟩ | ⟨⟨e, he⟩, hfailed, hgrows⟩
  · have heval : evaluate failing f = evaluate env f := by rw [evaluate, evaluate, hsame]
    refine ⟨fun _ => heval, fun h => absurd h hfine, ?_, hsound⟩
    rw [heval]
    exact ⟨fun h => absurd h hsound, fun h => absurd h hfine⟩
  · have hreason := (reason_eq_exception_iff failing f).2 ⟨e, he⟩
    obtain ⟨hvalue, hindex⟩ := nothing_of_run_eq_error he
    refine ⟨fun h => absurd hfailed h, fun _ => ⟨hreason, hvalue, hindex, ?_⟩,
      ⟨fun _ => hfailed, fun _ => hreason⟩, hsound⟩
    rw [evaluate, evaluate]
    simp only [Evaluation.ofRun_records, Evaluation.ofRun_queries, Evaluation.ofRun_status]
    exact ⟨hgrows.records, hgrows.queries, hgrows.status⟩

/-- Prerequisites, of which the second needs a segment that is nested in another. -/
def layered : Environment where
  store := .ofDataset (.ofItems
    [.requiring "core" [], (Flag.requiring "index" ["core"]).forSegments ["staff"]]
    [.naming "staff" [] ["managers"], .naming "managers" ["u"] []])
  provider := none
  context := .ofUserKey "u"

/-- The inner segment cannot be looked up: what the prerequisites before it have left behind is
still there. -/
theorem evaluate_withFailures_layered :
    let page := Flag.requiring "page" ["core", "index"]
    let failing := layered.withFailures (fun _ => none)
      fun key => if key = "managers" then some .poisoned else none
    let recorded := fun env => (evaluate env page).records.map fun r => (r.flag.key, r.prerequisiteOf)
    layered.store.NeverFails ∧ (failing.run page).2.HasFailed failing ∧
      (evaluate failing page).detail.reason = .error .exception ∧
      recorded failing = [("core", "page"), ("core", "index")] ∧
      recorded layered = [("core", "page"), ("core", "index"), ("index", "page")] := by
  intro page failing recorded
  have hstore : layered.store.NeverFails := ⟨fun _ => rfl, fun _ => rfl⟩
  have hfailed : (failing.run page).2.HasFailed failing := by
    unfold Scope.HasFailed
    decide +kernel
  have hinterrupted := (evaluate_withFailures layered hstore _ _ page).2.1 hfailed
  exact ⟨hstore, hfailed, hinterrupted.1, by decide +kernel, by decide +kernel⟩

end FeatureFlags
