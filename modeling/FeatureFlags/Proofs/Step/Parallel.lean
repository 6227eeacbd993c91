import FeatureFlags.Proofs.Decision.FirstMatch
import FeatureFlags.Proofs.Rule.Rearrangement

/-!
# Evaluations of rearranged rules

Two stores hold the same flags and segments, but for the clauses of their rules.  How the clauses
are related is a parameter here, and so is what is said of the two evaluations.  If it is kept by
doing one step after another and by what is done on the way from one flag or segment to the next,
and holds of the decisions for lists of clauses that are related, then it holds of whole
evaluations.

So the only thing that is left to show for a relation of clauses is what it means for one rule.
This is not a congruence: both the contexts and the stores are different, and what is found under a
key is not the same but has the same rules up to their clauses.

## What is here

* `Flag.Rearranged`, `Segment.Rearranged`, `Store.Rearranged`, `Environment.Rearranged`: the inputs.
* `Eval.Parallel`: what is asked of a relation of steps.
* `Eval.Parallel.evaluateFlag`: it holds of evaluations.
-/

set_option autoImplicit false

namespace FeatureFlags

/-! ## Stores -/

/-- The rules differ only in their clauses, which are related. -/
structure FlagRule.Rearranged (L : List Clause → List Clause → Prop) (r r' : FlagRule) : Prop where
  /-- They agree in everything else. -/
  same : r' = { r with clauses := r'.clauses }
  /-- Their clauses are related. -/
  clauses : L r.clauses r'.clauses

/-- The flags differ only in the clauses of their rules, which are related. -/
structure Flag.Rearranged (L : List Clause → List Clause → Prop) (f f' : Flag) : Prop where
  /-- They agree in everything but their rules. -/
  same : f' = { f with rules := f'.rules }
  /-- Their rules are the same but for the clauses. -/
  rules : List.Forall₂ (FlagRule.Rearranged L) f.rules f'.rules

/-- The rules differ only in their clauses, which are related. -/
structure SegmentRule.Rearranged (L : List Clause → List Clause → Prop) (r r' : SegmentRule) :
    Prop where
  /-- They agree in everything else. -/
  same : r' = { r with clauses := r'.clauses }
  /-- Their clauses are related. -/
  clauses : L r.clauses r'.clauses

/-- The segments differ only in the clauses of their rules, which are related. -/
structure Segment.Rearranged (L : List Clause → List Clause → Prop) (S S' : Segment) : Prop where
  /-- They agree in everything but their rules. -/
  same : S' = { S with rules := S'.rules }
  /-- Their rules are the same but for the clauses. -/
  rules : List.Forall₂ (SegmentRule.Rearranged L) S.rules S'.rules

section

variable {L : List Clause → List Clause → Prop} (hL : ∀ clauses, L clauses clauses)

include hL

theorem Flag.Rearranged.refl (f : Flag) : f.Rearranged L f :=
  ⟨rfl, List.forall₂_same.2 fun r _ => ⟨rfl, hL r.clauses⟩⟩

theorem Segment.Rearranged.refl (S : Segment) : S.Rearranged L S :=
  ⟨rfl, List.forall₂_same.2 fun r _ => ⟨rfl, hL r.clauses⟩⟩

end

/-- The stores hold such flags and segments under the same keys, and the same lookups fail. -/
structure Store.Rearranged (L : List Clause → List Clause → Prop) (s s' : Store) : Prop where
  /-- They agree in everything but their data. -/
  same : s' = { s with data := s'.data }
  /-- Under each key both hold flags that differ only in clauses, or neither holds one. -/
  flags : ∀ key, Option.Rel (Flag.Rearranged L) (s.data.flags.find? key) (s'.data.flags.find? key)
  /-- Under each key both hold segments that differ only in clauses, or neither holds one. -/
  segments : ∀ key,
    Option.Rel (Segment.Rearranged L) (s.data.segments.find? key) (s'.data.segments.find? key)

/-- The environments have such stores, contexts that are rearranged, and the same provider. -/
structure Environment.Rearranged (L : List Clause → List Clause → Prop) (env env' : Environment) :
    Prop where
  /-- The contexts are rearranged. -/
  context : env.context.Rearranged env'.context
  /-- The provider is the same. -/
  provider : env'.provider = env.provider
  /-- The stores differ only in clauses. -/
  store : env.store.Rearranged L env'.store

namespace Environment.Rearranged

variable {L : List Clause → List Clause → Prop} {env env' : Environment}
  (h : env.Rearranged L env')

include h

theorem flagFailures_eq : env'.store.flagFailures = env.store.flagFailures := by rw [h.store.same]

theorem segmentFailures_eq : env'.store.segmentFailures = env.store.segmentFailures := by
  rw [h.store.same]

theorem flag?_rel (key : String) :
    Option.Rel (Flag.Rearranged L) (env.store.data.flag? key) (env'.store.data.flag? key) :=
  SortedMap.rel_filter (h.store.flags key) fun f f' hf => by rw [hf.same]

theorem segment?_rel (key : String) :
    Option.Rel (Segment.Rearranged L) (env.store.data.segment? key)
      (env'.store.data.segment? key) :=
  SortedMap.rel_filter (h.store.segments key) fun S S' hS => by rw [hS.same]

theorem segmentDepth_eq : env'.segmentDepth = env.segmentDepth :=
  (SortedMap.size_eq_of_rel h.store.segments).symm

theorem flagDepth_eq : env'.flagDepth = env.flagDepth := by
  simp only [flagDepth, SortedMap.size_eq_of_rel h.store.flags]

end Environment.Rearranged

/-! ## Steps -/

namespace Eval

/-- A relation of steps of two evaluations.  It is a congruence of the first, and is kept by what is
done on the way to a prerequisite or a segment; records may be those of different flags.  It holds
of the decisions for related lists of clauses if it holds of those for the segments they name. -/
structure Parallel (env env' : Environment) (L : List Clause → List Clause → Prop)
    (R : ∀ ⦃α : Type⦄, Eval α → Eval α → Prop) : Prop
    extends Congruence env env (fun _ => True) R where
  /-- A prerequisite is evaluated unless its key is on the chain. -/
  unlessFlag : ∀ {α : Type} (key : String) {x y : Eval α}, R x y →
    R (do
        if (← Eval.read Scope.flagChain).contains key then Eval.fail (.prerequisiteCycle key) else x)
      (do
        if (← Eval.read Scope.flagChain).contains key then Eval.fail (.prerequisiteCycle key) else y)
  /-- A segment is decided unless its key is on the chain. -/
  unlessSegment : ∀ {α : Type} (key : String) {x y : Eval α}, R x y →
    R (do
        if (← Eval.read Scope.segmentChain).contains key then Eval.fail (.segmentCycle key) else x)
      (do
        if (← Eval.read Scope.segmentChain).contains key then Eval.fail (.segmentCycle key) else y)
  /-- A flag is put on the chain. -/
  withFlag : ∀ {α : Type} (key : String) {x y : Eval α}, R x y →
    R (Eval.withFlag key x) (Eval.withFlag key y)
  /-- A segment is put on the chain. -/
  withSegment : ∀ {α : Type} (key : String) {x y : Eval α}, R x y →
    R (Eval.withSegment key x) (Eval.withSegment key y)
  /-- A record is made. -/
  record : ∀ f g parent detail, R (Eval.record f parent detail) (Eval.record g parent detail)
  /-- Lists of clauses are decided. -/
  allHold : ∀ {in₁ in₂ : String → Eval Bool} {clauses clauses' : List Clause},
    (∀ key, R (in₁ key) (in₂ key)) → L clauses clauses' →
      R (FeatureFlags.allHold env in₁ clauses) (FeatureFlags.allHold env' in₂ clauses')

section

variable {env env' : Environment} {E : EvalError → Prop} {R : ∀ ⦃α : Type⦄, Eval α → Eval α → Prop}
  (h : Compositional env env' E R) {β γ : Type} {p : β → Eval Bool} {q : γ → Eval Bool} {l : List β}
  {m : List γ} (hpq : List.Forall₂ (fun x y => R (p x) (q y)) l m)

include h hpq

/-- A search through lists of related steps. -/
theorem Compositional.any_forall₂ : R (Eval.any p l) (Eval.any q m) := by
  induction hpq with
  | nil => exact h.pure false
  | cons hxy _ ih =>
    refine h.bind hxy fun b => ?_
    cases b with
    | true => exact h.pure true
    | false => exact ih

theorem Compositional.all_forall₂ : R (Eval.all p l) (Eval.all q m) := by
  induction hpq with
  | nil => exact h.pure true
  | cons hxy _ ih =>
    refine h.bind hxy fun b => ?_
    cases b with
    | true => exact ih
    | false => exact h.pure false

end

namespace Parallel

variable {env env' : Environment} {L : List Clause → List Clause → Prop}
  {R : ∀ ⦃α : Type⦄, Eval α → Eval α → Prop} (h : Parallel env env' L R)
  (henv : env.Rearranged L env') {in₁ in₂ : String → Eval Bool}

include h henv

/-! ### Segments -/

theorem segmentRule (hin : ∀ key, R (in₁ key) (in₂ key)) {r r' : SegmentRule}
    (hr : r.Rearranged L r') (key salt : String) :
    R (r.evaluate env in₁ key salt) (r'.evaluate env' in₂ key salt) := by
  refine h.bind (h.allHold hin hr.clauses) fun b => ?_
  cases b with
  | true =>
    have hincludes : r'.includes key salt env'.context = r.includes key salt env.context := by
      rw [henv.context.includes_eq, hr.same]
      rfl
    rw [if_pos rfl, if_pos rfl, hincludes]
    exact h.ofExcept fun _ _ => trivial
  | false => exact h.pure false

theorem contains (hin : ∀ key, R (in₁ key) (in₂ key)) {S S' : Segment} (hS : S.Rearranged L S') :
    R (S.contains env in₁) (S'.contains env' in₂) := by
  have hverdict : S'.verdict env' = S.verdict env := by
    rw [henv.context.verdict_eq rfl rfl henv.provider, hS.same]
    rfl
  have hkey : S'.key = S.key := by rw [hS.same]
  have hsalt : S'.salt = S.salt := by rw [hS.same]
  rw [Segment.contains, Segment.contains, hverdict, hkey, hsalt]
  refine h.bind (h.verdict S) fun known => ?_
  cases known with
  | some answer => exact h.pure answer
  | none =>
    exact h.any_forall₂ (hS.rules.imp fun r r' hr => h.segmentRule henv hin hr S.key S.salt)

theorem enterSegment {decide₁ decide₂ : Segment → Eval Bool}
    (hdecide : ∀ S S', S.Rearranged L S' → R (decide₁ S) (decide₂ S')) (key : String) :
    R (env.enterSegment decide₁ key) (env'.enterSegment decide₂ key) := by
  refine h.unlessSegment key ?_
  rw [Environment.findSegment, Environment.findSegment, Environment.bind_segment?,
    Environment.bind_segment?, henv.segmentFailures_eq]
  refine h.bind (h.note _) fun _ => ?_
  cases env.store.segmentFailures key with
  | some e => exact h.fail trivial
  | none =>
    have hrel := henv.segment?_rel key
    generalize env.store.data.segment? key = found, env'.store.data.segment? key = found' at hrel
    cases hrel with
    | none => exact h.pure false
    | some hS => exact h.withSegment key (hdecide _ _ hS)

/-- Segments that differ only in clauses are decided in parallel, level by level. -/
theorem inSegment (depth : Nat) (key : String) :
    R (env.inSegment depth key) (env'.inSegment depth key) := by
  induction depth generalizing key with
  | zero => exact h.enterSegment henv (fun _ _ _ => h.fail trivial) key
  | succ depth ih => exact h.enterSegment henv (fun _ _ hS => h.contains henv ih hS) key

/-! ### Flags -/

theorem serve {f f' : Flag} (hf : f.Rearranged L f') (o : Outcome) (reason : Bool → Reason) :
    R (f.serve o env.context reason) (f'.serve o env'.context reason) := by
  have hselect : f'.select o env'.context = f.select o env.context := by
    rw [Flag.select, Flag.select, henv.context.select_eq, hf.same]
  have hvariation : f'.variation = f.variation := by
    rw [hf.same]
    rfl
  rw [Flag.serve, Flag.serve, hselect, hvariation]
  exact h.bind (h.ofExcept fun _ _ => trivial) fun _ => h.pure _

theorem decideByRules (hin : ∀ key, R (in₁ key) (in₂ key)) {f f' : Flag} (hf : f.Rearranged L f')
    {rules rules' : List FlagRule} (hrules : List.Forall₂ (FlagRule.Rearranged L) rules rules')
    (index : Nat) :
    R (f.decideByRules env in₁ index rules) (f'.decideByRules env' in₂ index rules') := by
  induction hrules generalizing index with
  | nil =>
    have hfallthrough : f'.fallthrough = f.fallthrough := by rw [hf.same]
    rw [Flag.decideByRules, Flag.decideByRules, Flag.decideByFallthrough,
      Flag.decideByFallthrough, hfallthrough]
    exact h.serve henv hf f.fallthrough .fallthrough
  | @cons r r' _ _ hr _ ih =>
    refine h.bind (h.allHold hin hr.clauses) fun b => ?_
    cases b with
    | true =>
      have houtcome : r'.outcome = r.outcome := by rw [hr.same]
      have hid : r'.id = r.id := by rw [hr.same]
      rw [if_pos rfl, if_pos rfl, houtcome, hid]
      exact h.serve henv hf r.outcome (.ruleMatch index r.id)
    | false => exact ih (index + 1)

theorem decide (hin : ∀ key, R (in₁ key) (in₂ key)) {f f' : Flag} (hf : f.Rearranged L f') :
    R (f.decide env in₁) (f'.decide env' in₂) := by
  have htarget : f'.targetVariation? env'.context = f.targetVariation? env.context := by
    rw [henv.context.targetVariation?_eq, hf.same]
    rfl
  have hvariation : f'.variation = f.variation := by
    rw [hf.same]
    rfl
  rw [Flag.decide, Flag.decide, htarget, hvariation]
  split
  · exact h.pure _
  · exact h.decideByRules henv hin hf hf.rules 0

theorem enterPrerequisite {evaluate₁ evaluate₂ : Flag → Eval (Detail FlagValue)}
    (hevaluate : ∀ g g', g.Rearranged L g' → R (evaluate₁ g) (evaluate₂ g')) (parent : String)
    (p : Prerequisite) :
    R (env.enterPrerequisite evaluate₁ parent p) (env'.enterPrerequisite evaluate₂ parent p) := by
  refine h.unlessFlag p.key ?_
  rw [Environment.findPrerequisite, Environment.findPrerequisite, Environment.bind_flag?,
    Environment.bind_flag?, henv.flagFailures_eq]
  refine h.bind (h.note _) fun _ => ?_
  cases env.store.flagFailures p.key with
  | some e => exact h.fail trivial
  | none =>
    have hrel := henv.flag?_rel p.key
    generalize env.store.data.flag? p.key = found, env'.store.data.flag? p.key = found' at hrel
    cases hrel with
    | none => exact h.pure none
    | @some g g' hg =>
      refine h.bind (hevaluate g g' hg) fun detail =>
        h.bind (h.record g g' parent detail) fun _ => ?_
      split
      · exact h.fail trivial
      · have hon : g'.on = g.on := by rw [hg.same]
        rw [Prerequisite.isSatisfied, Prerequisite.isSatisfied, hon]
        exact h.pure _

theorem evaluateAbove {evaluate₁ evaluate₂ : Flag → Eval (Detail FlagValue)}
    (hevaluate : ∀ g g', g.Rearranged L g' → R (evaluate₁ g) (evaluate₂ g')) {f f' : Flag}
    (hf : f.Rearranged L f') :
    R (env.evaluateAbove evaluate₁ f) (env'.evaluateAbove evaluate₂ f') := by
  obtain ⟨rules, rfl⟩ : ∃ rules, f' = { f with rules } := ⟨_, hf.same⟩
  rw [Environment.evaluateAbove, Environment.evaluateAbove, Flag.evaluateWith, Flag.evaluateWith,
    henv.segmentDepth_eq]
  split
  · refine h.bind (h.withFlag f.key (h.inTurn fun p _ => ?_)) fun failed => ?_
    · exact h.enterPrerequisite henv hevaluate f.key p
    · cases failed with
      | some key => exact h.pure _
      | none => exact h.decide henv (h.inSegment henv env.segmentDepth) hf
  · exact h.pure _

/-- **Flags that differ only in clauses are evaluated in parallel.** -/
theorem evaluateFlag (depth : Nat) {f f' : Flag} (hf : f.Rearranged L f') :
    R (env.evaluateFlag depth f) (env'.evaluateFlag depth f') := by
  induction depth generalizing f f' with
  | zero => exact h.evaluateAbove henv (fun _ _ _ => h.fail trivial) hf
  | succ depth ih => exact h.evaluateAbove henv (fun _ _ hg => ih hg) hf

end Parallel

end Eval

end FeatureFlags
