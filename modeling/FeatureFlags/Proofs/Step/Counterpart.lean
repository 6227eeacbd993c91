import FeatureFlags.Proofs.Context.Indifference
import FeatureFlags.Proofs.Step.Lockstep
import Mathlib.Data.List.Forall2
import Mathlib.Data.Option.Basic

/-!
# Flags that select alike

Two stores may hold different flags under the same keys and give the same answers, if the flags
differ only in how their outcomes come to select what they select for the context.  Everything else
of an evaluation, the lookups and the chains and the segments, is the same then.

The two evaluations do not give the same records, since a record names its flag and the flags are
different ones.  So their scopes are related and not equal, and as a record is made after the flag
has been evaluated, a relation of scopes has to carry the relation of the flags along.

How the flags are related is a parameter.  It is enough that flags that can be reached select alike if
they are related; what cannot be reached may select as it likes.

## What is here

* `Flag.SelectsAlike`: flags that select alike for a context.
* `Scope.Counterpart`, `Eval.Counterparts`: scopes that differ in the flags of their records, and
  steps that do.
* `Store.Counterpart`: stores with related flags.
* `Environment.evaluate_counterpart`: the evaluations give the same, and related records.
-/

set_option autoImplicit false

namespace FeatureFlags

/-! ## Flags -/

/-- Two rules ask for the same, and their outcomes select alike in their flags. -/
structure FlagRule.SelectsAlike (c : Context) (f g : Flag) (r s : FlagRule) : Prop where
  /-- They have the same identifier. -/
  id : r.id = s.id
  /-- They have the same clauses. -/
  clauses : r.clauses = s.clauses
  /-- Their outcomes select the same, or fail alike. -/
  outcome : f.select r.outcome c = g.select s.outcome c

/-- Two flags select alike for a context, and differ in nothing that does not bear on this. -/
structure Flag.SelectsAlike (c : Context) (f g : Flag) : Prop where
  /-- They differ only in their outcomes and in their salts. -/
  same : g = { f with rules := g.rules, fallthrough := g.fallthrough, salt := g.salt }
  /-- Their rules select alike. -/
  rules : List.Forall₂ (FlagRule.SelectsAlike c f g) f.rules g.rules
  /-- Their fallthroughs select the same, or fail alike. -/
  fallthrough : f.select f.fallthrough c = g.select g.fallthrough c

namespace Flag.SelectsAlike

variable {env : Environment} {f g : Flag} {inSegment : String → Eval Bool}

theorem variation_eq (h : f.SelectsAlike env.context g) : g.variation = f.variation := by
  rw [h.same]
  rfl

theorem decideByRules_eq (h : f.SelectsAlike env.context g) {rules rules' : List FlagRule}
    {index : Nat} (hrules : List.Forall₂ (FlagRule.SelectsAlike env.context f g) rules rules') :
    g.decideByRules env inSegment index rules' = f.decideByRules env inSegment index rules := by
  induction hrules generalizing index with
  | nil => rw [decideByRules, decideByRules, decideByFallthrough, decideByFallthrough,
      h.fallthrough, h.variation_eq]
  | cons hr _ ih =>
    rw [decideByRules, decideByRules, hr.clauses, hr.id, hr.outcome, h.variation_eq, ih]

/-- Flags that select alike are decided by the same step. -/
theorem evaluateWith_eq (env : Environment) (h : f.SelectsAlike env.context g)
    (prerequisites : Eval (Option String)) :
    g.evaluateWith env inSegment prerequisites = f.evaluateWith env inSegment prerequisites := by
  have hon : g.on = f.on := by rw [h.same]
  have hoff : g.offValue = f.offValue := by
    rw [h.same]
    rfl
  have htarget : g.targetVariation? = f.targetVariation? := by
    rw [h.same]
    rfl
  have hdecide : g.decide env inSegment = f.decide env inSegment := by
    rw [decide, decide, htarget, h.variation_eq, h.decideByRules_eq h.rules]
  rw [evaluateWith, evaluateWith, hon, hoff, hdecide]

end Flag.SelectsAlike

/-! ## Scopes and steps -/

variable {P : Flag → Flag → Prop}

/-- Two records tell the same of related flags. -/
structure PrerequisiteRecord.Counterpart (P : Flag → Flag → Prop) (r s : PrerequisiteRecord) :
    Prop where
  /-- The flags are related. -/
  flag : P r.flag s.flag
  /-- They are required by flags with the same key. -/
  prerequisiteOf : r.prerequisiteOf = s.prerequisiteOf
  /-- The details are the same. -/
  detail : r.detail = s.detail

/-- Two scopes differ in nothing but related flags of their records. -/
structure Scope.Counterpart (P : Flag → Flag → Prop) (s t : Scope) : Prop where
  /-- They agree in everything else. -/
  same : t = { s with records := t.records }
  /-- Their records tell the same. -/
  records : List.Forall₂ (PrerequisiteRecord.Counterpart P) s.records t.records

/-- The same environment with another store. -/
def Environment.withStore (env : Environment) (s : Store) : Environment :=
  { env with store := s }

namespace Eval

variable {α β : Type}

/-- Both steps end alike, from scopes that differ in the flags of their records. -/
def Counterparts (P : Flag → Flag → Prop) ⦃α : Type⦄ (x y : Eval α) : Prop :=
  ∀ s t : Scope, s.Counterpart P t → (x s).1 = (y t).1 ∧ (x s).2.Counterpart P (y t).2

namespace Counterparts

theorem pure (a : α) : Counterparts P (Pure.pure a : Eval α) (Pure.pure a) := Lockstep.pure a

theorem fail (e : EvalError) : Counterparts P (Eval.fail e : Eval α) (Eval.fail e) := Lockstep.fail e

theorem bind {x y : Eval α} {f g : α → Eval β} (hx : Counterparts P x y)
    (hf : ∀ a, Counterparts P (f a) (g a)) : Counterparts P (x >>= f) (y >>= g) :=
  Lockstep.bind hx hf

/-- A change that has nothing to do with records. -/
theorem update {f : Scope → Scope}
    (hf : ∀ s rs, f { s with records := rs } = { f s with records := rs }) :
    Counterparts P (Eval.update f) (Eval.update f) := by
  intro s t h
  have hrecords (s : Scope) : (f s).records = s.records := by
    have hsame := congrArg Scope.records (hf s s.records)
    exact hsame
  refine ⟨rfl, ?_, ?_⟩
  · change f t = { f s with records := (f t).records }
    rw [hrecords, ← hf, ← h.same]
  · change List.Forall₂ _ (f s).records (f t).records
    rw [hrecords, hrecords]
    exact h.records

/-- A look at anything but records. -/
theorem read {f : Scope → α} (hf : ∀ s rs, f { s with records := rs } = f s) :
    Counterparts P (Eval.read f) (Eval.read f) := by
  refine Lockstep.read fun s t h => ?_
  rw [h.same]
  exact (hf s t.records).symm

/-- A step in a scope that is changed in something other than records. -/
theorem around {before after : Scope → Scope} {x y : Eval α}
    (hbefore : ∀ s rs, before { s with records := rs } = { before s with records := rs })
    (hafter : ∀ s rs, after { s with records := rs } = { after s with records := rs })
    (hx : Counterparts P x y) :
    Counterparts P (Eval.around before after x) (Eval.around before after y) :=
  Lockstep.around (fun s t h => (update hbefore s t h).2) (fun s t h => (update hafter s t h).2) hx

theorem record {f g : Flag} (h : P f g) (parent : String) (detail : Detail FlagValue) :
    Counterparts P (Eval.record f parent detail) (Eval.record g parent detail) := by
  intro s t hst
  have hstatus : s.status = t.status := by rw [hst.same]
  refine ⟨rfl, ?_, List.rel_append hst.records (.cons ⟨h, rfl, ?_⟩ .nil)⟩
  · change { t with records := _ } = { s with records := _ }
    rw [hst.same]
    rfl
  · rw [hstatus]

/-- Related flags in the records make no difference to what looks at no flag. -/
theorem congruence (env : Environment) (t : Store) :
    Congruence env (env.withStore t) (fun _ => True) (Counterparts P) where
  context := rfl
  pure := pure
  bind := bind
  fail _ := fail _
  warn _ := update fun _ _ => rfl
  note _ := update fun _ _ => rfl
  consult := Lockstep.consult rfl (fun _ _ h => by rw [h.same]) (fun _ => update fun _ _ => rfl)
    (fun _ => update fun _ _ => rfl)
    fun _ _ h _ => ⟨by rw [h.same], h.records⟩

end Counterparts

end Eval

/-! ## Stores -/

/-- Two stores differ in nothing but related flags under the same keys. -/
structure Store.Counterpart (P : Flag → Flag → Prop) (s t : Store) : Prop where
  /-- They agree in everything else. -/
  same : t = { s with data := { s.data with flags := t.data.flags } }
  /-- Under each key both hold related flags, or neither holds one. -/
  flags : ∀ key, Option.Rel P (s.data.flags.find? key) (t.data.flags.find? key)

namespace Store.Counterpart

variable {s t : Store} (h : s.Counterpart P t)

include h

theorem segments_eq : t.data.segments = s.data.segments := by rw [h.same]

theorem segment?_eq : t.data.segment? = s.data.segment? := by
  funext key
  rw [Dataset.segment?, Dataset.segment?, h.segments_eq]

theorem segmentFailures_eq : t.segmentFailures = s.segmentFailures := by rw [h.same]

theorem flagFailures_eq : t.flagFailures = s.flagFailures := by rw [h.same]

theorem flag?_rel (hdeleted : ∀ f g, P f g → f.deleted = g.deleted) (key : String) :
    Option.Rel P (s.data.flag? key) (t.data.flag? key) :=
  SortedMap.rel_filter (h.flags key) fun f g hfg => by rw [hdeleted f g hfg]

/-- They hold as many flags, since they hold flags under the same keys. -/
theorem size_eq : t.data.flags.size = s.data.flags.size := (SortedMap.size_eq_of_rel h.flags).symm

end Store.Counterpart

/-! ## Evaluations -/

namespace Environment

variable {env : Environment} {t : Store} {top f g : Flag}

section

variable (hstore : env.store.Counterpart P t)

include hstore

theorem inSegment_counterpart (depth : Nat) (key : String) :
    Eval.Counterparts P (env.inSegment depth key) ((env.withStore t).inSegment depth key) := by
  have hcongruence := Eval.Counterparts.congruence (P := P) env t
  have henter {decide₁ decide₂ : Segment → Eval Bool} {key : String}
      (hdecide : ∀ s, Eval.Counterparts P (decide₁ s) (decide₂ s)) :
      Eval.Counterparts P (env.enterSegment decide₁ key)
        ((env.withStore t).enterSegment decide₂ key) := by
    refine Eval.Counterparts.bind (.read fun _ _ => rfl) fun chain => ?_
    split
    · exact .fail _
    · refine hcongruence.findSegment (congrFun hstore.segmentFailures_eq key).symm
        (congrFun hstore.segment?_eq key).symm (fun _ _ => trivial) fun s _ => ?_
      exact .around (fun _ _ => rfl) (fun _ _ => rfl) (hdecide s)
  induction depth generalizing key with
  | zero => exact henter fun _ => .fail _
  | succ depth ih => exact henter fun s => hcongruence.segment (fun _ _ => trivial) fun key _ => ih key

/-- Looking up a prerequisite gives related flags or none. -/
theorem enterPrerequisite_counterpart {evaluate₁ evaluate₂ : Flag → Eval (Detail FlagValue)}
    (hdeleted : ∀ f g, P f g → f.deleted = g.deleted) (parent : String) {p : Prerequisite}
    (hevaluate : ∀ f g, env.store.data.flag? p.key = some f → P f g →
      f.on = g.on ∧ Eval.Counterparts P (evaluate₁ f) (evaluate₂ g)) :
    Eval.Counterparts P (env.enterPrerequisite evaluate₁ parent p)
      ((env.withStore t).enterPrerequisite evaluate₂ parent p) := by
  refine .bind (.read fun _ _ => rfl) fun chain => ?_
  split
  · exact .fail _
  · rw [findPrerequisite, findPrerequisite, bind_flag?, bind_flag?]
    refine .bind (.update fun _ _ => rfl) fun _ => ?_
    have hfailures : (env.withStore t).store.flagFailures = env.store.flagFailures :=
      hstore.flagFailures_eq
    rw [hfailures]
    cases env.store.flagFailures p.key with
    | some e => exact .fail _
    | none =>
      have hrel : Option.Rel P (env.store.data.flag? p.key)
        ((env.withStore t).store.data.flag? p.key) := hstore.flag?_rel hdeleted p.key
      generalize hfound : env.store.data.flag? p.key = found,
        (env.withStore t).store.data.flag? p.key = found' at hrel ⊢
      cases hrel with
      | none => exact .pure _
      | @some f g hfg =>
        obtain ⟨hon, hdetail⟩ := hevaluate f g hfound hfg
        refine .bind hdetail fun detail => .bind (.record hfg parent detail) fun _ => ?_
        split
        · exact .fail _
        · rw [Prerequisite.isSatisfied, Prerequisite.isSatisfied, hon]
          exact .pure _

variable (hdeleted : ∀ f g, P f g → f.deleted = g.deleted)
  (halike : ∀ f g, env.store.data.ReachesFlag top f → P f g → f.SelectsAlike env.context g)

include hdeleted halike

theorem evaluateAbove_counterpart {evaluate₁ evaluate₂ : Flag → Eval (Detail FlagValue)}
    (hf : env.store.data.ReachesFlag top f) (hfg : P f g)
    (hevaluate : ∀ f g, env.store.data.ReachesFlag top f → P f g →
      Eval.Counterparts P (evaluate₁ f) (evaluate₂ g)) :
    Eval.Counterparts P (env.evaluateAbove evaluate₁ f)
      ((env.withStore t).evaluateAbove evaluate₂ g) := by
  have hcongruence := Eval.Counterparts.congruence (P := P) env t
  have hsame := halike f g hf hfg
  have hkey : g.key = f.key := by rw [hsame.same]
  have hprerequisites : g.prerequisites = f.prerequisites := by rw [hsame.same]
  have hdepth : (env.withStore t).segmentDepth = env.segmentDepth :=
    congrArg SortedMap.size hstore.segments_eq
  -- the second flag is decided as the first would be in its place, so only one flag is left
  rw [evaluateAbove, evaluateAbove, Flag.SelectsAlike.evaluateWith_eq (env.withStore t) hsame, hdepth]
  refine hcongruence.flag (fun _ _ => trivial) (fun _ => ?_) fun key _ =>
    inSegment_counterpart hstore _ key
  rw [failedPrerequisite?, failedPrerequisite?, hkey, hprerequisites]
  refine .around (fun _ _ => rfl) (fun _ _ => rfl) (hcongruence.inTurn fun p hp => ?_)
  refine enterPrerequisite_counterpart hstore hdeleted f.key fun f' g' hf' hfg' => ?_
  have hreached := hf.prerequisite hp hf'
  refine ⟨?_, hevaluate f' g' hreached hfg'⟩
  rw [(halike f' g' hreached hfg').same]

/-- Related flags that can be reached are evaluated alike. -/
theorem evaluateFlag_counterpart (depth : Nat) (hf : env.store.data.ReachesFlag top f)
    (hfg : P f g) :
    Eval.Counterparts P (env.evaluateFlag depth f) ((env.withStore t).evaluateFlag depth g) := by
  induction depth generalizing f g with
  | zero =>
    exact evaluateAbove_counterpart hstore hdeleted halike hf hfg fun _ _ _ _ => .fail _
  | succ depth ih =>
    exact evaluateAbove_counterpart hstore hdeleted halike hf hfg fun _ _ hf hfg => ih hf hfg

end

end Environment

/-- Two evaluations give the same, but for related flags in their records. -/
structure Evaluation.Counterpart (P : Flag → Flag → Prop) (d e : Evaluation) : Prop where
  /-- The details are the same. -/
  detail : d.detail = e.detail
  /-- The records tell the same. -/
  records : List.Forall₂ (PrerequisiteRecord.Counterpart P) d.records e.records
  /-- The same keys have been asked for. -/
  queries : d.queries = e.queries
  /-- The same warnings have been given. -/
  warnings : d.warnings = e.warnings

theorem Scope.Counterpart.ofRun {f g : Flag} {s t : Scope} (h : s.Counterpart P t)
    (hkey : g.key = f.key) (result : Except EvalError (Detail FlagValue)) :
    (Evaluation.ofRun f (result, s)).Counterpart P (.ofRun g (result, t)) := by
  have hstatus : t.status = s.status := by rw [h.same]
  have hwarnings : t.warnings = s.warnings := by rw [h.same]
  have hqueries : t.queries = s.queries := by
    rw [h.same]
    rfl
  cases result with
  | ok detail =>
    refine ⟨?_, h.records, hqueries.symm, hwarnings.symm⟩
    simp only [Evaluation.ofRun, hstatus]
  | error e =>
    refine ⟨?_, h.records, hqueries.symm, ?_⟩
    · simp only [Evaluation.ofRun, hstatus]
    · simp only [Evaluation.ofRun, hwarnings, hkey]

/-- **Flags that select alike give the same evaluation.**  Let two stores hold related flags under
the same keys, such that those which can be reached select alike.  Then related flags get the same
detail, and records that tell the same of related flags. -/
theorem Environment.evaluate_counterpart {env : Environment} {t : Store} {f g : Flag}
    (hstore : env.store.Counterpart P t) (hdeleted : ∀ f g, P f g → f.deleted = g.deleted)
    (halike : ∀ f' g', env.store.data.ReachesFlag f f' → P f' g' → f'.SelectsAlike env.context g')
    (hfg : P f g) : (evaluate env f).Counterpart P (evaluate (env.withStore t) g) := by
  have hkey : g.key = f.key := by rw [(halike f g .top hfg).same]
  have hdepth : (env.withStore t).flagDepth = env.flagDepth := by
    simp only [flagDepth, withStore, hstore.size_eq]
  obtain ⟨hresult, hscope⟩ := evaluateFlag_counterpart hstore hdeleted halike env.flagDepth .top hfg
    .empty .empty ⟨rfl, .nil⟩
  rw [evaluate, evaluate, run, run, hdepth]
  have hrun : (env.withStore t).evaluateFlag env.flagDepth g .empty =
      ((env.evaluateFlag env.flagDepth f .empty).1,
        ((env.withStore t).evaluateFlag env.flagDepth g .empty).2) := Prod.ext hresult.symm rfl
  rw [hrun]
  exact hscope.ofRun hkey _

end FeatureFlags
