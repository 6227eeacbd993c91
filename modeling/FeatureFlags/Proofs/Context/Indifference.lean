import FeatureFlags.Proofs.Store.Locality

/-!
# Contexts that nothing tells apart

An evaluation looks at its context in few places: a clause judges it, an outcome selects a variation
for it, targets and the lists of a segment look for its keys, the weight of a segment rule includes
it or not, and an unbounded segment asks for its key.  Where all of these give the same for two
contexts, the evaluations for them are the same, whatever else the contexts differ in.

It is enough to ask this of the flags and segments that the evaluation can be led to.  They are the
flag itself, the prerequisites of flags, and the segments that the rules of flags and segments name,
as far as the store holds them.

## What is here

* `Dataset.ReachesFlag`, `Dataset.ReachesSegment`: what an evaluation can be led to.
* `Clause.TreatsAlike`, `Segment.TreatsAlike`, `Flag.TreatsAlike`: what looks at a context sees no
  difference.
* `Environment.evaluate_withContext`: the evaluations for two contexts are the same.
-/

set_option autoImplicit false

namespace FeatureFlags

/-! ## What an evaluation can be led to -/

namespace Dataset

/-- The flags that the evaluation of a flag can be led to: itself and all prerequisites. -/
inductive ReachesFlag (d : Dataset) (top : Flag) : Flag → Prop
  | top : ReachesFlag d top top
  | prerequisite {f g : Flag} {p : Prerequisite} : ReachesFlag d top f → p ∈ f.prerequisites →
      d.flag? p.key = some g → ReachesFlag d top g

/-- The segments that the evaluation of a flag can be led to: those that the rules of flags name,
and those that the rules of segments name. -/
inductive ReachesSegment (d : Dataset) (top : Flag) : Segment → Prop
  | named {f : Flag} {key : String} {s : Segment} : d.ReachesFlag top f → key ∈ f.namedSegments →
      d.segment? key = some s → ReachesSegment d top s
  | nested {s t : Segment} {key : String} : ReachesSegment d top s → key ∈ s.namedSegments →
      d.segment? key = some t → ReachesSegment d top t

variable {d : Dataset} {top : Flag}

theorem ReachesFlag.eq_or_exists {f : Flag} (h : d.ReachesFlag top f) :
    f = top ∨ ∃ key, d.flag? key = some f := by
  cases h with
  | top => exact Or.inl rfl
  | prerequisite _ _ hf => exact Or.inr ⟨_, hf⟩

theorem ReachesSegment.exists_segment? {s : Segment} (h : d.ReachesSegment top s) :
    ∃ key, d.segment? key = some s := by
  cases h with
  | named _ _ hs => exact ⟨_, hs⟩
  | nested _ _ hs => exact ⟨_, hs⟩

end Dataset

/-! ## The places that look at a context -/

/-- A clause gives the same for two contexts.  One that names segments looks at neither itself. -/
def Clause.TreatsAlike (c d : Context) (clause : Clause) : Prop :=
  clause.op ≠ .segmentMatch → clause.judge c = clause.judge d

/-- A segment gives the same for two contexts, as far as it looks at them itself. -/
structure Segment.TreatsAlike (c d : Context) (s : Segment) : Prop where
  clauses : ∀ r ∈ s.rules, ∀ clause ∈ r.clauses, clause.TreatsAlike c d
  weights : ∀ r ∈ s.rules, r.includes s.key s.salt c = r.includes s.key s.salt d
  lists : s.unbounded = false → s.listing? c = s.listing? d
  keys : s.unbounded = true → (c.entity? s.unboundedContextKind).map Entity.key =
    (d.entity? s.unboundedContextKind).map Entity.key

/-- A flag gives the same for two contexts, as far as it looks at them itself. -/
structure Flag.TreatsAlike (c d : Context) (f : Flag) : Prop where
  targets : f.targetVariation? c = f.targetVariation? d
  clauses : ∀ r ∈ f.rules, ∀ clause ∈ r.clauses, clause.TreatsAlike c d
  outcomes : ∀ r ∈ f.rules, f.select r.outcome c = f.select r.outcome d
  fallthrough : f.select f.fallthrough c = f.select f.fallthrough d

/-! ## Equal steps -/

/-- The same environment with another context. -/
def Environment.withContext (env : Environment) (d : Context) : Environment :=
  { env with context := d }

section

variable {env : Environment} {d : Context} {in₁ in₂ : String → Eval Bool}

/-- Equality as a congruence, for the parts of an evaluation that do not look at the context. -/
theorem Eval.congruence_self (env : Environment) :
    Congruence env env (fun _ => True) fun _ x y => x = y :=
  congruence_eq rfl rfl

theorem Clause.evaluate_withContext {clause : Clause} (h : clause.TreatsAlike env.context d)
    (hin : ∀ key ∈ clause.namedSegments, in₁ key = in₂ key) :
    clause.evaluate env in₁ = clause.evaluate (env.withContext d) in₂ := by
  rw [evaluate, evaluate]
  rw [namedSegments] at hin
  split
  · next hop =>
    rw [if_pos hop] at hin
    rw [(Eval.congruence_self env).any hin]
  · next hop => rw [Environment.withContext, h hop]

theorem allHold_withContext {clauses : List Clause}
    (h : ∀ clause ∈ clauses, clause.TreatsAlike env.context d)
    (hin : ∀ key ∈ clauses.flatMap Clause.namedSegments, in₁ key = in₂ key) :
    allHold env in₁ clauses = allHold (env.withContext d) in₂ clauses :=
  (Eval.congruence_self env).all fun clause hc => Clause.evaluate_withContext (h clause hc)
    fun key hkey => hin key (List.mem_flatMap.2 ⟨clause, hc, hkey⟩)

theorem SegmentRule.evaluate_withContext {r : SegmentRule} {key salt : String}
    (h : ∀ clause ∈ r.clauses, clause.TreatsAlike env.context d)
    (hweight : r.includes key salt env.context = r.includes key salt d)
    (hin : ∀ key ∈ r.clauses.flatMap Clause.namedSegments, in₁ key = in₂ key) :
    r.evaluate env in₁ key salt = r.evaluate (env.withContext d) in₂ key salt := by
  rw [evaluate, evaluate, allHold_withContext h hin, hweight]
  rfl

namespace Segment

variable {s : Segment}

/-- The store of big segments is asked for a key and nothing else. -/
theorem storeVerdict_eq (env : Environment) (s : Segment) :
    s.storeVerdict env = ((env.context.entity? s.unboundedContextKind).map Entity.key).elim
      (return some false) fun key => env.consult key s.storeReference? := by
  rw [storeVerdict]
  cases env.context.entity? s.unboundedContextKind <;> rfl

theorem verdict_withContext (h : s.TreatsAlike env.context d) :
    s.verdict env = s.verdict (env.withContext d) := by
  rw [verdict, verdict]
  split
  · next hunbounded =>
    rw [storeVerdict_eq, storeVerdict_eq, h.keys hunbounded]
    rfl
  · next hunbounded =>
    rw [h.lists (eq_false_of_ne_true hunbounded)]
    rfl

theorem contains_withContext (h : s.TreatsAlike env.context d)
    (hin : ∀ key ∈ s.namedSegments, in₁ key = in₂ key) :
    s.contains env in₁ = s.contains (env.withContext d) in₂ := by
  rw [contains, contains, verdict_withContext h]
  refine congrArg _ (funext fun known => ?_)
  cases known with
  | some answer => rfl
  | none =>
    exact (Eval.congruence_self env).any fun r hr =>
      SegmentRule.evaluate_withContext (h.clauses r hr) (h.weights r hr)
        fun key hkey => hin key (List.mem_flatMap.2 ⟨r, hr, hkey⟩)

end Segment

namespace Flag

variable {f : Flag}

theorem decideByRules_withContext (h : f.TreatsAlike env.context d) {rules : List FlagRule}
    {index : Nat} (hrules : ∀ r ∈ rules, r ∈ f.rules)
    (hin : ∀ key ∈ f.namedSegments, in₁ key = in₂ key) :
    f.decideByRules env in₁ index rules = f.decideByRules (env.withContext d) in₂ index rules := by
  induction rules generalizing index with
  | nil =>
    rw [decideByRules, decideByRules, decideByFallthrough, decideByFallthrough, h.fallthrough]
    rfl
  | cons r rules ih =>
    obtain ⟨hr, hrest⟩ := List.forall_mem_cons.1 hrules
    rw [decideByRules, decideByRules, h.outcomes r hr, ih hrest,
      allHold_withContext (h.clauses r hr) fun key hkey =>
        hin key (List.mem_flatMap.2 ⟨r, hr, hkey⟩)]
    rfl

theorem decide_withContext (h : f.TreatsAlike env.context d)
    (hin : ∀ key ∈ f.namedSegments, in₁ key = in₂ key) :
    f.decide env in₁ = f.decide (env.withContext d) in₂ := by
  rw [decide, decide, h.targets, decideByRules_withContext h (fun r hr => hr) hin]
  rfl

end Flag

end

/-! ## Whole evaluations -/

namespace Environment

variable {env : Environment} {d : Context} {top f : Flag}
  {evaluate₁ evaluate₂ : Flag → Eval (Detail FlagValue)}

theorem enterSegment_withContext {decide₁ decide₂ : Segment → Eval Bool} {key : String}
    (hdecide : ∀ s, env.store.data.segment? key = some s → decide₁ s = decide₂ s) :
    env.enterSegment decide₁ key = (env.withContext d).enterSegment decide₂ key := by
  have hfind : env.findSegment (fun s => Eval.withSegment key (decide₁ s)) key =
      env.findSegment (fun s => Eval.withSegment key (decide₂ s)) key :=
    (Eval.congruence_self env).findSegment rfl rfl (fun _ _ => trivial) fun s hs => by
      rw [hdecide s hs]
  rw [enterSegment, enterSegment, hfind]
  rfl

theorem failedPrerequisite?_withContext
    (hevaluate : ∀ p ∈ f.prerequisites, ∀ g, env.store.data.flag? p.key = some g →
      evaluate₁ g = evaluate₂ g) :
    env.failedPrerequisite? evaluate₁ f = (env.withContext d).failedPrerequisite? evaluate₂ f := by
  refine congrArg (Eval.withFlag f.key) ((Eval.congruence_self env).inTurn fun p hp => ?_)
  have hfind : env.findPrerequisite evaluate₁ f.key p = env.findPrerequisite evaluate₂ f.key p :=
    (Eval.congruence_self env).findPrerequisite rfl rfl (fun _ _ => trivial) trivial
      (fun _ _ => rfl) (hevaluate p hp)
  rw [enterPrerequisite, hfind]
  rfl

section

variable (hflags : ∀ f, env.store.data.ReachesFlag top f → f.TreatsAlike env.context d)
  (hsegments : ∀ s, env.store.data.ReachesSegment top s → s.TreatsAlike env.context d)

include hsegments

/-- All segments that can be reached give the same, so asking for one of them does. -/
theorem inSegment_withContext {depth : Nat} {key : String}
    (hkey : ∀ s, env.store.data.segment? key = some s → env.store.data.ReachesSegment top s) :
    env.inSegment depth key = (env.withContext d).inSegment depth key := by
  induction depth generalizing key with
  | zero => exact enterSegment_withContext fun _ _ => rfl
  | succ depth ih =>
    refine enterSegment_withContext fun s hs =>
      Segment.contains_withContext (hsegments s (hkey s hs)) fun other hother => ?_
    exact ih fun t ht => .nested (hkey s hs) hother ht

include hflags

theorem evaluateAbove_withContext (hf : env.store.data.ReachesFlag top f)
    (hevaluate : ∀ g, env.store.data.ReachesFlag top g → evaluate₁ g = evaluate₂ g) :
    env.evaluateAbove evaluate₁ f = (env.withContext d).evaluateAbove evaluate₂ f := by
  have hprerequisites : env.failedPrerequisite? evaluate₁ f =
      (env.withContext d).failedPrerequisite? evaluate₂ f :=
    failedPrerequisite?_withContext fun p hp g hg => hevaluate g (.prerequisite hf hp hg)
  have hin : ∀ key ∈ f.namedSegments, env.inSegment env.segmentDepth key =
      (env.withContext d).inSegment env.segmentDepth key := fun key hkey =>
    inSegment_withContext hsegments fun s hs => .named hf hkey hs
  rw [evaluateAbove, evaluateAbove, Flag.evaluateWith, Flag.evaluateWith, hprerequisites,
    Flag.decide_withContext (hflags f hf) hin]
  rfl

/-- All flags that can be reached give the same, so evaluating one of them does. -/
theorem evaluateFlag_withContext {depth : Nat} (hf : env.store.data.ReachesFlag top f) :
    env.evaluateFlag depth f = (env.withContext d).evaluateFlag depth f := by
  induction depth generalizing f with
  | zero => exact evaluateAbove_withContext hflags hsegments hf fun _ _ => rfl
  | succ depth ih => exact evaluateAbove_withContext hflags hsegments hf fun g hg => ih hg

end

/-- **Contexts that nothing tells apart** give the same evaluation: the same detail, records,
queries and warnings. -/
theorem evaluate_withContext
    (hflags : ∀ f, env.store.data.ReachesFlag top f → f.TreatsAlike env.context d)
    (hsegments : ∀ s, env.store.data.ReachesSegment top s → s.TreatsAlike env.context d) :
    evaluate env top = evaluate (env.withContext d) top := by
  rw [evaluate, evaluate, run, run, evaluateFlag_withContext hflags hsegments .top]
  rfl

end Environment

end FeatureFlags
