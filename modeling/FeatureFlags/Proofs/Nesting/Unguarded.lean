import FeatureFlags.Proofs.Nesting.Cycles

/-!
# Evaluations without chains

Without chains an evaluation is a plain recursion: a segment is decided when a rule names it and a
prerequisite evaluated when its flag is, whatever is being done at the time.  On data without cycles
this gives the same as the evaluation with chains.

The two are compared twice over.  First, level by level: a key that is looked for on a chain would
close a cycle of the graph, so it is never found, and putting it on the chain and taking it off
again leaves the chain as it was.  Second, in the number of levels: what is given with fewer levels
is given with more, unless there were too few, and those of the evaluation with chains suffice.

## What is here

* `evaluateUnguarded`: the evaluation without chains.
* `Environment.evaluateFlagUnguarded_congr`: it respects every congruence.
* `Eval.Mirrors`: a step does at given chains what another does without a look at them.
* `Eval.Refines`: a step does what another does, unless that one went too deep.
* `evaluate_eq_evaluateUnguarded`: the theorem.
-/

set_option autoImplicit false

namespace FeatureFlags

open Relation

/-! ## The evaluation without chains -/

namespace Environment

variable (env : Environment)

/-- Whether the context is in the segment with a key, with at most `depth` levels of nesting. -/
def inSegmentUnguarded : Nat → String → Eval Bool
  | 0 => env.findSegment fun _ => Eval.fail .tooDeep
  | depth + 1 => env.findSegment fun s => s.contains env (inSegmentUnguarded depth)

/-- The detail of a flag, given an evaluation of the flags below it and a decision for the segments
that its rules name. -/
def evaluateAboveUnguarded (inSegment : String → Eval Bool)
    (evaluate : Flag → Eval (Detail FlagValue)) (f : Flag) : Eval (Detail FlagValue) :=
  f.evaluateWith env inSegment
    (checkInTurn (env.findPrerequisite evaluate f.key) none f.prerequisites)

/-- The detail of a flag, with at most `depth` levels of prerequisites below it and the given
number of levels of segments. -/
def evaluateFlagUnguarded (segmentDepth : Nat) : Nat → Flag → Eval (Detail FlagValue)
  | 0 => env.evaluateAboveUnguarded (env.inSegmentUnguarded segmentDepth) fun _ =>
    Eval.fail .tooDeep
  | depth + 1 => env.evaluateAboveUnguarded (env.inSegmentUnguarded segmentDepth)
    (evaluateFlagUnguarded segmentDepth depth)

end Environment

/-- The evaluation of a flag without chains, with at most `depth` levels of prerequisites and of
segments. -/
def evaluateUnguarded (depth : Nat) (env : Environment) (f : Flag) : Evaluation :=
  .ofRun f (env.evaluateFlagUnguarded depth depth f .empty)

/-! ## What it respects

Without chains nothing is taken for a cycle.  So the evaluation respects every congruence in which
the errors other than cycles are related, and in which records are. -/

/-- The error is that something was met on a chain. -/
def EvalError.IsCycle : EvalError → Prop
  | .prerequisiteCycle _ | .segmentCycle _ => True
  | _ => False

theorem EvalError.IsOfData.not_isCycle {e : EvalError} (h : e.IsOfData) : ¬ e.IsCycle := by
  cases e <;> first | exact id | exact h.elim

namespace Environment

variable {env : Environment} {E : EvalError → Prop} {R : ∀ ⦃α : Type⦄, Eval α → Eval α → Prop}
  (h : Eval.Congruence env env E R) (hE : ∀ e : EvalError, ¬ e.IsCycle → E e)

include h hE

theorem inSegmentUnguarded_congr {depth : Nat} (key : String) :
    R (env.inSegmentUnguarded depth key) (env.inSegmentUnguarded depth key) := by
  induction depth generalizing key with
  | zero => exact h.findSegment rfl rfl (fun _ _ => hE _ id) fun _ _ => h.fail (hE _ id)
  | succ depth ih =>
    refine h.findSegment rfl rfl (fun _ _ => hE _ id) fun s _ => ?_
    exact h.segment (fun e he => hE e he.not_isCycle) fun key _ => ih key

variable (hrecord : ∀ g parent detail,
  R (Eval.record g parent detail) (Eval.record g parent detail))

include hrecord

theorem evaluateAboveUnguarded_congr {depth : Nat} {evaluate : Flag → Eval (Detail FlagValue)}
    (hevaluate : ∀ g, R (evaluate g) (evaluate g)) (f : Flag) :
    R (env.evaluateAboveUnguarded (env.inSegmentUnguarded depth) evaluate f)
      (env.evaluateAboveUnguarded (env.inSegmentUnguarded depth) evaluate f) := by
  refine h.flag (fun e he => hE e he.not_isCycle) (fun _ => ?_) fun key _ =>
    inSegmentUnguarded_congr h hE key
  refine h.inTurn fun p _ => ?_
  exact h.findPrerequisite rfl rfl (fun _ _ => hE _ id) (hE _ id) (fun g => hrecord g f.key)
    fun g _ => hevaluate g

theorem evaluateFlagUnguarded_congr {segmentDepth depth : Nat} (f : Flag) :
    R (env.evaluateFlagUnguarded segmentDepth depth f)
      (env.evaluateFlagUnguarded segmentDepth depth f) := by
  induction depth generalizing f with
  | zero => exact evaluateAboveUnguarded_congr h hE hrecord (fun _ => h.fail (hE _ id)) f
  | succ depth ih => exact evaluateAboveUnguarded_congr h hE hrecord ih f

omit h hE hrecord in
/-- The evaluation without chains does not end in a cycle, whatever the data. -/
theorem evaluateFlagUnguarded_keeps {segmentDepth depth : Nat} (f : Flag) :
    Eval.Keeps (fun _ => True) (env.evaluateFlagUnguarded segmentDepth depth f) (fun _ => True)
      (fun e => ¬ e.IsCycle) :=
  evaluateFlagUnguarded_congr (Eval.Keeps.congruence (fun _ _ _ h => h) env _) (fun _ he => he)
    (fun _ _ _ => Eval.Keeps.update (fun _ _ => trivial) trivial) f

end Environment

/-! ## Chains that are never met -/

/-- The scope with other chains. -/
def Scope.onChains (C D : List String) (s : Scope) : Scope :=
  { s with flagChain := C, segmentChain := D }

namespace Eval

variable {α β : Type} {C D : List String}

/-- At the given chains one step does what the other does at any, and leaves the chains as they
were. -/
def Mirrors (C D : List String) (x y : Eval α) : Prop :=
  ∀ s, x (s.onChains C D) = ((y s).1, (y s).2.onChains C D)

namespace Mirrors

theorem pure (a : α) : Mirrors C D (Pure.pure a) (Pure.pure a) := fun _ => rfl

theorem bind {x y : Eval α} {f g : α → Eval β} (hx : Mirrors C D x y)
    (hf : ∀ a, Mirrors C D (f a) (g a)) : Mirrors C D (x >>= f) (y >>= g) := by
  intro s
  simp only [Bind.bind, Eval.bind]
  rw [hx s]
  rcases y s with ⟨r, t⟩
  cases r with
  | error e => rfl
  | ok a => exact hf a t

theorem consult (env : Environment) (key : String) (reference : Option String) :
    Mirrors C D (env.consult key reference) (env.consult key reference) := by
  refine bind (fun _ => rfl) fun _ => ?_
  split
  · exact bind (fun _ => rfl) fun _ => pure _
  · exact bind (fun _ => rfl) fun _ => pure _
  · refine bind (bind (fun _ => rfl) fun known => ?_) fun _ => pure _
    cases known with
    | some membership => exact pure membership
    | none =>
      refine bind (fun _ => rfl) fun _ => bind (fun _ => rfl) fun _ => ?_
      exact bind (fun _ => rfl) fun _ => pure _

theorem congruence (C D : List String) (env : Environment) :
    Congruence env env (fun _ => True) fun _ x y => Mirrors C D x y where
  context := rfl
  pure := pure
  bind := bind
  fail _ _ := rfl
  note _ _ := rfl
  warn _ _ := rfl
  consult := consult env

/-- A step with other chains, if the scope is given these before and the former again after. -/
theorem around {C' D' : List String} {before after : Scope → Scope} {x y : Eval α}
    (hbefore : ∀ s : Scope, before (s.onChains C D) = s.onChains C' D')
    (hafter : ∀ s : Scope, after (s.onChains C' D') = s.onChains C D)
    (h : Mirrors C' D' x y) : Mirrors C D (Eval.around before after x) y := by
  intro s
  simp only [Eval.around]
  rw [hbefore s, h s, hafter]

/-- A key that is not on the chain of segments can be put on it and taken off again. -/
theorem withSegment {key : String} (hkey : key ∉ D) {x y : Eval α}
    (h : Mirrors C (key :: D) x y) : Mirrors C D (Eval.withSegment key x) y := by
  refine around (fun s => ?_) (fun s => ?_) h
  · simp only [Scope.onChains, enter_of_not_mem hkey]
  · simp only [Scope.onChains, leave_cons_self hkey]

/-- A key that is not on the chain of flags can be put on it and taken off again. -/
theorem withFlag {key : String} (hkey : key ∉ C) {x y : Eval α}
    (h : Mirrors (key :: C) D x y) : Mirrors C D (Eval.withFlag key x) y := by
  refine around (fun s => ?_) (fun s => ?_) h
  · simp only [Scope.onChains, enter_of_not_mem hkey]
  · simp only [Scope.onChains, leave_cons_self hkey]

end Mirrors

end Eval

namespace Environment

variable {env : Environment} {C D : List String}

theorem enterSegment_mirrors {decide₁ decide₂ : Segment → Eval Bool} {key : String}
    (hkey : key ∉ D) (hdecide : ∀ s, env.store.data.segment? key = some s →
      Eval.Mirrors C (key :: D) (decide₁ s) (decide₂ s)) :
    Eval.Mirrors C D (env.enterSegment decide₁ key) (env.findSegment decide₂ key) := by
  have hfind := (Eval.Mirrors.congruence C D env).findSegment rfl rfl (fun _ _ => trivial)
    fun s hs => (hdecide s hs).withSegment hkey
  intro s
  rw [← hfind s]
  exact congrFun (if_neg (by simpa [Scope.onChains] using hkey)) _

/-- On segments without cycles, the segments on the chain lead to the one being decided. -/
theorem inSegment_mirrors (hacyclic : Acyclic env.store.data.Nests) {depth : Nat} {key : String}
    (hchain : ∀ other ∈ D, TransGen env.store.data.Nests other key) :
    Eval.Mirrors C D (env.inSegment depth key) (env.inSegmentUnguarded depth key) := by
  induction depth generalizing D key with
  | zero =>
    exact enterSegment_mirrors (fun hmem => hacyclic key (hchain key hmem)) fun s _ _ => rfl
  | succ depth ih =>
    refine enterSegment_mirrors (fun hmem => hacyclic key (hchain key hmem)) fun s hs => ?_
    refine (Eval.Mirrors.congruence C (key :: D) env).segment (fun _ _ => trivial) ?_
    intro named hnamed
    have hedge : env.store.data.Nests key named := ⟨s, hs, hnamed⟩
    refine ih fun other hother => ?_
    rcases List.mem_cons.1 hother with rfl | hother
    · exact TransGen.single hedge
    · exact (hchain other hother).tail hedge

theorem enterPrerequisite_mirrors {evaluate₁ evaluate₂ : Flag → Eval (Detail FlagValue)}
    {parent : String} {p : Prerequisite} (hkey : p.key ∉ C)
    (hevaluate : ∀ g, env.store.data.flag? p.key = some g →
      Eval.Mirrors C D (evaluate₁ g) (evaluate₂ g)) :
    Eval.Mirrors C D (env.enterPrerequisite evaluate₁ parent p)
      (env.findPrerequisite evaluate₂ parent p) := by
  have hfind : Eval.Mirrors C D (env.findPrerequisite evaluate₁ parent p) _ :=
    (Eval.Mirrors.congruence C D env).findPrerequisite rfl rfl (fun _ _ => trivial) trivial
      (fun _ _ _ => rfl) hevaluate
  intro s
  rw [← hfind s]
  exact congrFun (if_neg (by simpa [Scope.onChains] using hkey)) _

variable {top f : Flag}

theorem evaluateAbove_mirrors {evaluate₁ evaluate₂ : Flag → Eval (Detail FlagValue)}
    (hflags : Acyclic (env.store.data.Requires top)) (hsegments : Acyclic env.store.data.Nests)
    (htrail : Trail env.store.data (env.store.data.Requires top) top C f)
    (hevaluate : ∀ p ∈ f.prerequisites, p.key ∉ f.key :: C →
      ∀ g, env.store.data.flag? p.key = some g →
        Eval.Mirrors (f.key :: C) [] (evaluate₁ g) (evaluate₂ g)) :
    Eval.Mirrors C [] (env.evaluateAbove evaluate₁ f)
      (env.evaluateAboveUnguarded (env.inSegmentUnguarded env.segmentDepth) evaluate₂ f) := by
  refine (Eval.Mirrors.congruence C [] env).flag (fun _ _ => trivial) (fun _ => ?_) ?_
  · refine Eval.Mirrors.withFlag htrail.fresh ?_
    refine (Eval.Mirrors.congruence (f.key :: C) [] env).inTurn fun p hp => ?_
    have hkey : p.key ∉ f.key :: C := fun hmem =>
      hflags p.key (htrail.cycle ⟨f, htrail.stands, p, hp, rfl⟩ hmem)
    exact enterPrerequisite_mirrors hkey (hevaluate p hp hkey)
  · exact fun key _ => inSegment_mirrors hsegments fun other hother =>
      absurd hother List.not_mem_nil

/-- **On data without cycles the chains are never met**: the evaluation with chains does what the
one without does, level by level. -/
theorem evaluateFlag_mirrors (hkeys : env.store.data.FlagsUnderOwnKeys)
    (hflags : Acyclic (env.store.data.Requires top)) (hsegments : Acyclic env.store.data.Nests)
    {depth : Nat} (htrail : Trail env.store.data (env.store.data.Requires top) top C f) :
    Eval.Mirrors C [] (env.evaluateFlag depth f)
      (env.evaluateFlagUnguarded env.segmentDepth depth f) := by
  induction depth generalizing C f with
  | zero => exact evaluateAbove_mirrors hflags hsegments htrail fun _ _ _ _ _ _ => rfl
  | succ depth ih =>
    refine evaluateAbove_mirrors hflags hsegments htrail fun p hp hkey g hg => ?_
    exact ih (htrail.step hkeys ⟨f, htrail.stands, p, hp, rfl⟩ hkey hg)

end Environment

/-! ## More levels -/

namespace Eval

variable {α β : Type}

/-- Wherever the first step does not go too deep, the second does the same. -/
def Refines (x y : Eval α) : Prop := ∀ s, (x s).1 ≠ .error .tooDeep → y s = x s

namespace Refines

theorem refl (x : Eval α) : Refines x x := fun _ _ => rfl

theorem tooDeep (x : Eval α) : Refines (Eval.fail .tooDeep) x := fun _ h => absurd rfl h

theorem bind {x y : Eval α} {f g : α → Eval β} (hx : Refines x y)
    (hf : ∀ a, Refines (f a) (g a)) : Refines (x >>= f) (y >>= g) := by
  intro s
  have hs := hx s
  simp only [Bind.bind, Eval.bind]
  rcases hxs : x s with ⟨r, t⟩
  rw [hxs] at hs
  cases r with
  | error e =>
    intro he
    have he' : (Except.error e : Except EvalError α) ≠ .error .tooDeep := fun h => by
      cases h
      exact he rfl
    rw [hs he']
  | ok a =>
    rw [hs fun h => by cases h]
    exact hf a t

theorem congruence (env : Environment) :
    Congruence env env (fun _ => True) fun _ x y => Refines x y where
  context := rfl
  pure _ := refl _
  bind := bind
  fail _ := refl _
  note _ := refl _
  warn _ := refl _
  consult _ _ := refl _

end Refines

end Eval

namespace Environment

variable {env : Environment}

theorem inSegmentUnguarded_refines {m n : Nat} (h : m ≤ n) (key : String) :
    Eval.Refines (env.inSegmentUnguarded m key) (env.inSegmentUnguarded n key) := by
  induction m generalizing n key with
  | zero =>
    cases n with
    | zero => exact Eval.Refines.refl _
    | succ n =>
      exact (Eval.Refines.congruence env).findSegment rfl rfl (fun _ _ => trivial) fun s _ =>
        Eval.Refines.tooDeep _
  | succ m ih =>
    obtain ⟨n, rfl⟩ := Nat.exists_eq_add_of_lt h
    refine (Eval.Refines.congruence env).findSegment rfl rfl (fun _ _ => trivial) fun s _ => ?_
    exact (Eval.Refines.congruence env).segment (fun _ _ => trivial) fun key _ => ih (by omega) key

theorem evaluateAboveUnguarded_refines {k l : Nat} (h : k ≤ l)
    {evaluate₁ evaluate₂ : Flag → Eval (Detail FlagValue)}
    (hevaluate : ∀ g, Eval.Refines (evaluate₁ g) (evaluate₂ g)) (f : Flag) :
    Eval.Refines (env.evaluateAboveUnguarded (env.inSegmentUnguarded k) evaluate₁ f)
      (env.evaluateAboveUnguarded (env.inSegmentUnguarded l) evaluate₂ f) := by
  refine (Eval.Refines.congruence env).flag (fun _ _ => trivial) (fun _ => ?_) fun key _ =>
    inSegmentUnguarded_refines h key
  refine (Eval.Refines.congruence env).inTurn fun p _ => ?_
  exact (Eval.Refines.congruence env).findPrerequisite rfl rfl (fun _ _ => trivial) trivial
    (fun _ _ => Eval.Refines.refl _) fun g _ => hevaluate g

/-- **What is given with fewer levels is given with more**, unless there were too few. -/
theorem evaluateFlagUnguarded_refines {k l m n : Nat} (hkl : k ≤ l) (hmn : m ≤ n) (f : Flag) :
    Eval.Refines (env.evaluateFlagUnguarded k m f) (env.evaluateFlagUnguarded l n f) := by
  induction m generalizing n f with
  | zero =>
    cases n with
    | zero => exact evaluateAboveUnguarded_refines hkl (fun _ => Eval.Refines.refl _) f
    | succ n => exact evaluateAboveUnguarded_refines hkl (fun _ => Eval.Refines.tooDeep _) f
  | succ m ih =>
    obtain ⟨n, rfl⟩ := Nat.exists_eq_add_of_lt hmn
    exact evaluateAboveUnguarded_refines hkl (fun g => ih (by omega) g) f

/-! ## Whole evaluations -/

variable {f : Flag}

/-- With a level for each item of the store, the evaluation without chains does not go too deep. -/
theorem evaluateFlagUnguarded_ne_tooDeep (hkeys : env.store.data.FlagsUnderOwnKeys)
    (hflags : Acyclic (env.store.data.Requires f)) (hsegments : Acyclic env.store.data.Nests) :
    (env.evaluateFlagUnguarded env.segmentDepth env.store.data.flags.size f .empty).1 ≠
      .error .tooDeep := by
  intro h
  have hrun : env.evaluateFlag env.store.data.flags.size f .empty = _ :=
    evaluateFlag_mirrors hkeys hflags hsegments (Trail.self env.store.data _ f) .empty
  rw [h] at hrun
  exact evaluationError_of_evaluateFlag_eq_error hkeys Nat.le.refl hrun

/-- All numbers of levels with one for each item of the store give the same. -/
theorem evaluateFlagUnguarded_eq (hkeys : env.store.data.FlagsUnderOwnKeys)
    (hflags : Acyclic (env.store.data.Requires f)) (hsegments : Acyclic env.store.data.Nests)
    {k m : Nat} (hk : env.segmentDepth ≤ k) (hm : env.store.data.flags.size ≤ m) :
    env.evaluateFlagUnguarded k m f .empty =
      env.evaluateFlagUnguarded env.segmentDepth env.store.data.flags.size f .empty :=
  evaluateFlagUnguarded_refines hk hm f .empty
    (evaluateFlagUnguarded_ne_tooDeep hkeys hflags hsegments)

/-- The evaluation with chains, on data without cycles. -/
theorem run_eq_evaluateFlagUnguarded (hkeys : env.store.data.FlagsUnderOwnKeys)
    (hflags : Acyclic (env.store.data.Requires f)) (hsegments : Acyclic env.store.data.Nests)
    {k m : Nat} (hk : env.segmentDepth ≤ k) (hm : env.store.data.flags.size ≤ m) :
    env.run f = ((env.evaluateFlagUnguarded k m f .empty).1,
      (env.evaluateFlagUnguarded k m f .empty).2.onChains [] []) := by
  rw [evaluateFlagUnguarded_eq hkeys hflags hsegments hk hm,
    ← evaluateFlagUnguarded_eq hkeys hflags hsegments Nat.le.refl env.size_le_flagDepth]
  exact evaluateFlag_mirrors hkeys hflags hsegments (Trail.self env.store.data _ f) .empty

end Environment

theorem Evaluation.ofRun_onChains (f : Flag) (r : Except EvalError (Detail FlagValue)) (s : Scope)
    (C D : List String) : ofRun f (r, s.onChains C D) = ofRun f (r, s) := by
  cases r <;> rfl

/-- **Chains are not noticed on data without cycles.**  If neither the prerequisites of the flag nor
the segments lead back to where they came from, then the evaluation is that without chains, with any
numbers of levels that are at least those of flags and of segments.  It does not end in a cycle, and
does not run out of levels. -/
theorem evaluate_eq_evaluateUnguarded (env : Environment) (f : Flag)
    (hkeys : env.store.data.FlagsUnderOwnKeys) (hflags : Acyclic (env.store.data.Requires f))
    (hsegments : Acyclic env.store.data.Nests) :
    (∀ depth, env.store.data.flags.size ≤ depth → env.store.data.segments.size ≤ depth →
      evaluate env f = evaluateUnguarded depth env f) ∧
    ∀ e, (env.run f).1 = .error e → ¬ e.IsCycle ∧ e ≠ .tooDeep := by
  refine ⟨fun depth hf hs => ?_, fun e he => ⟨?_, ?_⟩⟩
  · rw [evaluate, Environment.run_eq_evaluateFlagUnguarded hkeys hflags hsegments hs hf,
      Evaluation.ofRun_onChains, evaluateUnguarded]
  · rw [Environment.run_eq_evaluateFlagUnguarded hkeys hflags hsegments Nat.le.refl
      Nat.le.refl] at he
    exact ((Environment.evaluateFlagUnguarded_keeps f).error trivial (Prod.ext he rfl)).2
  · rintro rfl
    exact Environment.evaluationError_of_evaluateFlag_eq_error hkeys env.size_le_flagDepth
      (Prod.ext he rfl)

/-- Flags that share a prerequisite, and segments that are named by several of them. -/
def shared : Environment where
  store := .ofDataset (.ofItems
    [(Flag.requiring "index" ["core"]).forSegments ["testers", "testers"],
      (Flag.requiring "ranking" ["core"]).forSegments ["testers"],
      (Flag.requiring "core" []).forSegments ["staff", "testers"]]
    [.naming "testers" [] ["staff", "staff"], .naming "staff" ["u"] []])
  provider := none
  context := .ofUserKey "u"

theorem evaluate_eq_evaluateUnguarded_shared :
    let page := (Flag.requiring "search-page" ["index", "ranking", "core"]).forSegments ["testers"]
    shared.store.data.FlagsUnderOwnKeys ∧ Acyclic (shared.store.data.Requires page) ∧
      Acyclic shared.store.data.Nests ∧ evaluate shared page = evaluateUnguarded 3 shared page ∧
      (evaluate shared page).detail.reason = .ruleMatch 0 "" false := by
  intro page
  have hkeys : shared.store.data.FlagsUnderOwnKeys := Dataset.flagsUnderOwnKeys_ofItems _ _
  have hflags : Acyclic (shared.store.data.Requires page) :=
    Dataset.acyclic_requires_ofItems String.length (by decide)
  have hsegments : Acyclic shared.store.data.Nests :=
    Dataset.acyclic_nests_ofItems String.length (by decide)
  have heq := (evaluate_eq_evaluateUnguarded shared page hkeys hflags hsegments).1 3 (by decide)
    (by decide)
  exact ⟨hkeys, hflags, hsegments, heq, by decide +kernel⟩

end FeatureFlags
