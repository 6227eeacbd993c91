import FeatureFlags.Proofs.Nesting.Termination
import FeatureFlags.Proofs.Step.Growth

/-!
# Calls leave the chains as they were

A key is put on a chain before a step that can fail, and is taken off after it, however the step
ends.  A chain holds a key only once.  So if two steps, one inside of the other, put on the same key,
the inner one takes it off for both, and nothing would stop what comes next in the outer one from
going round in a circle.  For segments this cannot happen: a key is looked for before it is put on.
For flags the key that is looked for is that of the prerequisite, and the one put on is that of the
flag, so it takes flags that are filed under their own keys.

Nothing else that is kept track of is ever taken back.  Records and events are added at the end,
memberships are kept once they are known, and the status gets no better.

## What is here

* `Scope.Extends`, `Eval.Extending`: nothing is lost, whatever is on the chains.
* `Scope.Restored`: nothing is lost, and the chains are what they were.
* `Call`: what is called in the course of an evaluation.
* `Call.restored_run`: a call restores the chains, from any scope.
-/

set_option autoImplicit false

namespace FeatureFlags

open BigSegmentStatus (noWorse_refl)

/-! ## Scopes -/

/-- All that was known in the first scope is known in the second. -/
structure Scope.Extends (s t : Scope) : Prop extends s.Grows t where
  /-- Memberships are kept once they are known. -/
  memberships : ∀ key known, s.memberships.find? key = some known →
    t.memberships.find? key = some known

/-- All that was known in the first scope is known in the second, in the middle of the same. -/
structure Scope.Restored (s t : Scope) : Prop extends s.Extends t where
  /-- The same flags are being evaluated. -/
  flagChain : t.flagChain = s.flagChain
  /-- The same segments are being decided. -/
  segmentChain : t.segmentChain = s.segmentChain

namespace Scope.Extends

variable {s t u : Scope}

theorem refl (s : Scope) : s.Extends s := ⟨Grows.refl s, fun _ _ h => h⟩

/-- Chains are not among what must not be lost. -/
theorem onChains (C D : List String) (s : Scope) : s.Extends (s.onChains C D) :=
  ⟨⟨List.prefix_refl _, List.prefix_refl _, noWorse_refl _⟩, fun _ _ h => h⟩

theorem trans (hst : s.Extends t) (htu : t.Extends u) : s.Extends u :=
  ⟨hst.toGrows.trans htu.toGrows, fun key known h =>
    htu.memberships key known (hst.memberships key known h)⟩

/-- A membership that is not known can be asked for. -/
theorem asked {provider : Provider} {key : String} (h : s.memberships.find? key = none) :
    s.Extends (Environment.asked provider key s) := by
  refine ⟨⟨List.prefix_refl _, List.prefix_append _ _, ?_⟩, fun other known hknown => ?_⟩
  · exact (Eval.Growing.observe (provider.query key).2 s).status
  · have hother : other ≠ key := by
      rintro rfl
      rw [h] at hknown
      cases hknown
    simpa [Environment.asked, hother.symm] using hknown

end Scope.Extends

/-! ## Steps -/

namespace Eval

variable {α β : Type} {env : Environment}

/-- The step loses nothing that is known. -/
def Extending (x : Eval α) : Prop := ∀ s : Scope, s.Extends (x s).2

namespace Extending

/-- A step that leaves the scope as it is. -/
theorem still {x : Eval α} (h : ∀ s, (x s).2 = s) : Extending x := fun s =>
  (h s).symm ▸ Scope.Extends.refl s

theorem bind {x : Eval α} {f : α → Eval β} (hx : Extending x) (hf : ∀ a, Extending (f a)) :
    Extending (x >>= f) := by
  intro s
  rcases snd_bind x f s with hend | ⟨a, hend⟩
  · rw [hend]
    exact hx s
  · rw [hend]
    exact (hx s).trans (hf a _)

/-- A step that leaves the memberships alone. -/
theorem of_growing {x : Eval α} (h : Growing x) (hx : ∀ s, (x s).2.memberships = s.memberships) :
    Extending x := fun s => ⟨h s, fun _ _ hknown => (hx s).symm ▸ hknown⟩

theorem around {before after : Scope → Scope} {x : Eval α}
    (hbefore : ∀ s : Scope, s.Extends (before s)) (hafter : ∀ s : Scope, s.Extends (after s))
    (h : Extending x) : Extending (Eval.around before after x) := fun s =>
  ((hbefore s).trans (h _)).trans (hafter _)

theorem membership? (provider : Provider) (key : String) :
    Extending (Environment.membership? provider key) := by
  intro s
  cases hknown : s.memberships.find? key with
  | some known =>
    rw [Environment.membership?_of_known hknown]
    exact .refl s
  | none =>
    rw [Environment.membership?_of_unknown hknown]
    exact .asked hknown

theorem consult (env : Environment) (key : String) (reference : Option String) :
    Extending (env.consult key reference) := by
  have hobserve : Extending (Environment.observe .notConfigured) :=
    of_growing (Growing.observe _) fun _ => rfl
  refine bind (of_growing (Growing.note _) fun _ => rfl) fun _ => ?_
  split
  · exact bind hobserve fun _ => still fun _ => rfl
  · exact bind hobserve fun _ => still fun _ => rfl
  · exact bind (membership? _ key) fun _ => still fun _ => rfl

theorem flag? (env : Environment) (key : String) : Extending (env.flag? key) := by
  intro s
  rw [Environment.flag?_apply]
  exact ⟨Growing.note (.flagLookup key) s, fun _ _ h => h⟩

theorem segment? (env : Environment) (key : String) : Extending (env.segment? key) := by
  intro s
  rw [Environment.segment?_apply]
  exact ⟨Growing.note (.segmentLookup key) s, fun _ _ h => h⟩

theorem congruence (env : Environment) (E : EvalError → Prop) :
    Congruence env env E fun _ x _ => Extending x where
  context := rfl
  pure _ := still fun _ => rfl
  bind := bind
  fail _ := still fun _ => rfl
  warn ws := of_growing (Growing.warn ws) fun _ => rfl
  note e := of_growing (Growing.note e) fun _ => rfl
  consult := consult env

theorem nested (env : Environment) : NestedCongruence env env fun _ x _ => Extending x where
  toCompositional := (congruence env _).toCompositional
  flagChain := still fun _ => rfl
  segmentChain := still fun _ => rfl
  withFlag _ _ _ h := around (fun s => .onChains _ _ s) (fun s => .onChains _ _ s) h
  withSegment _ _ _ h := around (fun s => .onChains _ _ s) (fun s => .onChains _ _ s) h
  flag? := flag? env
  segment? := segment? env
  record g parent detail := of_growing (Growing.record g parent detail) fun _ => rfl

end Extending

end Eval

/-! ## Segments and flags -/

namespace Environment

variable {env : Environment}

theorem inSegment_extending (depth : Nat) (key : String) :
    Eval.Extending (env.inSegment depth key) :=
  (Eval.Extending.nested env).inSegment
    (Eval.Extending.congruence env fun _ => True).verdict depth key

theorem evaluateFlag_extending (depth : Nat) (f : Flag) :
    Eval.Extending (env.evaluateFlag depth f) :=
  (Eval.Extending.nested env).evaluateFlag
    (Eval.Extending.congruence env fun _ => True).verdict rfl depth f

/-- With levels enough, a flag off the chain is evaluated without a trace on the chains. -/
theorem evaluateFlag_onChains (hkeys : env.store.data.FlagsUnderOwnKeys) {C D : List String}
    {f : Flag} (hfresh : f.key ∉ C) :
    Eval.Keeps (Scope.OnChains C D) (env.evaluateFlag env.flagDepth f) (fun _ => True)
      (· ≠ .tooDeep) := by
  rw [evaluateFlag_eq_evaluateFlagWithin]
  refine evaluateFlagWithin_onChains hkeys Nat.le.refl hfresh (Nat.lt_succ_of_le ?_)
  exact Nat.le_trans (SortedMap.length_keysOff_le _) env.size_le_flagDepth

end Environment

/-! ## Calls -/

/-- What is called in the course of an evaluation. -/
inductive Call where
  /-- The evaluation of a flag. -/
  | flag (f : Flag)
  /-- Whether a rule of a flag matches. -/
  | flagRule (r : FlagRule)
  /-- Whether a clause matches. -/
  | clause (clause : Clause)
  /-- Whether the context is in the segment with a key. -/
  | segmentKey (key : String)
  /-- Whether the context is in a segment that has been looked up. -/
  | segment (s : Segment)
  /-- Whether a rule of a segment with the given key and salt matches. -/
  | segmentRule (key salt : String) (r : SegmentRule)

namespace Call

/-- What a call gives. -/
def Answer : Call → Type
  | flag _ => Detail FlagValue
  | _ => Bool

/-- What a call does.  A call that is nested in others has fewer levels left than this, which makes
no difference (`Environment.isUnlimited`). -/
def run (env : Environment) : (call : Call) → Eval call.Answer
  | flag f => env.evaluateFlag env.flagDepth f
  | flagRule r => allHold env (env.inSegment env.segmentDepth) r.clauses
  | clause c => c.evaluate env (env.inSegment env.segmentDepth)
  | segmentKey key => env.inSegment env.segmentDepth key
  | segment s => s.contains env (env.inSegment env.segmentDepth)
  | segmentRule key salt r => r.evaluate env (env.inSegment env.segmentDepth) key salt

/-- The call is not the evaluation of a flag whose key is on the chain. -/
def IsFresh (s : Scope) : Call → Prop
  | flag f => f.key ∉ s.flagChain
  | _ => True

/-- A call has a property that is a congruence if deciding the segments with a key has it, and so
does the evaluation of the flag if the call is one. -/
theorem run_of_congruence {env : Environment} {E : EvalError → Prop} {P : ∀ ⦃α : Type⦄, Eval α → Prop}
    (h : Eval.Congruence env env E fun _ x _ => P x) (hE : ∀ e : EvalError, e.IsOfData → E e)
    (hin : ∀ key, P (env.inSegment env.segmentDepth key)) {call : Call}
    (hflag : ∀ f, call = flag f → P (env.evaluateFlag env.flagDepth f)) : P (call.run env) := by
  have hcompositional := h.toCompositional
  let inSegment := env.inSegment env.segmentDepth
  cases call with
  | flag f => exact hflag f rfl
  | flagRule r =>
    exact @Eval.Compositional.allHold env env E _ hcompositional inSegment inSegment hE r.clauses
      fun key _ => hin key
  | clause c =>
    exact @Eval.Compositional.clause env env E _ hcompositional inSegment inSegment hE c
      fun key _ => hin key
  | segmentKey key => exact hin key
  | segment s =>
    exact @Eval.Congruence.segment env env E _ h inSegment inSegment hE s fun key _ => hin key
  | segmentRule key salt r =>
    exact @Eval.Compositional.segmentRule env env E _ hcompositional inSegment inSegment hE r key salt
      fun key _ => hin key

/-- A call loses nothing that is known. -/
theorem extending_run (env : Environment) (call : Call) : Eval.Extending (call.run env) :=
  run_of_congruence (Eval.Extending.congruence env fun _ => True) (fun _ _ => trivial)
    (Environment.inSegment_extending _) fun f _ => Environment.evaluateFlag_extending _ f

/-- A call leaves the chains as they were. -/
theorem run_onChains {env : Environment} (hkeys : env.store.data.FlagsUnderOwnKeys) {call : Call}
    {s : Scope} (hfresh : call.IsFresh s) :
    Eval.Keeps (Scope.OnChains s.flagChain s.segmentChain) (call.run env) (fun _ => True)
      (· ≠ .tooDeep) := by
  refine run_of_congruence (Eval.Keeps.congruence (Scope.visible_onChains _ _) env _)
    (fun _ he => he.ne_tooDeep) (Environment.inSegment_onChains Nat.le.refl _ _) ?_
  rintro f rfl
  exact Environment.evaluateFlag_onChains hkeys hfresh

/-- **A call restores the chains and loses nothing**, from whatever scope it is made and however it
ends, unless it evaluates a flag that is on the chain. -/
theorem restored_run {env : Environment} (hkeys : env.store.data.FlagsUnderOwnKeys) {call : Call}
    {s : Scope} (hfresh : call.IsFresh s) : s.Restored (call.run env s).2 := by
  obtain ⟨⟨hflags, hsegments⟩, -⟩ := run_onChains hkeys hfresh s ⟨rfl, rfl⟩
  exact ⟨extending_run env call s, hflags, hsegments⟩

/-- A flag that is on the chain before is off it afterwards. -/
example :
    let env : Environment := ⟨.ofDataset .empty, none, .ofUserKey "u"⟩
    let s : Scope := { Scope.empty with flagChain := ["a"] }
    ((flag (.requiring "a" [])).run env s).2.flagChain = [] := by decide +kernel

end Call

end FeatureFlags
