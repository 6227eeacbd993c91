import FeatureFlags.Proofs.Nesting.Depth
import FeatureFlags.Proofs.Nesting.Graph

/-!
# Cycles of prerequisites

An evaluation walks the live edges of the graph of flags and keeps the flags on the way to where it
is on a chain.  Meeting one of them again is an error.

This is exact.  A flag on the chain leads to the flag being evaluated, so a prerequisite found on
the chain closes a cycle; a flag that is reached on several ways is on the chain only if it lies on
the current one.  And an evaluation that gives a detail has evaluated all prerequisites behind live
edges, each of them below the flag in question and with a detail in turn, so no cycle can be among
them.  The second argument is an induction on the levels of nesting, and what it proves of a flag is
that its key is grounded.

Levels of nesting never run out, since every flag that is entered uses up a key of the store.

## What is here

* `Environment.evaluateFlag_keeps`: the evaluation of a flag along a trail.
* `evaluate_detects_cycles`: the theorem, for the result of an evaluation.
-/

set_option autoImplicit false

namespace FeatureFlags

open Relation

/-! ## The chain -/

/-- The scope has the given chains. -/
def Scope.OnChains (C D : List String) (s : Scope) : Prop := s.flagChain = C ∧ s.segmentChain = D

theorem Scope.visible_onChains (C D : List String) : Visible (OnChains C D) := by
  rintro s t h ⟨hC, hD⟩
  exact ⟨h.flagChain.symm.trans hC, h.segmentChain.symm.trans hD⟩

/-! ## Prerequisites one after the other -/

/-- Prerequisites are checked up to the first for which the check gives nothing.  If it gives
nothing only for what is not `present`, and otherwise only for what has `A`, then in the end all
before the first that is not present have `A`. -/
theorem checkInTurn_keeps {I : Scope → Prop} {E : EvalError → Prop}
    {check : Prerequisite → Eval (Option Bool)} {present : Prerequisite → Bool}
    {A : Prerequisite → Prop} (all : List Prerequisite)
    (hcheck : ∀ p, (present p = true → p ∈ all) → Eval.Keeps I (check p)
      (fun found => present p = found.isSome ∧ (found.isSome → A p)) E)
    (failed : Option String) {ps : List Prerequisite} (hps : ∀ p ∈ ps.takeWhile present, p ∈ all) :
    Eval.Keeps I (checkInTurn check failed ps) (fun _ => ∀ p ∈ ps.takeWhile present, A p) E := by
  induction ps generalizing failed with
  | nil => exact Eval.Keeps.pure fun p hp => absurd hp List.not_mem_nil
  | cons p ps ih =>
    have hp : present p = true → p ∈ all := fun h => hps p (by simp [h])
    refine Eval.Keeps.bind (hcheck p hp) fun found hfound => ?_
    obtain ⟨hpresent, hA⟩ := hfound
    cases found with
    | none =>
      refine Eval.Keeps.pure fun q hq => ?_
      rw [List.takeWhile_cons_of_neg (by simp [hpresent])] at hq
      exact absurd hq List.not_mem_nil
    | some satisfied =>
      have hcons : (p :: ps).takeWhile present = p :: ps.takeWhile present :=
        List.takeWhile_cons_of_pos hpresent
      rw [hcons] at hps ⊢
      have hrest : ∀ failed : Option String, Eval.Keeps I (checkInTurn check failed ps)
          (fun _ => ∀ q ∈ p :: ps.takeWhile present, A q) E := fun failed =>
        (ih failed fun q hq => hps q (List.mem_cons_of_mem p hq)).mono
          (fun _ h => List.forall_mem_cons.2 ⟨hA rfl, h⟩) fun _ he => he
      cases satisfied with
      | true => exact hrest failed
      | false => exact hrest (failed <|> some p.key)

/-! ## Evaluations along a trail -/

namespace Environment

variable {env : Environment} {top : Flag}

/-- The errors that an evaluation of `top` can end in.  A cycle of prerequisites is one of live
edges, and a failure of the store comes from the store. -/
def EvaluationError (env : Environment) (top : Flag) : EvalError → Prop
  | .prerequisiteCycle key => ReflTransGen (env.store.data.LiveEdge top) top.key key ∧
      TransGen (env.store.data.LiveEdge top) key key
  | .store e => (∃ key, env.store.flagFailures key = some e) ∨
      ∃ key, env.store.segmentFailures key = some e
  | .tooDeep => False
  | _ => True

theorem evaluationError_of_ruleError {e : EvalError} (h : env.RuleError e) :
    env.EvaluationError top e := by
  cases e with
  | store e => exact Or.inr h
  | prerequisiteCycle key => exact h.elim
  | tooDeep => exact h.elim
  | _ => trivial

variable {C : List String} {f : Flag} {evaluate : Flag → Eval (Detail FlagValue)}

/-- One prerequisite along a trail: it is found if its key stands for a flag, and if it is then its
key is grounded. -/
theorem enterPrerequisite_keeps (htrail : LiveTrail env.store.data top C f)
    (hkeys : env.store.data.FlagsUnderOwnKeys) (hon : f.on = true) {p : Prerequisite}
    (hlive : (env.store.data.flagFor? top p.key).isSome = true →
      p ∈ env.store.data.livePrerequisites top f)
    (hevaluate : ∀ g, LiveTrail env.store.data top (f.key :: C) g →
      env.store.data.flag? g.key = some g → Eval.Keeps (Scope.OnChains (f.key :: C) []) (evaluate g)
        (fun _ => Grounded (env.store.data.LiveEdge top) g.key) (env.EvaluationError top)) :
    Eval.Keeps (Scope.OnChains (f.key :: C) []) (env.enterPrerequisite evaluate f.key p)
      (fun found => (env.store.data.flagFor? top p.key).isSome = found.isSome ∧
        (found.isSome → Grounded (env.store.data.LiveEdge top) p.key))
      (env.EvaluationError top) := by
  refine Eval.Keeps.bind_read (fun s hs => hs.1) ?_
  split
  · next hmem =>
    have hmem : p.key ∈ f.key :: C := by simpa using hmem
    have hedge := htrail.liveEdge hon (hlive (htrail.isSome_flagFor? hmem))
    exact Eval.Keeps.fail ⟨htrail.reached.tail hedge, htrail.cycle hedge hmem⟩
  · next hmem =>
    have hmem : p.key ∉ f.key :: C := by simpa using hmem
    have hstands := htrail.flagFor?_of_not_mem hmem
    refine Eval.Keeps.bind_flag? (Scope.visible_onChains _ _) (fun e he => Or.inl ⟨_, he⟩) ?_
    cases hg : env.store.data.flag? p.key with
    | none =>
      rw [hg] at hstands
      exact Eval.Keeps.pure ⟨by rw [hstands]; rfl, by simp⟩
    | some g =>
      rw [hg] at hstands
      have hpresent : (env.store.data.flagFor? top p.key).isSome = true := by
        rw [hstands]
        rfl
      have hedge := htrail.liveEdge hon (hlive hpresent)
      have hkey := hkeys.key_eq hg
      have hg' : env.store.data.flag? g.key = some g := by rw [hkey, hg]
      refine Eval.Keeps.bind (hevaluate g (htrail.step hkeys hedge hmem hg) hg') ?_
      intro detail hground
      rw [hkey] at hground
      refine Eval.Keeps.bind (P := fun _ => True) (Eval.Keeps.update (fun s hs => hs) trivial) ?_
      intro _ _
      split
      · exact Eval.Keeps.fail trivial
      · exact Eval.Keeps.pure ⟨hpresent, fun _ => hground⟩

/-- One level of an evaluation along a trail, given the levels below it. -/
theorem evaluateAbove_keeps (htrail : LiveTrail env.store.data top C f)
    (hkeys : env.store.data.FlagsUnderOwnKeys)
    (hevaluate : ∀ g, LiveTrail env.store.data top (f.key :: C) g →
      env.store.data.flag? g.key = some g → Eval.Keeps (Scope.OnChains (f.key :: C) []) (evaluate g)
        (fun _ => Grounded (env.store.data.LiveEdge top) g.key) (env.EvaluationError top)) :
    Eval.Keeps (Scope.OnChains C []) (env.evaluateAbove evaluate f)
      (fun _ => Grounded (env.store.data.LiveEdge top) f.key) (env.EvaluationError top) := by
  simp only [evaluateAbove, Flag.evaluateWith]
  split
  · next hon =>
    have hchecks := checkInTurn_keeps (env.store.data.livePrerequisites top f)
      (fun p hlive => enterPrerequisite_keeps htrail hkeys hon hlive hevaluate) none fun p hp => hp
    refine Eval.Keeps.bind (Eval.Keeps.around ?_ ?_ hchecks) fun failed hground => ?_
    · rintro s ⟨hC, hD⟩
      exact ⟨hC ▸ Eval.enter_of_not_mem (hC ▸ htrail.fresh), hD⟩
    · rintro s ⟨hC, hD⟩
      exact ⟨hC ▸ Eval.leave_cons_self htrail.fresh, hD⟩
    · have hself : Grounded (env.store.data.LiveEdge top) f.key := by
        refine Acc.intro _ fun key hedge => ?_
        obtain ⟨f', hf', -, p, hp, rfl⟩ := hedge
        obtain rfl := Option.some.inj (htrail.stands.symm.trans hf')
        exact hground p hp
      cases failed with
      | some key => exact Eval.Keeps.pure hself
      | none =>
        refine Eval.Keeps.of_at (Scope.visible_onChains C []) fun s hs => ?_
        rw [hs.2]
        exact (decide_keeps (fun e he => evaluationError_of_ruleError he) f).mono
          (fun _ _ => hself) fun _ he => he
  · next hoff =>
    refine Eval.Keeps.pure (Acc.intro _ fun key hedge => ?_)
    obtain ⟨f', hf', hon, -⟩ := hedge
    obtain rfl := Option.some.inj (htrail.stands.symm.trans hf')
    exact absurd hon hoff

/-- **The evaluation of a flag along a trail** restores the chains.  If it gives a detail, the key
of the flag is grounded in live edges; and it fails only with what `EvaluationError` allows. -/
theorem evaluateFlag_keeps (hkeys : env.store.data.FlagsUnderOwnKeys) {depth : Nat}
    {C : List String} {f : Flag} (htrail : LiveTrail env.store.data top C f)
    (hdepth : (env.store.data.flags.keysOff (f.key :: C)).length ≤ depth) :
    Eval.Keeps (Scope.OnChains C []) (env.evaluateFlag depth f)
      (fun _ => Grounded (env.store.data.LiveEdge top) f.key) (env.EvaluationError top) := by
  induction depth generalizing C f with
  | zero =>
    refine evaluateAbove_keeps htrail hkeys fun g hg hfind => ?_
    have := SortedMap.length_keysOff_cons_lt (Dataset.find?_of_flag? hfind) hg.fresh
    omega
  | succ depth ih =>
    refine evaluateAbove_keeps htrail hkeys fun g hg hfind => ih hg ?_
    have := SortedMap.length_keysOff_cons_lt (Dataset.find?_of_flag? hfind) hg.fresh
    omega

/-! ## Whole evaluations -/

theorem size_le_flagDepth (env : Environment) : env.store.data.flags.size ≤ env.flagDepth :=
  calc env.store.data.flags.size ≤ env.store.data.flags.size + 1 := Nat.le_succ _
    _ ≤ (env.store.data.flags.size + 1) * Nat.pow 2 (env.store.data.flags.size + 1) :=
      Nat.le_mul_of_pos_right _ (Nat.pow_pos Nat.two_pos)

variable {depth : Nat} {scope : Scope}

/-- With a level for each flag of the store, a flag that gets a detail leads to no cycle. -/
theorem grounded_of_evaluateFlag_eq_ok (hkeys : env.store.data.FlagsUnderOwnKeys)
    (hdepth : env.store.data.flags.size ≤ depth) {detail : Detail FlagValue}
    (h : env.evaluateFlag depth f .empty = (.ok detail, scope)) :
    Grounded (env.store.data.LiveEdge f) f.key :=
  ((evaluateFlag_keeps hkeys (Trail.self env.store.data _ f)
    (Nat.le_trans (SortedMap.length_keysOff_le _) hdepth)).ok ⟨rfl, rfl⟩ h).2

/-- With a level for each flag of the store, the errors are those that `EvaluationError` allows. -/
theorem evaluationError_of_evaluateFlag_eq_error (hkeys : env.store.data.FlagsUnderOwnKeys)
    (hdepth : env.store.data.flags.size ≤ depth) {e : EvalError}
    (h : env.evaluateFlag depth f .empty = (.error e, scope)) : env.EvaluationError f e :=
  ((evaluateFlag_keeps hkeys (Trail.self env.store.data _ f)
    (Nat.le_trans (SortedMap.length_keysOff_le _) hdepth)).error ⟨rfl, rfl⟩ h).2

end Environment

/-- **Cycles of prerequisites are found, and only they are reported.**  If the store never fails, a
cycle of live edges that can be reached from a flag makes it malformed; an evaluation that ends in
a cycle through a key names a key on such a cycle; and no evaluation runs out of levels. -/
theorem evaluate_detects_cycles (env : Environment) (f : Flag) (hstore : env.store.NeverFails)
    (hkeys : env.store.data.FlagsUnderOwnKeys) :
    ((∃ key, ReflTransGen (env.store.data.LiveEdge f) f.key key ∧
        TransGen (env.store.data.LiveEdge f) key key) →
      (evaluate env f).detail.reason = .error .malformedFlag ∧
        (evaluate env f).detail.value = none ∧ (evaluate env f).detail.index = none) ∧
    (∀ key, (env.run f).1 = .error (.prerequisiteCycle key) →
      ReflTransGen (env.store.data.LiveEdge f) f.key key ∧
        TransGen (env.store.data.LiveEdge f) key key) ∧
    (env.run f).1 ≠ .error .tooDeep := by
  have herror : ∀ e, (env.run f).1 = .error e → env.EvaluationError f e := fun e h =>
    Environment.evaluationError_of_evaluateFlag_eq_error hkeys env.size_le_flagDepth
      (Prod.ext h rfl)
  refine ⟨?_, fun key h => herror _ h, fun h => herror _ h⟩
  rintro ⟨key, hreach, hcycle⟩
  rw [evaluate]
  rcases h : env.run f with ⟨r, scope⟩
  cases r with
  | ok detail =>
    have hground :=
      Environment.grounded_of_evaluateFlag_eq_ok hkeys env.size_le_flagDepth h
    exact absurd hcycle (hground.not_transGen hreach)
  | error e =>
    -- only a failure of the store is an error of another kind
    have hkind : e.kind = .malformedFlag := by
      cases e with
      | store e =>
        rcases herror (.store e) (congrArg Prod.fst h) with ⟨other, hfail⟩ | ⟨other, hfail⟩
        · rw [hstore.flags] at hfail
          cases hfail
        · rw [hstore.segments] at hfail
          cases hfail
      | _ => rfl
    exact ⟨congrArg Reason.error hkind, rfl, rfl⟩

/-- Three flags of which two require each other, and the third is required on several ways. -/
def entangled : Environment where
  store := .ofDataset (.ofItems
    [.requiring "b" ["d", "c"], .requiring "c" ["d", "b"], .requiring "d" []] [])
  provider := none
  context := .ofUserKey "u"

theorem evaluate_detects_cycles_entangled :
    let top := Flag.requiring "a" ["d", "b"]
    entangled.store.NeverFails ∧ entangled.store.data.FlagsUnderOwnKeys ∧
      (entangled.run top).1 = .error (.prerequisiteCycle "b") ∧
      TransGen (entangled.store.data.LiveEdge top) "b" "b" ∧
      (evaluate entangled top).detail.reason = .error .malformedFlag := by
  intro top
  have hstore : entangled.store.NeverFails := ⟨fun _ => rfl, fun _ => rfl⟩
  have hkeys : entangled.store.data.FlagsUnderOwnKeys := Dataset.flagsUnderOwnKeys_ofItems _ _
  have herror : (match (entangled.run top).1 with
      | .ok _ => none
      | .error e => some e) = some (.prerequisiteCycle "b") := by decide +kernel
  have hrun : (entangled.run top).1 = .error (.prerequisiteCycle "b") := by
    split at herror
    · cases herror
    · next e he => rw [he, Option.some.inj herror]
  obtain ⟨hcomplete, hsound, -⟩ := evaluate_detects_cycles entangled top hstore hkeys
  exact ⟨hstore, hkeys, hrun, (hsound "b" hrun).2, (hcomplete ⟨"b", hsound "b" hrun⟩).1⟩

end FeatureFlags
