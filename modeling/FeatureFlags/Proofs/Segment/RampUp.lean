import FeatureFlags.Proofs.Nesting.Termination
import FeatureFlags.Proofs.Rollout.Weight
import Mathlib.Data.List.Forall2

/-!
# Ramping up a segment

A segment is ramped up by making the weights of its rules greater, or by taking them off.  Whoever is
in the segment stays in it.

The two segments are decided side by side, rule by rule.  A rule asks for the segments that its
clauses name before it looks at its weight, and the weight leaves the scope alone.  So as long as no
rule of the ramped up segment matches, both segments are in the same scope, where the clauses of the
next rule have the same result; and a rule that does not fail does not do so with a greater weight,
since it has a bucket or no need of one.  At the first rule that matches in the ramped up segment the
search is over for it, and no rule has matched in the other segment before that.

A segment does not take part in the decision about itself: while it is being decided it is on the
chain, and a rule that leads back to it fails.  So the same holds if the segment is replaced in the
store.  The other segments are decided alike meanwhile, even those that name it.

## What is here

* `SegmentRule.RampedUp`, `Segment.RampedUp`: the weights of one are no less than those of the other.
* `Segment.RampedUp.contains`: both segments in the same store.
* `Environment.DifferAt`, `DifferAt.inSegment`: two stores, while a segment is being decided.
* `Segment.contains_of_rampedUp`: the theorem.
-/

set_option autoImplicit false

namespace FeatureFlags

/-! ## Rules -/

/-- The second rule is the first, ramped up: a weight that counts has become no less or is gone. -/
structure SegmentRule.RampedUp (r r' : SegmentRule) : Prop where
  /-- They differ only in their weights. -/
  same : r' = { r with weight := r'.weight }
  /-- A weight that is missing or does not count stays as it is. -/
  weight : r'.weight = r.weight ∨ ∃ w, r.weight = some w ∧ (Binary.ofNat 0).atMost w = true ∧
    ∀ w' ∈ r'.weight, w.atMost w' = true

namespace SegmentRule.RampedUp

variable {r r' : SegmentRule} {key salt : String} {b : Bool}

/-- The contexts that are included by a weight are included by a greater one, and there is nothing
that this could fail for. -/
theorem includes (h : r.RampedUp r') {c : Context} (hb : r.includes key salt c = .ok b) :
    ∃ b', r'.includes key salt c = .ok b' ∧ (b = true → b' = true) := by
  obtain ⟨weight', rfl⟩ : ∃ weight', r' = { r with weight := weight' } := ⟨_, h.same⟩
  rcases h.weight with hsame | ⟨w, hw, hcounts, hgrows⟩
  · obtain rfl : weight' = r.weight := hsame
    exact ⟨b, hb, id⟩
  · cases weight' with
    | none => exact ⟨true, rfl, fun _ => rfl⟩
    | some w' =>
      have hle : w.atMost w' = true := hgrows w' rfl
      have hgreater : ({ r with weight := some w' } : SegmentRule).includes key salt c = _ :=
        includes_of_weight rfl (Binary.atMost_trans hcounts hle)
      rw [hgreater]
      rw [includes_of_weight hw hcounts] at hb
      generalize c.bucket r.rolloutContextKind r.bucketBy (key ++ "." ++ salt) false = found
        at hb ⊢
      rcases found with e | _ | bucket
      · cases hb
      · exact ⟨b, hb, id⟩
      · obtain rfl : bucket.less (weightShare w) = b := Except.ok.inj hb
        exact ⟨_, rfl, fun h => Binary.less_of_less_of_atMost h (weightShare_mono hcounts hle)⟩

variable {env : Environment} {inSegment : String → Eval Bool} {s t : Scope}

/-- A rule that does not fail does not do so if it is ramped up, and it leads to the same scope. -/
theorem evaluate (h : r.RampedUp r') (hb : r.evaluate env inSegment key salt s = (.ok b, t)) :
    ∃ b', r'.evaluate env inSegment key salt s = (.ok b', t) ∧ (b = true → b' = true) := by
  obtain ⟨holds, u, hclauses, hrest⟩ := Eval.bind_eq_ok.1 hb
  have hsame : allHold env inSegment r'.clauses s = (.ok holds, u) := by
    rw [h.same]
    exact hclauses
  have hnext : r'.evaluate env inSegment key salt s = _ := Eval.bind_of_ok hsame
  rw [hnext]
  cases holds with
  | false => exact ⟨b, hrest, id⟩
  | true =>
    obtain ⟨hb, rfl⟩ := Prod.ext_iff.1 hrest
    obtain ⟨b', hb', himp⟩ := h.includes hb
    exact ⟨b', Prod.ext hb' rfl, himp⟩

/-- If one of some rules matches before any fails, so does one of them ramped up. -/
theorem any {rules rules' : List SegmentRule} (h : List.Forall₂ SegmentRule.RampedUp rules rules')
    (hany : Eval.any (fun r => r.evaluate env inSegment key salt) rules s = (.ok true, t)) :
    ∃ t', Eval.any (fun r => r.evaluate env inSegment key salt) rules' s = (.ok true, t') := by
  induction h generalizing s with
  | nil => cases hany
  | @cons r r' rest rest' hr _ ih =>
    obtain ⟨b, u, hb, hrest⟩ := Eval.bind_eq_ok.1 hany
    obtain ⟨b', hb', himp⟩ := hr.evaluate hb
    have hnext : Eval.any (fun r => r.evaluate env inSegment key salt) (r' :: rest') s = _ :=
      Eval.bind_of_ok hb'
    rw [hnext]
    cases b' with
    | true => exact ⟨u, rfl⟩
    | false =>
      cases b with
      | true => cases himp rfl
      | false => exact ih hrest

end SegmentRule.RampedUp

/-! ## Segments -/

/-- The second segment is the first, ramped up.  It may have another version. -/
structure Segment.RampedUp (S S' : Segment) : Prop where
  /-- They differ only in the weights of their rules. -/
  same : S' = { S with rules := S'.rules, version := S'.version }
  /-- No rule has become narrower. -/
  rules : List.Forall₂ SegmentRule.RampedUp S.rules S'.rules

/-- Whoever is in a segment is in it if it is ramped up. -/
theorem Segment.RampedUp.contains {S S' : Segment} (h : S.RampedUp S') {env : Environment}
    {inSegment : String → Eval Bool} {s t : Scope}
    (hin : S.contains env inSegment s = (.ok true, t)) :
    ∃ t', S'.contains env inSegment s = (.ok true, t') := by
  obtain ⟨known, u, hverdict, hrest⟩ := Eval.bind_eq_ok.1 hin
  have hsame : S'.verdict env s = (.ok known, u) := by
    rw [h.same]
    exact hverdict
  have hnext : S'.contains env inSegment s = _ := Eval.bind_of_ok hsame
  rw [hnext]
  cases known with
  | some answer => exact ⟨t, hrest⟩
  | none =>
    have hsalt : S'.key = S.key ∧ S'.salt = S.salt := by
      rw [h.same]
      exact ⟨rfl, rfl⟩
    simp only [hsalt]
    exact SegmentRule.RampedUp.any h.rules hrest

/-! ## Stores that differ in one segment -/

/-- Both steps do the same while a segment is being decided, and do not take it off the chain. -/
def Eval.SameWithin (key : String) ⦃α : Type⦄ (x y : Eval α) : Prop :=
  ∀ s : Scope, key ∈ s.segmentChain → x s = y s ∧ key ∈ (x s).2.segmentChain

namespace Eval

variable {α : Type} {key other : String}

theorem SameWithin.withSegment {x y : Eval α} (h : SameWithin key x y) (hne : other ≠ key) :
    SameWithin key (Eval.withSegment other x) (Eval.withSegment other y) := by
  intro s hs
  have hentered : key ∈ enter other s.segmentChain := by
    by_cases hother : other ∈ s.segmentChain <;> simp [enter, hother, hs]
  obtain ⟨hsame, ht⟩ := h { s with segmentChain := enter other s.segmentChain } hentered
  refine ⟨by simp only [Eval.withSegment, around, hsame], ?_⟩
  exact List.mem_filter.2 ⟨ht, decide_eq_true hne.symm⟩

end Eval

/-- Two environments that differ in flags and in the segment under one key. -/
structure Environment.DifferAt (env env' : Environment) (key : String) : Prop where
  /-- The context is the same. -/
  context : env.context = env'.context
  /-- The provider is the same. -/
  provider : env.provider = env'.provider
  /-- The same lookups of segments fail. -/
  failures : env.store.segmentFailures = env'.store.segmentFailures
  /-- The other segments are the same. -/
  segments : ∀ other ≠ key, env.store.data.segment? other = env'.store.data.segment? other

namespace Environment.DifferAt

variable {env env' : Environment} {key : String} (h : env.DifferAt env' key)

include h

theorem congruence : Eval.Congruence env env' (fun _ => True) (Eval.SameWithin key) where
  context := h.context
  pure _ _ hs := ⟨rfl, hs⟩
  bind {α β x y f g} hx hf s hs := by
    obtain ⟨hsame, ht⟩ := hx s hs
    rcases hxs : x s with ⟨result, t⟩
    rw [hxs] at hsame ht
    cases result with
    | error e =>
      rw [Eval.bind_of_error hxs, Eval.bind_of_error hsame.symm]
      exact ⟨rfl, ht⟩
    | ok a =>
      rw [Eval.bind_of_ok hxs, Eval.bind_of_ok hsame.symm]
      exact hf a t ht
  fail _ _ hs := ⟨rfl, hs⟩
  warn _ _ hs := ⟨rfl, hs⟩
  note _ _ hs := ⟨rfl, hs⟩
  consult contextKey reference s hs := by
    have hvisible : Scope.Visible (key ∈ ·.segmentChain) := by
      intro s t hagrees hs
      rw [← hagrees.segmentChain]
      exact hs
    refine ⟨by simp only [Environment.consult, h.provider], ?_⟩
    exact (Eval.Keeps.consult (E := fun _ => True) hvisible env contextKey reference s hs).1

/-- The segment is not entered again, and the others are found in both. -/
theorem enterSegment {decide₁ decide₂ : Segment → Eval Bool}
    (hdecide : ∀ S, Eval.SameWithin key (decide₁ S) (decide₂ S)) (other : String) :
    Eval.SameWithin key (env.enterSegment decide₁ other) (env'.enterSegment decide₂ other) := by
  intro s hs
  by_cases hother : other ∈ s.segmentChain
  · rw [enterSegment_of_mem hother, enterSegment_of_mem hother]
    exact ⟨rfl, hs⟩
  · have hne : other ≠ key := by
      rintro rfl
      exact hother hs
    rw [enterSegment_of_not_mem hother, enterSegment_of_not_mem hother]
    exact h.congruence.findSegment (congrFun h.failures other) (h.segments other hne)
      (fun _ _ => trivial) (fun S _ => (hdecide S).withSegment hne) s hs

/-- While the segment is being decided, all others are decided alike. -/
theorem inSegment (depth : Nat) (other : String) :
    Eval.SameWithin key (env.inSegment depth other) (env'.inSegment depth other) := by
  induction depth generalizing other with
  | zero => exact h.enterSegment (fun _ => h.congruence.fail trivial) other
  | succ depth ih =>
    exact h.enterSegment (fun S => h.congruence.segment (fun _ _ => trivial) fun other _ => ih other)
      other

end Environment.DifferAt

/-! ## The theorem -/

/-- **Whoever is in a segment stays in it when it is ramped up.**  Let the weights of some rules of a
segment become greater or be taken off, where missing weights and those that do not count stay as
they are.  If the segment contains the context then it does so afterwards, in every store, whatever
it finds of the segments that it names and from whatever scope; and if it is one of the store and is
replaced in it, the context is in the segment with its key in the new store as well. -/
theorem Segment.contains_of_rampedUp (env : Environment) (S S' : Segment) (h : S.RampedUp S') :
    (∀ inSegment s t, S.contains env inSegment s = (.ok true, t) →
      ∃ t', S'.contains env inSegment s = (.ok true, t')) ∧
    ∀ env' key, env.DifferAt env' key → env.store.data.segment? key = some S →
      env'.store.data.segment? key = some S' →
      ∀ s t, env.inSegment env.segmentDepth key s = (.ok true, t) →
        ∃ t', env'.inSegment env'.segmentDepth key s = (.ok true, t') := by
  refine ⟨fun inSegment s t => h.contains, fun env' key hdiffer hfound hfound' s t hin => ?_⟩
  -- both are compared with the same number of levels, which is enough for both
  let depth := max env.segmentDepth env'.segmentDepth
  have hlevels : env.inSegment (depth + 1) key s = (.ok true, t) :=
    (Environment.inSegment_eq_of_le (Nat.le_succ_of_le (Nat.le_max_left _ _)) key s).trans hin
  obtain ⟨hoff, hfine, u, hu⟩ := (Environment.enterSegment_eq_ok_iff hfound).1 ⟨t, hlevels⟩
  have hwithin : Eval.SameWithin key (S.contains env (env.inSegment depth))
      (S.contains env' (env'.inSegment depth)) :=
    hdiffer.congruence.segment (fun _ _ => trivial) fun other _ => hdiffer.inSegment depth other
  have hsame := (hwithin _ (s.mem_segmentChain_entering key)).1
  obtain ⟨u', hu'⟩ := h.contains (hsame.symm.trans hu)
  have hfine' : env'.store.segmentFailures key = none := hdiffer.failures ▸ hfine
  obtain ⟨t', ht'⟩ := (Environment.enterSegment_eq_ok_iff hfound').2 ⟨hoff, hfine', u', hu'⟩
  have hlevels' : env'.inSegment (depth + 1) key s = env'.inSegment env'.segmentDepth key s :=
    Environment.inSegment_eq_of_le (Nat.le_succ_of_le (Nat.le_max_right _ _)) key s
  exact ⟨t', hlevels'.symm.trans ht'⟩

/-- A segment of staff and others by weight. -/
def Segment.trying (staff others : Option Single) : Segment :=
  { Segment.naming "trying" [] [] with
    rules := [⟨[.naming ["staff"]], staff, none, .user⟩, ⟨[], others, none, .user⟩] }

/-- A store with this segment, and a user who is of staff. -/
def Environment.trying (staff others : Option Single) : Environment where
  store := .ofDataset (.ofItems [] [.trying staff others, .naming "staff" ["w"] []])
  provider := none
  context := .ofUserKey "w"

theorem Environment.segment?_trying (staff others : Option Single) (key : String) :
    (Environment.trying staff others).store.data.segment? key =
      if "staff" = key then some (.naming "staff" ["w"] [])
      else if "trying" = key then some (.trying staff others)
      else none := by
  change (((SortedMap.empty.insert "trying" _).insert "staff" _).find? key).filter _ = _
  rw [SortedMap.find?_insert, SortedMap.find?_insert, SortedMap.find?_empty]
  split
  · rfl
  · split <;> rfl

/-- The user is in the segment by its second rule, and when it is ramped up by the first. -/
theorem Segment.contains_of_rampedUp_trying :
    let few : Single := Binary.ofNat 1
    let half : Single := Binary.ofNat 50000
    let env := Environment.trying few half
    let env' := Environment.trying none (Binary.ofNat 60000 : Single)
    (Segment.trying few half).RampedUp (.trying none (Binary.ofNat 60000 : Single)) ∧
      env.DifferAt env' "trying" ∧
      (env.inSegment env.segmentDepth "trying" .empty).1 = .ok true ∧
      (env'.inSegment env'.segmentDepth "trying" .empty).1 = .ok true := by
  intro few half env env'
  have hramped : (Segment.trying few half).RampedUp (.trying none (Binary.ofNat 60000 : Single)) := by
    refine ⟨rfl, .cons ⟨rfl, Or.inr ⟨few, rfl, by decide, nofun⟩⟩ (.cons ⟨rfl, Or.inr
      ⟨half, rfl, by decide, ?_⟩⟩ .nil)⟩
    rintro w' ⟨⟩
    decide
  have hdiffer : env.DifferAt env' "trying" := by
    refine ⟨rfl, rfl, rfl, fun other hother => ?_⟩
    rw [Environment.segment?_trying, Environment.segment?_trying, if_neg hother.symm,
      if_neg hother.symm]
  have hin : (env.inSegment env.segmentDepth "trying" .empty).1 = .ok true := by decide +kernel
  obtain ⟨t', ht'⟩ := (Segment.contains_of_rampedUp env _ _ hramped).2 env' "trying" hdiffer
    (Environment.segment?_trying _ _ _) (Environment.segment?_trying _ _ _) .empty _ (Prod.ext hin rfl)
  exact ⟨hramped, hdiffer, hin, congrArg Prod.fst ht'⟩

end FeatureFlags
