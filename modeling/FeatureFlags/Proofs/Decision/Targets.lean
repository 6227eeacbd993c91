import FeatureFlags.Proofs.Decision.Selection

/-!
# What targets serve

Targets of both ages are searched as one list.  If a flag is on and its prerequisites are satisfied,
the first target of this list that lists the context is served, whatever the rules are.  If there is
none, the rules decide, and nothing that they give looks like what a target gives.

Older targets that no placeholder names are not in the list.  So they do not matter to anything, and
not only to the search: every evaluation of the flag is the same with any others.

## What is here

* `Flag.reason_ne_targetMatch`: what decides if no target lists the context.
* `Flag.evaluate_withTargets`: older targets that nothing names do not matter.
* `Flag.targets_merge`: the theorem.
-/

set_option autoImplicit false

namespace FeatureFlags

/-! ## Evaluations -/

namespace Flag

variable {env : Environment} {inSegment : String → Eval Bool} {f : Flag} {s : Scope}

theorem decideByRules_withTargets (targets : List Target) (index : Nat) (rules : List FlagRule) :
    { f with targets }.decideByRules env inSegment index rules =
      f.decideByRules env inSegment index rules := by
  induction rules generalizing index with
  | nil => rfl
  | cons r rules ih =>
    rw [decideByRules, decideByRules, ih]
    rfl

/-- Older targets that no placeholder names do not matter to anything. -/
theorem evaluate_withTargets (hnewer : f.contextTargets ≠ []) {targets : List Target}
    (h : ∀ t ∈ f.contextTargets, t.contextKind = .user → t.values = [] →
      targets.filter (fun o => o.variation = t.variation) =
        f.targets.filter fun o => o.variation = t.variation) :
    evaluate env { f with targets } = evaluate env f := by
  have htarget (c : Context) : { f with targets }.targetVariation? c = f.targetVariation? c := by
    rw [targetVariation?_eq, targetVariation?_eq, effectiveTargets_withTargets hnewer h]
  have hdecide : { f with targets }.decide env (env.inSegment env.segmentDepth) =
      f.decide env (env.inSegment env.segmentDepth) := by
    rw [decide, decide, htarget]
    split
    · rfl
    · exact decideByRules_withTargets targets 0 f.rules
  refine evaluate_congr rfl ?_
  by_cases hon : f.on = true
  · have hon' : { f with targets }.on = true := hon
    rw [env.run_eq hon', env.run_eq hon, hdecide]
    rfl
  · have hoff : { f with targets }.on = false := by simpa using hon
    rw [Environment.run_of_off hoff, Environment.run_of_off (by simpa using hon)]
    rfl

/-- Rules and fallthrough never serve a variation as that of a target. -/
theorem reason_served_ne_targetMatch {o : Outcome} {c : Context} {reason : Bool → Reason}
    (h : ∀ inExperiment, reason inExperiment ≠ .targetMatch) :
    (f.served o c reason).reason ≠ .targetMatch := by
  rw [served]
  split
  · rw [variation]
    split
    · exact h _
    · simp [Detail.err, Detail.empty]
  · simp [Detail.err, Detail.empty]

theorem reason_ne_targetMatch (hon : f.on = true)
    (hsatisfied : env.checkPrerequisites f .empty = (.ok none, s))
    (htarget : f.targetVariation? env.context = none) :
    (evaluate env f).detail.reason ≠ .targetMatch := by
  rcases Environment.passesRules_or_stopsAt f.rules s with
    ⟨u, hpasses⟩ | ⟨before, r, after, t, u, hrules, hpasses, hstops⟩
  · rw [evaluate, Environment.run_of_fallthrough hon hsatisfied htarget hpasses, detail_serve]
    exact reason_served_ne_targetMatch fun _ => by simp
  · rw [evaluate, Environment.run_of_stopsAt hon hsatisfied htarget hrules hpasses hstops]
    split
    · rw [detail_serve]
      exact reason_served_ne_targetMatch fun _ => by simp
    · simp [Evaluation.ofRun, Detail.err, Detail.empty]

/-- **Targets of both ages are searched as one list.**  Let `effective` be the older targets of a
flag if it has no newer ones, and otherwise the newer ones with the older ones of the same variation
in the place of every placeholder.  There is just one such list.

The search that goes back to the older targets at every placeholder finds what a search of this list
finds: the variation of the first target in it which lists the context, and none just if no target
in it does.  Two contexts whose entities of the kinds of these targets have the same keys are found
alike, so no target is looked up by the key of another kind.

If the flag is on and its prerequisites are satisfied, then the first target that lists the context
is served for this reason, and if there is none, the rules decide, which never serve anything for
this reason.  Once there are newer targets, older ones whose variations no placeholder names may be
taken away or added, and every evaluation of the flag stays the same. -/
theorem targets_merge (env : Environment) (f : Flag) :
    ∃ effective, (∀ l, f.IsEffective l ↔ l = effective) ∧
      (∀ c, f.targetVariation? c =
        (effective.find? fun t => t.lists c).map Target.variation) ∧
      (∀ c index, f.targetVariation? c = some index ↔
        ∃ t, Target.IsFirstListed effective c t ∧ t.variation = index) ∧
      (∀ c, f.targetVariation? c = none ↔ ∀ t ∈ effective, ¬ t.Lists c) ∧
      (∀ c d, (∀ t ∈ effective, (c.entity? t.contextKind).map Entity.key =
        (d.entity? t.contextKind).map Entity.key) → f.targetVariation? c = f.targetVariation? d) ∧
      (f.on = true → ∀ s, env.checkPrerequisites f .empty = (.ok none, s) →
        (∀ t, Target.IsFirstListed effective env.context t → (evaluate env f).detail =
          { f.variation t.variation .targetMatch with status := s.status }) ∧
        ((∀ t ∈ effective, ¬ t.Lists env.context) →
          env.run f = f.decideByRules env (env.inSegment env.segmentDepth) 0 f.rules s ∧
            (evaluate env f).detail.reason ≠ .targetMatch)) ∧
      (f.contextTargets ≠ [] → ∀ targets : List Target,
        (∀ t ∈ f.contextTargets, t.contextKind = .user → t.values = [] →
          targets.filter (fun o => o.variation = t.variation) =
            f.targets.filter fun o => o.variation = t.variation) →
        evaluate env { f with targets } = evaluate env f) := by
  refine ⟨f.effectiveTargets, fun l => isEffective_iff, f.targetVariation?_eq,
    fun c index => targetVariation?_eq_some_iff, fun c => targetVariation?_eq_none_iff,
    fun c d h => targetVariation?_congr fun t ht => Target.lists_congr (h t ht),
    fun hon s hsatisfied => ⟨fun t ht => ?_, fun hlists => ?_⟩,
    fun hnewer targets => evaluate_withTargets hnewer⟩
  · have htarget := targetVariation?_eq_some_iff.2 ⟨t, ht, rfl⟩
    rw [evaluate, Environment.run_of_target hon hsatisfied htarget]
    rfl
  · have htarget := targetVariation?_eq_none_iff.2 hlists
    refine ⟨?_, reason_ne_targetMatch hon hsatisfied htarget⟩
    rw [Environment.run_of_satisfied hon hsatisfied, decide, htarget]

/-- A flag that lists a user under three variations, one of them by an older target that no
placeholder names. -/
def aged : Flag :=
  { Flag.requiring "page" ["core"] with
    targets := [⟨.user, ["bob"], 3⟩, ⟨.user, ["alice"], 1⟩, ⟨.user, ["bob"], 1⟩]
    contextTargets := [⟨⟨"org", by decide⟩, ["bob"], 0⟩, ⟨.user, [], 1⟩, ⟨.user, ["bob"], 2⟩]
    variations := [.bool true, .bool false, .bool true, .bool true] }

/-- The environment of that flag. -/
def agedFor (c : Context) : Environment where
  store := .ofDataset (.ofItems [.requiring "core" []] [])
  provider := none
  context := c

end Flag

/-- The placeholder comes before the newer target that lists the user, and the key of the user is
none of an organization. -/
theorem Flag.targets_merge_aged :
    let bob := Context.ofUserKey "bob"
    aged.targetVariation? bob = some 1 ∧ aged.targetVariation? (.ofUserKey "carol") = none ∧
      (evaluate (agedFor bob) aged).detail = ⟨some (.bool false), some 1, .targetMatch, none⟩ ∧
      evaluate (agedFor bob) { aged with targets := aged.targets.drop 1 } =
        evaluate (agedFor bob) aged := by
  intro bob
  obtain ⟨effective, heffective, -, hsome, hnone, -, hserved, hwithout⟩ :=
    targets_merge (agedFor bob) aged
  have hnewer : aged.contextTargets ≠ [] := List.cons_ne_nil _ _
  have hmerged : aged.IsEffective _ := Or.inr ⟨hnewer, .target (by decide)
    (.placeholder rfl rfl (.target (by simp) .nil))⟩
  obtain rfl := (heffective _).1 hmerged
  have hfirst : Target.IsFirstListed _ bob ⟨.user, ["bob"], 1⟩ :=
    ⟨[⟨⟨"org", by decide⟩, ["bob"], 0⟩, ⟨.user, ["alice"], 1⟩], [⟨.user, ["bob"], 2⟩], rfl,
      by decide, by decide⟩
  refine ⟨(hsome bob 1).2 ⟨_, hfirst, rfl⟩, (hnone _).2 (by decide), ?_, hwithout hnewer _ ?_⟩
  · have hsatisfied : ((agedFor bob).checkPrerequisites aged .empty).1 = .ok none := by
      decide +kernel
    rw [(hserved rfl _ (Prod.ext hsatisfied rfl)).1 _ hfirst]
    rfl
  · intro t ht
    simp only [aged, List.mem_cons, List.not_mem_nil, or_false] at ht
    rcases ht with rfl | rfl | rfl
    · exact fun hkind => absurd hkind (by decide)
    · exact fun _ _ => rfl
    · exact fun _ hvalues => absurd hvalues (List.cons_ne_nil _ _)

end FeatureFlags
