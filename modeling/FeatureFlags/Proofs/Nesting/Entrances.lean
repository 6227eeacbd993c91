import FeatureFlags.Proofs.Nesting.Restoration

/-!
# How evaluations of flags are entered

A flag is evaluated either first of all or because it is a prerequisite.  A prerequisite is reached
after those before it have been evaluated, with all the segments that these name, so what it finds
on the chains depends on what they have left there.  As every call restores the chains, it finds the
flags that it is nested in and nothing else: no segment is being decided, and its own key is not on
the chain.

The entrances are described from the outside, by what leads from one to the next.  That none is left
out is shown by a watch: a step that is taken before each evaluation of a flag.  A watch that does
nothing at the entrances described makes no difference to an evaluation.

## What is here

* `ComesTo`: the prerequisites that are checked, and the scopes in which they are.
* `Environment.Enters`: the evaluations of flags that the evaluation of a flag comes to.
* `Environment.evaluateFlagWatched`: evaluations with a watch.
* `evaluate_restores_chains`: the theorem.
-/

set_option autoImplicit false

namespace FeatureFlags

/-! ## Prerequisites one after the other -/

/-- Prerequisites that are checked one after the other come to one of them, in a scope. -/
inductive ComesTo (check : Prerequisite → Eval (Option Bool)) :
    List Prerequisite → Scope → Prerequisite → Scope → Prop
  | here {p : Prerequisite} {ps : List Prerequisite} {s : Scope} : ComesTo check (p :: ps) s p s
  | behind {p q : Prerequisite} {ps : List Prerequisite} {satisfied : Bool} {s t u : Scope}
      (hp : check p s = (.ok (some satisfied), t)) (h : ComesTo check ps t q u) :
      ComesTo check (p :: ps) s q u

section

variable {check check' : Prerequisite → Eval (Option Bool)} {ps : List Prerequisite} {s : Scope}

/-- An invariant of the check holds wherever a prerequisite is checked. -/
theorem ComesTo.invariant {I : Scope → Prop} {Q : Option Bool → Prop} {E : EvalError → Prop}
    (hcheck : ∀ p, Eval.Keeps I (check p) Q E) {p : Prerequisite} {t : Scope}
    (h : ComesTo check ps s p t) (hs : I s) : I t := by
  induction h with
  | here => exact hs
  | behind hp _ ih => exact ih ((hcheck _).ok hs hp).1

/-- Only what a check does where it is made matters. -/
theorem checkInTurn_congr (h : ∀ p t, ComesTo check ps s p t → check' p t = check p t)
    (failed : Option String) : checkInTurn check' failed ps s = checkInTurn check failed ps s := by
  induction ps generalizing failed s with
  | nil => rfl
  | cons p ps ih =>
    have hp : check' p s = check p s := h p s .here
    rw [checkInTurn, checkInTurn]
    rcases hend : check p s with ⟨r, t⟩
    rw [hend] at hp
    cases r with
    | error e => rw [Eval.bind_of_error hp, Eval.bind_of_error hend]
    | ok found =>
      rw [Eval.bind_of_ok hp, Eval.bind_of_ok hend]
      cases found with
      | none => rfl
      | some satisfied =>
        have hrest := fun q u hq => h q u (.behind hend hq)
        cases satisfied with
        | true => exact ih hrest failed
        | false => exact ih hrest (failed <|> some p.key)

end

/-! ## Entrances -/

namespace Environment

/-- The evaluation of `top` comes to the evaluation of a flag, in a scope.  Behind `top` itself, it
is one that a prerequisite which is checked, and is not being evaluated already, has led to. -/
inductive Enters (env : Environment) (top : Flag) : Flag → Scope → Prop
  | top : Enters env top top .empty
  | prerequisite {f g : Flag} {p : Prerequisite} {s t u : Scope} (h : Enters env top f s)
      (hon : f.on = true)
      (hcomes : ComesTo (env.enterPrerequisite (env.evaluateFlag env.flagDepth) f.key)
        f.prerequisites { s with flagChain := Eval.enter f.key s.flagChain } p t)
      (hoff : p.key ∉ t.flagChain) (hfound : env.flag? p.key t = (.ok (some g), u)) :
      Enters env top g u

/-- The evaluation of a flag with a watch: a step that is taken before each evaluation of a flag,
this one and those nested in it. -/
def evaluateFlagWatched (env : Environment) (watch : Flag → Eval Unit) :
    Nat → Flag → Eval (Detail FlagValue)
  | 0, f => watch f >>= fun _ => env.evaluateAbove (fun _ => Eval.fail .tooDeep) f
  | depth + 1, f => watch f >>= fun _ => env.evaluateAbove (evaluateFlagWatched env watch depth) f

variable {env : Environment} {top f g : Flag} {p : Prerequisite} {s t u : Scope}

/-- A prerequisite is entered with the flag that requires it on the chain besides, and is none of
those on the chain. -/
theorem onChains_of_comesTo (hkeys : env.store.data.FlagsUnderOwnKeys) {C : List String}
    (hs : s.OnChains C []) (hfresh : f.key ∉ C)
    (hcomes : ComesTo (env.enterPrerequisite (env.evaluateFlag env.flagDepth) f.key)
      f.prerequisites { s with flagChain := Eval.enter f.key s.flagChain } p t)
    (hoff : p.key ∉ t.flagChain) (hfound : env.flag? p.key t = (.ok (some g), u)) :
    u.OnChains (f.key :: C) [] ∧ g.key ∉ f.key :: C ∧ env.store.data.flag? g.key = some g := by
  have hentered : Scope.OnChains (f.key :: C) []
      { s with flagChain := Eval.enter f.key s.flagChain } :=
    ⟨hs.1 ▸ Eval.enter_of_not_mem (hs.1 ▸ hfresh), hs.2⟩
  have ht : t.OnChains (f.key :: C) [] :=
    hcomes.invariant (enterPrerequisite_onChains hkeys _
      (fun _ _ hkey => evaluateFlag_onChains hkeys hkey) f.key) hentered
  rw [flag?_apply] at hfound
  cases hfail : env.store.flagFailures p.key with
  | some e =>
    rw [hfail] at hfound
    cases hfound
  | none =>
    rw [hfail] at hfound
    obtain ⟨hg, rfl⟩ : env.store.data.flag? p.key = some g ∧
        { t with events := t.events ++ [.flagLookup p.key] } = u := by simpa using hfound
    have hown : g.key = p.key := hkeys.key_eq hg
    rw [hown]
    exact ⟨ht, ht.1 ▸ hoff, hg⟩

/-- **No flag is entered while a segment is being decided, and none while it is being evaluated
itself.** -/
theorem Enters.fresh (hkeys : env.store.data.FlagsUnderOwnKeys) (h : env.Enters top f s) :
    s.segmentChain = [] ∧ f.key ∉ s.flagChain := by
  -- what a flag finds on the chains is what the one that requires it found, and that one's own key
  induction h with
  | top => exact ⟨rfl, List.not_mem_nil⟩
  | prerequisite _ _ hcomes hoff hfound ih =>
    obtain ⟨hu, hfresh, -⟩ := onChains_of_comesTo hkeys ⟨rfl, ih.1⟩ ih.2 hcomes hoff hfound
    exact ⟨hu.2, hu.1 ▸ hfresh⟩

/-! ## Watches -/

/-- Entering a prerequisite goes by its evaluation in the scope in which it is looked up. -/
theorem enterPrerequisite_congr {evaluate evaluate' : Flag → Eval (Detail FlagValue)}
    {parent : String} (h : ∀ g u, p.key ∉ t.flagChain → env.flag? p.key t = (.ok (some g), u) →
      evaluate' g u = evaluate g u) :
    env.enterPrerequisite evaluate' parent p t = env.enterPrerequisite evaluate parent p t := by
  have hread : Eval.read Scope.flagChain t = (.ok t.flagChain, t) := rfl
  rw [enterPrerequisite, enterPrerequisite, Eval.bind_of_ok hread, Eval.bind_of_ok hread]
  split
  · rfl
  · next hoff =>
    have hoff : p.key ∉ t.flagChain := by simpa using hoff
    rw [findPrerequisite, findPrerequisite]
    rcases hlooked : env.flag? p.key t with ⟨r, u⟩
    cases r with
    | error e => rw [Eval.bind_of_error hlooked, Eval.bind_of_error hlooked]
    | ok found =>
      rw [Eval.bind_of_ok hlooked, Eval.bind_of_ok hlooked]
      cases found with
      | none => rfl
      | some g =>
        have hg := h g u hoff hlooked
        simp only [bind, Eval.bind, hg]

/-- Only the evaluations that are entered from that of a flag matter to it.  Each of these has fewer
keys left to enter. -/
theorem evaluateAbove_congr (hkeys : env.store.data.FlagsUnderOwnKeys)
    {evaluate : Flag → Eval (Detail FlagValue)} (hf : env.Enters top f s)
    (h : ∀ g u, env.Enters top g u →
      (env.store.data.flags.keysOff (g.key :: u.flagChain)).length <
        (env.store.data.flags.keysOff (f.key :: s.flagChain)).length →
      evaluate g u = env.evaluateFlag env.flagDepth g u) :
    env.evaluateAbove evaluate f s = env.evaluateFlag env.flagDepth f s := by
  obtain ⟨hsegments, hfresh⟩ := hf.fresh hkeys
  rw [(isUnlimited hkeys).flags f, evaluateAbove, Flag.evaluateWith, Flag.evaluateWith]
  split
  · next hon =>
    have hpre : env.failedPrerequisite? evaluate f s =
        env.failedPrerequisite? (env.evaluateFlag env.flagDepth) f s := by
      rw [failedPrerequisite?, failedPrerequisite?, Eval.withFlag, Eval.withFlag, Eval.around,
        Eval.around, checkInTurn_congr fun p t hcomes => ?_]
      refine enterPrerequisite_congr fun g u hoff hfound => ?_
      obtain ⟨hu, hg, hfind⟩ :=
        onChains_of_comesTo hkeys ⟨rfl, hsegments⟩ hfresh hcomes hoff hfound
      refine h g u (hf.prerequisite hon hcomes hoff hfound) ?_
      rw [hu.1]
      exact SortedMap.length_keysOff_cons_lt (Dataset.find?_of_flag? hfind) hg
    simp only [bind, Eval.bind, hpre]
  · rfl

/-- **The entrances described are all there are**: a watch that does nothing at them does nothing to
an evaluation. -/
theorem evaluateFlagWatched_eq (hkeys : env.store.data.FlagsUnderOwnKeys) {watch : Flag → Eval Unit}
    (hwatch : ∀ g u, env.Enters top g u → watch g u = (.ok (), u)) {depth : Nat}
    (hf : env.Enters top f s)
    (hdepth : (env.store.data.flags.keysOff (f.key :: s.flagChain)).length ≤ depth) :
    env.evaluateFlagWatched watch depth f s = env.evaluateFlag env.flagDepth f s := by
  induction depth generalizing f s with
  | zero =>
    rw [evaluateFlagWatched, Eval.bind_of_ok (hwatch f s hf)]
    -- no key is left, so nothing is entered from here
    exact evaluateAbove_congr hkeys hf fun g u _ hlt => by omega
  | succ depth ih =>
    rw [evaluateFlagWatched, Eval.bind_of_ok (hwatch f s hf)]
    exact evaluateAbove_congr hkeys hf fun g u hg hlt => ih hg (by omega)

end Environment

/-! ## Whole evaluations -/

/-- **Both chains are restored on every path.**  If every flag is filed under its own key, a call
made from any scope at all leaves the chains as they were, whether it fails or not, unless it
evaluates a flag that is on the chain; records are only added at the end, memberships are kept, and
the status gets no better.  In the course of an evaluation, each evaluation of a flag is entered with
no segment on the chain and without its own key on the chain; and the entrances that this is said of
are all there are, as a watch that does nothing at them makes no difference. -/
theorem evaluate_restores_chains (env : Environment) (hkeys : env.store.data.FlagsUnderOwnKeys) :
    (∀ (call : Call) (s : Scope), call.IsFresh s → s.Restored (call.run env s).2) ∧
    ∀ top : Flag,
      (∀ f s, env.Enters top f s → s.segmentChain = [] ∧ f.key ∉ s.flagChain) ∧
      ∀ watch : Flag → Eval Unit, (∀ f s, env.Enters top f s → watch f s = (.ok (), s)) →
        env.evaluateFlagWatched watch env.flagDepth top .empty = env.run top := by
  refine ⟨fun call s hfresh => Call.restored_run hkeys hfresh, fun top => ⟨?_, ?_⟩⟩
  · exact fun f s h => h.fresh hkeys
  · intro watch hwatch
    refine Environment.evaluateFlagWatched_eq hkeys hwatch .top ?_
    exact Nat.le_trans (SortedMap.length_keysOff_le _) env.size_le_flagDepth

/-- A watch that stops an evaluation at a flag which is entered from anything but clean chains. -/
def haltUnlessClean (f : Flag) : Eval Unit := fun s =>
  if s.segmentChain = [] ∧ f.key ∉ s.flagChain then (.ok (), s) else (.error .tooDeep, s)

/-- Flags that require the same one, with segments in a row and in a cycle. -/
def branching : Environment where
  store := .ofDataset (.ofItems
    [(Flag.requiring "b" ["d"]).forSegments ["x"], (Flag.requiring "c" ["d"]).forSegments ["p"],
      (Flag.requiring "d" []).forSegments ["vip"]]
    [.naming "x" [] ["y"], .naming "y" [] [], .naming "p" [] ["q"], .naming "q" [] ["p"],
      { Segment.naming "vip" [] [] with unbounded := true, generation := some 1 }])
  provider := some ⟨fun _ => (none, .stale)⟩
  context := .ofUserKey "u"

/-- What is known of a result is known of the step. -/
theorem Eval.eq_ok_of_toOption {α : Type} {x : Eval α} {a : α} {s : Scope}
    (h : (x s).1.toOption = some a) : x s = (.ok a, (x s).2) := by
  cases hend : (x s).1 with
  | error e =>
    rw [hend] at h
    cases h
  | ok b =>
    rw [hend] at h
    obtain rfl : b = a := Option.some.inj h
    exact Prod.ext hend rfl

/-- A flag behind one that has decided segments is entered from clean chains, and leaves them so
although it meets a cycle of segments. -/
theorem evaluate_restores_chains_branching :
    let top := Flag.requiring "a" ["b", "c"]
    let second := (Flag.requiring "c" ["d"]).forSegments ["p"]
    branching.store.data.FlagsUnderOwnKeys ∧
      (∃ s, branching.Enters top second s ∧ s.flagChain = ["a"] ∧ s.segmentChain = [] ∧
        s.records.map (·.flag.key) = ["d", "b"] ∧ (Call.flag second).IsFresh s ∧
        s.Restored ((Call.flag second).run branching s).2 ∧
        ((Call.flag second).run branching s).1.toOption.isNone = true ∧
        ((Call.flag second).run branching s).2.records.map (·.flag.key) = ["d", "b", "d"]) ∧
      branching.evaluateFlagWatched haltUnlessClean branching.flagDepth top .empty =
        branching.run top := by
  intro top second
  have hkeys : branching.store.data.FlagsUnderOwnKeys := Dataset.flagsUnderOwnKeys_ofItems _ _
  obtain ⟨hcalls, hentrances⟩ := evaluate_restores_chains branching hkeys
  obtain ⟨hclean, hwatched⟩ := hentrances top
  let first : Eval (Option Bool) :=
    branching.enterPrerequisite (branching.evaluateFlag branching.flagDepth) "a" ⟨"b", 0⟩
  let s : Scope := { Scope.empty with flagChain := ["a"] }
  have hfirst : first s = (.ok (some true), (first s).2) :=
    Eval.eq_ok_of_toOption (by decide +kernel)
  have henters : branching.Enters top second
      { (first s).2 with events := (first s).2.events ++ [.flagLookup "c"] } :=
    .prerequisite .top rfl (.behind hfirst .here) (by decide +kernel) rfl
  refine ⟨hkeys, ⟨_, henters, by decide +kernel, (hclean _ _ henters).1, by decide +kernel,
    (hclean _ _ henters).2, hcalls _ _ (hclean _ _ henters).2, by decide +kernel,
    by decide +kernel⟩, hwatched haltUnlessClean fun f s h => if_pos (hclean f s h)⟩

end FeatureFlags
