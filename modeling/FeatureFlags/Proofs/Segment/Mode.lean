import FeatureFlags.Proofs.BigSegment.Account

/-!
# Segments by their modes

There are two kinds of segments, and they know in different ways whether the context belongs to them.
A bounded segment has lists, where it looks for the keys of the context, and has nothing to do with
the provider of big segments.  An unbounded segment ignores its lists and consults the provider.  In
both cases what is known is final, and the rules decide only if nothing is known.

That something is known to be false is not the same as nothing being known.  A context without the
kind of an unbounded segment is not in it, and neither is any context if the segment has no
generation; but if there is no provider, or it knows nothing about the key, or what it knows does not
mention the segment, then the rules decide.

A rule that passes leads to the next in the scope that it leaves behind, and the first that does not
pass decides, be it by matching or by failing.

## What is here

* `Eval.Passes`, `Eval.any_eq_iff`: a search that stops at the first that does not give false.
* `Context.ListedBy`: what the lists of a segment hold.
* `Environment.Includes`, `Excludes`, `IsSilentOn`: what the provider says.
* `Scope.heard`, `Eval.AsksNobody`: steps that have nothing to do with big segments.
* `Segment.contains_by_mode`: the theorem.
-/

set_option autoImplicit false

namespace FeatureFlags

/-! ## The first that does not pass -/

namespace Eval

variable {β : Type} {p : β → Eval Bool} {l : List β} {s t : Scope}

/-- The step gives false for all items of a list, one after the other from one scope to another. -/
inductive Passes (p : β → Eval Bool) : List β → Scope → Scope → Prop where
  | nil (s : Scope) : Passes p [] s s
  | cons {x : β} {rest : List β} {s t u : Scope} (h : p x s = (.ok false, t))
      (hrest : Passes p rest t u) : Passes p (x :: rest) s u

/-- The search gives false just if all items pass. -/
theorem any_eq_false_iff : Eval.any p l s = (.ok false, t) ↔ Passes p l s t := by
  induction l generalizing s with
  | nil =>
    constructor
    · rintro ⟨⟩
      exact .nil _
    · rintro ⟨⟩
      rfl
  | cons x rest ih =>
    constructor
    · intro h
      obtain ⟨b, u, hx, hrest⟩ := bind_eq_ok.1 h
      cases b with
      | true => cases hrest
      | false => exact .cons hx (ih.1 hrest)
    · rintro (⟨⟩ | ⟨hx, hrest⟩)
      exact (bind_of_ok hx).trans (ih.2 hrest)

/-- The search gives anything else just if the first item that does not pass does. -/
theorem any_eq_iff {result : Except EvalError Bool} (hresult : result ≠ .ok false) :
    Eval.any p l s = (result, t) ↔ ∃ before x after u, l = before ++ x :: after ∧
      Passes p before s u ∧ p x u = (result, t) := by
  induction l generalizing s with
  | nil =>
    constructor
    · intro h
      exact absurd (congrArg Prod.fst h).symm hresult
    · rintro ⟨before, x, after, u, heq, -⟩
      simp at heq
  | cons x rest ih =>
    rcases hx : p x s with ⟨found, u⟩
    constructor
    · intro h
      cases found with
      | error e =>
        have hstops : Eval.any p (x :: rest) s = (.error e, u) := bind_of_error hx
        exact ⟨[], x, rest, s, rfl, .nil s, hx.trans (hstops.symm.trans h)⟩
      | ok b =>
        have hnext : Eval.any p (x :: rest) s = _ := bind_of_ok hx
        rw [hnext] at h
        cases b with
        | true => exact ⟨[], x, rest, s, rfl, .nil s, hx.trans h⟩
        | false =>
          obtain ⟨before, y, after, v, rfl, hpasses, hy⟩ := ih.1 h
          exact ⟨x :: before, y, after, v, rfl, .cons hx hpasses, hy⟩
    · rintro ⟨before, y, after, v, heq, hpasses, hy⟩
      cases hpasses with
      | nil =>
        obtain ⟨rfl, rfl⟩ := List.cons.inj heq
        rw [hx] at hy
        obtain ⟨rfl, rfl⟩ := Prod.mk.inj hy
        cases found with
        | error e => exact bind_of_error hx
        | ok b =>
          cases b with
          | true => exact bind_of_ok hx
          | false => exact absurd rfl hresult
      | cons hfirst hrest =>
        obtain ⟨rfl, rfl⟩ := List.cons.inj heq
        exact (bind_of_ok hfirst).trans (ih.2 ⟨_, y, after, v, rfl, hrest, hy⟩)

end Eval

/-! ## Lists -/

/-- Some of the keys are that of the user of the context, or a target holds the key of the entity of
its kind. -/
def Context.ListedBy (c : Context) (userKeys : List String) (targets : List SegmentTarget) : Prop :=
  (∃ e, c.entity? .user = some e ∧ e.key ∈ userKeys) ∨
    ∃ t ∈ targets, ∃ e, c.entity? t.contextKind = some e ∧ e.key ∈ t.values

theorem listsContext_eq_true_iff {c : Context} {userKeys : List String}
    {targets : List SegmentTarget} :
    listsContext userKeys targets c = true ↔ c.ListedBy userKeys targets := by
  simp [listsContext, SegmentTarget.contains, Context.ListedBy, Option.any_eq_true]

/-! ## What the provider says -/

section

variable {m : Membership} {reference : String}

theorem Membership.check_eq_some_true_iff :
    m.check reference = some true ↔ reference ∈ m.included := by
  simp [check]

theorem Membership.check_eq_some_false_iff :
    m.check reference = some false ↔ reference ∉ m.included ∧ reference ∈ m.excluded := by
  by_cases h : reference ∈ m.included <;> simp [check, h]

theorem Membership.check_eq_none_iff :
    m.check reference = none ↔ reference ∉ m.included ∧ reference ∉ m.excluded := by
  by_cases h : reference ∈ m.included <;> simp [check, h]

end

namespace Environment

variable (env : Environment) (key reference : String)

/-- There is a provider, and it includes the key in the segment of a reference. -/
def Includes : Prop :=
  ∃ provider m, env.provider = some provider ∧ (provider.query key).1 = some m ∧
    reference ∈ m.included

/-- There is a provider, and it excludes the key from the segment of a reference and does not include
it as well. -/
def Excludes : Prop :=
  ∃ provider m, env.provider = some provider ∧ (provider.query key).1 = some m ∧
    reference ∉ m.included ∧ reference ∈ m.excluded

/-- There is no provider, or it knows nothing about the key, or what it knows does not mention the
reference. -/
def IsSilentOn : Prop :=
  ∀ provider m, env.provider = some provider → (provider.query key).1 = some m →
    reference ∉ m.included ∧ reference ∉ m.excluded

/-- What the provider says of a key in the segment of a reference, if there is one. -/
def said? : Option Bool :=
  env.provider.bind fun provider => (provider.query key).1.bind (·.check reference)

variable {env key reference}

theorem said?_eq_some_true_iff : env.said? key reference = some true ↔ env.Includes key reference := by
  simp [said?, Includes, Membership.check_eq_some_true_iff, Option.bind_eq_some_iff]

theorem said?_eq_some_false_iff :
    env.said? key reference = some false ↔ env.Excludes key reference := by
  simp [said?, Excludes, Membership.check_eq_some_false_iff, Option.bind_eq_some_iff]

theorem said?_eq_none_iff : env.said? key reference = none ↔ env.IsSilentOn key reference := by
  simp only [said?, IsSilentOn, Option.bind_eq_none_iff, Membership.check_eq_none_iff]
  exact ⟨fun h provider m hp hm => h provider hp m hm, fun h provider hp m hm => h provider m hp hm⟩

/-- What a consultation gives is what the provider says, even if it was asked before. -/
theorem consult_of_honest {s : Scope} (hs : s.Honest env) (key reference : String) :
    (env.consult key (some reference) s).1 = .ok (env.said? key reference) := by
  have hanew := (Eval.SameAnew.consult key (some reference) s s ⟨rfl, rfl, rfl, rfl, rfl, hs⟩).1
  rw [hanew]
  cases hprovider : env.provider with
  | none =>
    simp only [consultAnew, hprovider, said?]
    rfl
  | some provider =>
    simp only [consultAnew, hprovider, said?]
    rfl

end Environment

/-- A scope that an evaluation gets to is honest. -/
theorem Scope.Honest.inSegment {env : Environment} {s : Scope} (hs : s.Honest env) (depth : Nat)
    (key : String) : (env.inSegment depth key s).2.Honest env :=
  (Environment.inSegment_sameAnew depth key s s ⟨rfl, rfl, rfl, rfl, rfl, hs⟩).2.honest

theorem Scope.Honest.evaluateFlag {env : Environment} {s : Scope} (hs : s.Honest env) (depth : Nat)
    (f : Flag) : (env.evaluateFlag depth f s).2.Honest env :=
  (Environment.evaluateFlag_sameAnew depth f s s ⟨rfl, rfl, rfl, rfl, rfl, hs⟩).2.honest

/-! ## Steps that ask nobody -/

/-- All that an evaluation keeps track of about big segments. -/
def Scope.heard (s : Scope) : List (String × Option String) × List String ×
    Option BigSegmentStatus × SortedMap (Option Membership) :=
  (s.consultations, s.queries, s.status, s.memberships)

namespace Eval

/-- The step has nothing to do with big segments. -/
def AsksNobody {α : Type} (x : Eval α) : Prop := ∀ s, (x s).2.heard = s.heard

theorem compositional_asksNobody (env : Environment) :
    Compositional env env (fun _ => True) fun _ x _ => AsksNobody x where
  context := rfl
  pure _ _ := rfl
  bind {α β x y f g} hx hf s := by
    rcases hxs : x s with ⟨result, t⟩
    have ht := hx s
    rw [hxs] at ht
    cases result with
    | error e =>
      rw [bind_of_error hxs]
      exact ht
    | ok a =>
      rw [bind_of_ok hxs]
      exact (hf a t).trans ht
  fail _ _ := rfl
  warn _ _ := rfl

end Eval

/-! ## Segments -/

namespace Segment

variable {env : Environment} {inSegment : String → Eval Bool} {S : Segment} {s t : Scope}

/-- The rules of the segment lead from one scope to another with a result: all of them pass, and the
result is false, or all before one of them that gives the result and does not pass. -/
def RulesGive (S : Segment) (env : Environment) (inSegment : String → Eval Bool) (s : Scope)
    (result : Except EvalError Bool) (t : Scope) : Prop :=
  let evaluate (r : SegmentRule) := r.evaluate env inSegment S.key S.salt
  (result = .ok false ∧ Eval.Passes evaluate S.rules s t) ∨
    (result ≠ .ok false ∧ ∃ before r after u, S.rules = before ++ r :: after ∧
      Eval.Passes evaluate before s u ∧ evaluate r u = (result, t))

theorem containsGiven_none_iff {result : Except EvalError Bool} :
    S.containsGiven env inSegment none s = (result, t) ↔ S.RulesGive env inSegment s result t := by
  rw [containsGiven, RulesGive]
  by_cases hresult : result = .ok false
  · subst hresult
    simp [Eval.any_eq_false_iff]
  · simp [hresult, Eval.any_eq_iff hresult]

theorem contains_of_verdict {known : Option Bool} (h : S.verdict env s = (.ok known, t)) :
    S.contains env inSegment s = S.containsGiven env inSegment known t := Eval.bind_of_ok h

/-! ### Bounded segments -/

theorem contains_bounded (h : S.unbounded = false) :
    S.contains env inSegment = S.containsGiven env inSegment (S.listing? env.context) := by
  funext s
  refine contains_of_verdict ?_
  rw [verdict, h]
  rfl

theorem contains_bounded_withProvider (h : S.unbounded = false) (provider : Option Provider) :
    S.contains { env with provider } inSegment = S.contains env inSegment := by
  rw [contains_bounded h, contains_bounded h]
  rfl

theorem asksNobody_of_bounded (h : S.unbounded = false)
    (hin : ∀ key ∈ S.namedSegments, (inSegment key).AsksNobody) :
    (S.contains env inSegment).AsksNobody := by
  rw [contains_bounded h]
  exact @Eval.Compositional.containsGiven env env _ _ (Eval.compositional_asksNobody env) inSegment
    inSegment (fun _ _ => trivial) S hin _

/-! ### Unbounded segments -/

theorem contains_unbounded_of_missing (h : S.unbounded = true)
    (hkind : env.context.entity? S.unboundedContextKind = none) :
    S.contains env inSegment s = (.ok false, s) := by
  have hverdict : S.verdict env s = (.ok (some false), s) := by
    rw [verdict, storeVerdict, h, hkind]
    rfl
  exact contains_of_verdict hverdict

/-- The answer for a context with the kind of the segment. -/
theorem contains_unbounded {e : Entity} (h : S.unbounded = true)
    (hkind : env.context.entity? S.unboundedContextKind = some e) :
    S.contains env inSegment =
      env.consult e.key S.storeReference? >>= S.containsGiven env inSegment := by
  change S.verdict env >>= _ = _
  rw [verdict, storeVerdict, h, hkind]
  rfl

theorem contains_unbounded_withLists (h : S.unbounded = true) (included excluded : List String)
    (includedContexts excludedContexts : List SegmentTarget) :
    ({ S with included, excluded, includedContexts, excludedContexts } : Segment).contains env
      inSegment = S.contains env inSegment := by
  have hverdict : ({ S with included, excluded, includedContexts, excludedContexts } :
      Segment).verdict env = S.verdict env := by
    rw [verdict, verdict, if_pos h, if_pos h]
    rfl
  change Segment.verdict env _ >>= _ = S.verdict env >>= _
  rw [hverdict]

/-- Without a generation there is nothing to query for. -/
theorem contains_unbounded_of_no_generation {e : Entity} (h : S.unbounded = true)
    (hkind : env.context.entity? S.unboundedContextKind = some e) (hgeneration : S.generation = none) :
    ∃ t, S.contains env inSegment s = (.ok false, t) ∧ t.status = some .notConfigured ∧
      t.queries = s.queries ∧ t.memberships = s.memberships := by
  have hreference : S.storeReference? = none := by
    rw [storeReference?, hgeneration]
    rfl
  rw [contains_unbounded h hkind, hreference]
  refine ⟨_, rfl, ?_, ?_, rfl⟩
  · -- no status is more severe
    exact (Environment.observe_status _ _).trans
      (BigSegmentStatus.join_eq_right_iff.2 (BigSegmentStatus.noWorse_notConfigured _))
  · simp [Scope.queries]

theorem contains_unbounded_of_generation {e : Entity} {generation : Int} (h : S.unbounded = true)
    (hkind : env.context.entity? S.unboundedContextKind = some e)
    (hgeneration : S.generation = some generation) (hs : s.Honest env) :
    let reference := S.key ++ ".g" ++ toString generation
    S.contains env inSegment s = S.containsGiven env inSegment (env.said? e.key reference)
      (env.consult e.key (some reference) s).2 := by
  intro reference
  have hreference : S.storeReference? = some reference := by
    rw [storeReference?, hgeneration]
    rfl
  rw [contains_unbounded h hkind, hreference]
  exact Eval.bind_of_ok (Prod.ext (Environment.consult_of_honest hs e.key reference) rfl)

/-- Other rules can make a difference just if the provider says nothing. -/
theorem exists_rules_ne_iff {e : Entity} {generation : Int} (h : S.unbounded = true)
    (hkind : env.context.entity? S.unboundedContextKind = some e)
    (hgeneration : S.generation = some generation) (hs : s.Honest env) :
    (∃ rules, (({ S with rules } : Segment).contains env inSegment s).1 ≠
        (S.contains env inSegment s).1) ↔
      env.IsSilentOn e.key (S.key ++ ".g" ++ toString generation) := by
  have hcontains (rules : List SegmentRule) :
      ({ S with rules } : Segment).contains env inSegment s = _ :=
    contains_unbounded_of_generation h hkind hgeneration hs
  rw [contains_unbounded_of_generation h hkind hgeneration hs, ← Environment.said?_eq_none_iff]
  simp only [hcontains]
  cases env.said? e.key (S.key ++ ".g" ++ toString generation) with
  | some answer => exact iff_of_false (fun ⟨_, hne⟩ => hne rfl) nofun
  | none =>
    refine iff_of_true ?_ rfl
    -- without rules nobody is in the segment, and with one that always matches everybody is
    by_cases hfalse : (S.containsGiven env inSegment none
        (env.consult e.key (some (S.key ++ ".g" ++ toString generation)) s).2).1 = .ok false
    · refine ⟨[⟨[], none, none, .user⟩], ?_⟩
      rw [hfalse]
      exact nofun
    · exact ⟨[], Ne.symm hfalse⟩

/-- **Segments go by their modes.**  A bounded segment has nothing to do with big segments itself: it
gives the same with any provider, and leaves alone what is kept of big segments if the segments that
it names do.  It contains the context if its lists include it, else it does not if they exclude it,
else it is left to the rules.  An unbounded segment gives the same with any lists.  It does not
contain a context without its kind, and nothing is done about it then; it contains no context if it
has no generation, which is reported as a provider that is not configured, and no query is made; and
otherwise what the provider says of its key and generation is the answer, and just if the provider
says nothing the rules decide.  This holds in all scopes that keep what the provider says, such as
the empty one, and evaluations lead from such scopes to such scopes. -/
theorem contains_by_mode (env : Environment) (inSegment : String → Eval Bool) (S : Segment)
    (s : Scope) (hs : s.Honest env) :
    let included := env.context.ListedBy S.included S.includedContexts
    let excluded := env.context.ListedBy S.excluded S.excludedContexts
    ((∀ depth key, (env.inSegment depth key s).2.Honest env) ∧
      ∀ depth f, (env.evaluateFlag depth f s).2.Honest env) ∧
    (S.unbounded = false →
      (∀ provider, S.contains { env with provider } inSegment = S.contains env inSegment) ∧
      ((∀ key ∈ S.namedSegments, (inSegment key).AsksNobody) →
        (S.contains env inSegment).AsksNobody) ∧
      (included → S.contains env inSegment s = (.ok true, s)) ∧
      (¬ included → excluded → S.contains env inSegment s = (.ok false, s)) ∧
      (¬ included → ¬ excluded → ∀ result t,
        S.contains env inSegment s = (result, t) ↔ S.RulesGive env inSegment s result t)) ∧
    (S.unbounded = true →
      (∀ included excluded includedContexts excludedContexts,
        ({ S with included, excluded, includedContexts, excludedContexts } : Segment).contains env
          inSegment = S.contains env inSegment) ∧
      (env.context.entity? S.unboundedContextKind = none →
        S.contains env inSegment s = (.ok false, s)) ∧
      ∀ e, env.context.entity? S.unboundedContextKind = some e →
        (S.generation = none → ∃ t, S.contains env inSegment s = (.ok false, t) ∧
          t.status = some .notConfigured ∧ t.queries = s.queries ∧ t.memberships = s.memberships) ∧
        ∀ generation, S.generation = some generation →
          let reference := S.key ++ ".g" ++ toString generation
          let t := (env.consult e.key (some reference) s).2
          (env.Includes e.key reference → S.contains env inSegment s = (.ok true, t)) ∧
          (env.Excludes e.key reference → S.contains env inSegment s = (.ok false, t)) ∧
          (env.IsSilentOn e.key reference → ∀ result u,
            S.contains env inSegment s = (result, u) ↔ S.RulesGive env inSegment t result u) ∧
          ((∃ rules, (({ S with rules } : Segment).contains env inSegment s).1 ≠
            (S.contains env inSegment s).1) ↔ env.IsSilentOn e.key reference)) := by
  intro included excluded
  refine ⟨⟨hs.inSegment, hs.evaluateFlag⟩, fun hbounded => ?_, fun hunbounded => ?_⟩
  · simp only [included, excluded, ← listsContext_eq_true_iff, Bool.not_eq_true]
    refine ⟨contains_bounded_withProvider hbounded, asksNobody_of_bounded hbounded, ?_, ?_, ?_⟩
    · intro hincluded
      rw [contains_bounded hbounded, listing?, if_pos hincluded]
      rfl
    · intro hincluded hexcluded
      rw [contains_bounded hbounded, listing?, hincluded, hexcluded]
      rfl
    · intro hincluded hexcluded result t
      rw [contains_bounded hbounded, listing?, hincluded, hexcluded]
      exact containsGiven_none_iff
  · refine ⟨fun _ _ _ _ => ?_, contains_unbounded_of_missing hunbounded, fun e hkind =>
      ⟨fun hgeneration => ?_, fun generation hgeneration => ?_⟩⟩
    · exact contains_unbounded_withLists hunbounded _ _ _ _
    · exact contains_unbounded_of_no_generation hunbounded hkind hgeneration
    · have hcontains : S.contains env inSegment s = _ :=
        contains_unbounded_of_generation hunbounded hkind hgeneration hs
      intro reference t
      refine ⟨fun hsaid => ?_, fun hsaid => ?_, fun hsaid result u => ?_,
        exists_rules_ne_iff hunbounded hkind hgeneration hs⟩
      · rw [hcontains, Environment.said?_eq_some_true_iff.2 hsaid]
        rfl
      · rw [hcontains, Environment.said?_eq_some_false_iff.2 hsaid]
        rfl
      · rw [hcontains, Environment.said?_eq_none_iff.2 hsaid]
        exact containsGiven_none_iff

/-- An unbounded segment that everybody is in by its rules, and a user is not by its lists. -/
def forAll (key : String) (generation : Option Int) : Segment :=
  { naming key [] [] with
    excluded := ["u"]
    rules := [⟨[], none, none, .user⟩]
    unbounded := true
    generation }

end Segment

/-- A provider that includes and excludes the user in one segment and excludes the user in another. -/
def Environment.mentioning : Environment where
  store := .ofDataset (.ofItems [] [.forAll "vip" (some 1)])
  provider := some ⟨fun _ => (some ⟨["vip.g1"], ["vip.g1", "beta.g2"]⟩, .stale)⟩
  context := .ofUserKey "u"

/-- After the provider was asked for one segment, it is known what it says of others. -/
theorem Segment.contains_by_mode_mentioning :
    let env := Environment.mentioning
    let s := (env.inSegment 1 "vip" .empty).2
    let contains S := Segment.contains env (env.inSegment 0) S s
    s.Honest env ∧ s.queries = ["u"] ∧
      (contains (.forAll "vip" (some 1))).1 = .ok true ∧
      (contains (.forAll "beta" (some 2))).1 = .ok false ∧
      (contains (.forAll "gamma" (some 2))).1 = .ok true ∧
      (contains (.forAll "vip" none)).1 = .ok false ∧
      contains { Segment.forAll "vip" (some 1) with unbounded := false } = (.ok false, s) := by
  intro env s contains
  have hs : s.Honest env := by
    have hreached := Segment.contains_by_mode env (env.inSegment 0) (.forAll "vip" none) .empty
      (Scope.honest_empty env)
    exact hreached.1.1 1 "vip"
  have hunbounded (key : String) (generation : Option Int) :=
    ((Segment.contains_by_mode env (env.inSegment 0) (.forAll key generation) s hs).2.2 rfl).2.2 _ rfl
  have hbounded := (Segment.contains_by_mode env (env.inSegment 0)
    { Segment.forAll "vip" (some 1) with unbounded := false } s hs).2.1 rfl
  refine ⟨hs, by decide +kernel, ?_, ?_, ?_, ?_, hbounded.2.2.2.1 ?_ ?_⟩
  · have hincludes := ((hunbounded "vip" (some 1)).2 1 rfl).1
    exact congrArg Prod.fst (hincludes ⟨_, _, rfl, rfl, by decide⟩)
  · have hexcludes := ((hunbounded "beta" (some 2)).2 2 rfl).2.1
    exact congrArg Prod.fst (hexcludes ⟨_, _, rfl, rfl, by decide, by decide⟩)
  · have hsilent := ((hunbounded "gamma" (some 2)).2 2 rfl).2.2.1
    refine congrArg Prod.fst ((hsilent ?_ (.ok true) _).2
      (Or.inr ⟨nofun, [], _, [], _, rfl, .nil _, rfl⟩))
    rintro provider m ⟨⟩ ⟨⟩
    exact ⟨by decide, by decide⟩
  · obtain ⟨t, ht, -⟩ := (hunbounded "vip" none).1 rfl
    exact congrArg Prod.fst ht
  · rintro (⟨e, -, hlisted⟩ | ⟨t, ht, -⟩)
    · exact absurd hlisted List.not_mem_nil
    · exact absurd ht List.not_mem_nil
  · exact Or.inl ⟨_, rfl, List.mem_singleton.2 rfl⟩

end FeatureFlags
