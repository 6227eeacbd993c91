import FeatureFlags.Proofs.Context.Indifference
import FeatureFlags.Proofs.Context.WellFormed
import FeatureFlags.Proofs.Decision.Merging

/-!
# Kinds that nothing mentions

A context may gain an entity of a kind that it did not have.  Whatever looks at a context selects
the entity of some kind, with one exception: a clause on the attribute `kind` sees all kinds at
once.  So a flag without such clauses, which selects by other kinds only, cannot tell that the
entity is there — nor that a context of one entity has become one of several, whose key and
attributes of its own are of no use to anyone.

Users are selected without being mentioned: by the keys that a segment includes and excludes, and
wherever a kind is left out.  The latter needs no care here, since a kind that is left out has been
read as that of users.

## What is here

* `Clause.Overlooks`, `Segment.Overlooks`, `Flag.Overlooks`: what does not mention a kind.
* `Context.AgreesExcept`: contexts that differ in one kind alone.
* `Context.evaluate_combine`: an entity of a kind that nothing mentions changes nothing.
-/

set_option autoImplicit false

namespace FeatureFlags

/-! ## What does not mention a kind -/

/-- A clause neither looks at all kinds nor at the entity of the given one.  One that names segments
looks at none. -/
def Clause.Overlooks (kind : Kind) (clause : Clause) : Prop :=
  clause.op ≠ .segmentMatch → clause.reference.isKind = false ∧ clause.contextKind ≠ kind

/-- An outcome is no rollout by the given kind. -/
def Outcome.Overlooks (kind : Kind) : Outcome → Prop
  | .rollout r => r.contextKind ≠ kind
  | .fixed _ | .malformed _ => True

/-- A segment does not mention a kind. -/
structure Segment.Overlooks (kind : Kind) (s : Segment) : Prop where
  /-- No clause of a rule looks at it. -/
  clauses : ∀ r ∈ s.rules, ∀ clause ∈ r.clauses, clause.Overlooks kind
  /-- No rule with a weight goes by it. -/
  weights : ∀ r ∈ s.rules, r.weight.isSome = true → r.rolloutContextKind ≠ kind
  /-- No target is of this kind. -/
  targets : ∀ t ∈ s.includedContexts ++ s.excludedContexts, t.contextKind ≠ kind
  /-- No users are listed if it is the kind of users. -/
  users : kind = .user → s.included = [] ∧ s.excluded = []
  /-- The segment is no unbounded one of this kind. -/
  unbounded : s.unbounded = true → s.unboundedContextKind ≠ kind

/-- A flag does not mention a kind. -/
structure Flag.Overlooks (kind : Kind) (f : Flag) : Prop where
  /-- No clause of a rule looks at it. -/
  clauses : ∀ r ∈ f.rules, ∀ clause ∈ r.clauses, clause.Overlooks kind
  /-- No target is of this kind. -/
  targets : ∀ t ∈ f.targets ++ f.contextTargets, t.contextKind ≠ kind
  /-- No rule has a rollout by it. -/
  outcomes : ∀ r ∈ f.rules, r.outcome.Overlooks kind
  /-- The fallthrough is no rollout by it. -/
  fallthrough : f.fallthrough.Overlooks kind

/-! ## Contexts that differ in one kind -/

/-- Two contexts have the same entity of every kind but one. -/
def Context.AgreesExcept (kind : Kind) (c d : Context) : Prop :=
  ∀ other, other ≠ kind → c.entity? other = d.entity? other

namespace Context.AgreesExcept

variable {kind : Kind} {c d : Context} (h : c.AgreesExcept kind d)

include h

theorem bucket_eq {other : Kind} (hother : other ≠ kind) (reference : Option Reference)
    (salt : String) (isExperiment : Bool) :
    c.bucket other reference salt isExperiment = d.bucket other reference salt isExperiment := by
  rw [bucket, bucket, h other hother]

theorem clause {clause : Clause} (hclause : clause.Overlooks kind) : clause.TreatsAlike c d := by
  intro hop
  obtain ⟨hreference, hkind⟩ := hclause hop
  have hsubjects : clause.subjects c = clause.subjects d := by
    rw [Clause.subjects, Clause.subjects, hreference, h _ hkind]
    rfl
  rw [Clause.judge, Clause.judge, hsubjects]

theorem select_eq {o : Outcome} (ho : o.Overlooks kind) (key salt : String) :
    o.select key salt c = o.select key salt d := by
  cases o with
  | fixed n => rfl
  | malformed data => rfl
  | rollout r => rw [Outcome.select, Outcome.select, h.bucket_eq ho]

theorem lists_eq {t : Target} (ht : t.contextKind ≠ kind) : t.lists c = t.lists d := by
  rw [Target.lists, Target.lists, h _ ht]

theorem listsContext_eq {users : List String} {targets : List SegmentTarget}
    (husers : kind = .user → users = []) (htargets : ∀ t ∈ targets, t.contextKind ≠ kind) :
    listsContext users targets c = listsContext users targets d := by
  have htarget : ∀ t : SegmentTarget, t.contextKind ≠ kind → t.contains c = t.contains d :=
    fun t ht => by rw [SegmentTarget.contains, SegmentTarget.contains, h _ ht]
  have husersEq : (SegmentTarget.mk .user users).contains c =
      (SegmentTarget.mk .user users).contains d := by
    by_cases hkind : kind = .user
    · have hnone : ∀ c : Context, (SegmentTarget.mk .user []).contains c = false := fun c => by
        rw [SegmentTarget.contains]
        cases c.entity? Kind.user <;> rfl
      rw [husers hkind, hnone, hnone]
    · exact htarget ⟨.user, users⟩ (Ne.symm hkind)
  have htargetsEq : targets.any (·.contains c) = targets.any (·.contains d) := by
    rw [Bool.eq_iff_iff, List.any_eq_true, List.any_eq_true]
    exact exists_congr fun t => and_congr_right fun ht => by rw [htarget t (htargets t ht)]
  rw [listsContext, listsContext, husersEq, htargetsEq]

theorem segment {s : Segment} (hs : s.Overlooks kind) : s.TreatsAlike c d where
  clauses r hr clause hclause := h.clause (hs.clauses r hr clause hclause)
  weights r hr := by
    have hweight := hs.weights r hr
    rw [SegmentRule.includes, SegmentRule.includes]
    cases hw : r.weight with
    | none => rfl
    | some weight =>
      rw [hw] at hweight
      simp only [h.bucket_eq (hweight rfl)]
  lists _ := by
    obtain ⟨hincluded, hexcluded⟩ := List.forall_mem_append.1 hs.targets
    rw [Segment.listing?, Segment.listing?,
      h.listsContext_eq (fun hkind => (hs.users hkind).1) hincluded,
      h.listsContext_eq (fun hkind => (hs.users hkind).2) hexcluded]
  keys hunbounded := by rw [h _ (hs.unbounded hunbounded)]

theorem flag {f : Flag} (hf : f.Overlooks kind) : f.TreatsAlike c d where
  targets := Flag.targetVariation?_congr fun t ht =>
    h.lists_eq (hf.targets t (Flag.mem_of_mem_effectiveTargets ht))
  clauses r hr clause hclause := h.clause (hf.clauses r hr clause hclause)
  outcomes r hr := h.select_eq (hf.outcomes r hr) f.key f.salt
  fallthrough := h.select_eq hf.fallthrough f.key f.salt

end Context.AgreesExcept

/-! ## An entity of another kind -/

namespace Context

variable {c : Context} {m : Entity}

/-- An entity of another kind can be put together with a context, in either order, and nothing else
is different then. -/
theorem exists_combine (h : c.Ordered) (hkind : m.kind ∉ c.kinds) :
    ∃ d, combine [c, .single m] = .ok d ∧ combine [.single m, c] = .ok d ∧ d.isMulti = true ∧
      d.AgreesExcept m.kind c := by
  have hentities : [c, .single m].flatMap entities = c.entities ++ [m] := by simp [entities]
  have hswapped : [.single m, c].flatMap entities = [m] ++ c.entities := by simp [entities]
  have hnodup : ((c.entities ++ [m]).map Entity.kind).Nodup := by
    rw [List.map_append, List.nodup_append]
    refine ⟨h.nodup_kinds, List.nodup_singleton _, fun kind hmem kind' hm heq => hkind ?_⟩
    rwa [← List.mem_singleton.1 hm, ← heq]
  obtain ⟨d, hd⟩ : ∃ d, combine [c, .single m] = .ok d :=
    exists_combine_eq_ok (hentities ▸ List.append_ne_nil_of_right_ne_nil _ (List.cons_ne_nil m []))
      (hentities ▸ hnodup)
  obtain ⟨hordered, hperm⟩ := combine_eq_ok_iff.1 hd
  rw [hentities] at hperm
  refine ⟨d, hd, combine_eq_ok_iff.2 ⟨hordered, ?_⟩, ?_, fun other hother => ?_⟩
  · rw [hswapped]
    exact hperm.trans List.perm_append_comm
  · cases d with
    | single e =>
      -- the context would have no entity
      have hnil : c.entities = [] := by simpa [entities] using hperm.length_eq
      exact absurd hnil h.entities_ne_nil
    | multi members => rfl
  · refine Option.ext fun e => ?_
    rw [hordered.entity?_eq_some_iff, h.entity?_eq_some_iff, hperm.mem_iff, List.mem_append,
      List.mem_singleton]
    constructor
    · rintro ⟨hmem | rfl, rfl⟩
      · exact ⟨hmem, rfl⟩
      · exact absurd rfl hother
    · rintro ⟨hmem, rfl⟩
      exact ⟨Or.inl hmem, rfl⟩

/-- **An entity of a kind that nothing mentions changes nothing.**  Put it together with a context
that has no entity of the kind: the context has several entities then, and for every store and
provider, every flag that overlooks the kind, as all flags and segments do that it reaches, is
evaluated as it was for the context alone. -/
theorem evaluate_combine (h : c.Obtainable) (hkind : m.kind ∉ c.kinds) :
    ∃ d, combine [c, .single m] = .ok d ∧ combine [.single m, c] = .ok d ∧ d.isMulti = true ∧
      ∀ (store : Store) (provider : Option Provider) (f : Flag),
        (∀ g, store.data.ReachesFlag f g → g.Overlooks m.kind) →
        (∀ s, store.data.ReachesSegment f s → s.Overlooks m.kind) →
          evaluate ⟨store, provider, d⟩ f = evaluate ⟨store, provider, c⟩ f := by
  obtain ⟨d, hd, hswapped, hmulti, hagrees⟩ := exists_combine h.ordered hkind
  refine ⟨d, hd, hswapped, hmulti, fun store provider f hflags hsegments => ?_⟩
  exact Environment.evaluate_withContext (fun g hg => hagrees.flag (hflags g hg))
    fun s hs => hagrees.segment (hsegments s hs)

end Context

/-- A flag for users with a plan. -/
def planned : Flag :=
  { Flag.requiring "planned" [] with
    contextTargets := [⟨.user, ["v"], 0⟩]
    rules := [⟨"", [⟨.user, .ofName "plan", false, .isIn, [.string "pro"]⟩], .fixed 0, false⟩] }

/-- A flag that requires it and asks for a segment. -/
def plannedPage : Flag := (Flag.requiring "page" ["planned"]).forSegments ["staff"]

/-- A store with the flag and the segment that are asked for. -/
def plannedStore : Store := .ofDataset (.ofItems [planned] [.naming "staff" ["u"] []])

theorem planned_overlooks : planned.Overlooks Context.device.kind where
  clauses := by
    simp only [planned, List.forall_mem_singleton]
    exact fun _ => by decide
  targets := by decide
  outcomes := List.forall_mem_singleton.2 trivial
  fallthrough := trivial

theorem plannedPage_overlooks : plannedPage.Overlooks Context.device.kind where
  clauses := by
    simp only [plannedPage, Flag.forSegments, List.forall_mem_singleton]
    exact fun hop => absurd rfl hop
  targets := by decide
  outcomes := List.forall_mem_singleton.2 trivial
  fallthrough := trivial

theorem staff_overlooks : (Segment.naming "staff" ["u"] []).Overlooks Context.device.kind where
  clauses := by
    simp only [Segment.naming, List.forall_mem_singleton]
    exact fun hop => absurd rfl hop
  weights := by decide
  targets := by decide
  users := by decide
  unbounded := by decide

/-- The flag cannot tell whether the user has a device. -/
theorem Context.evaluate_combine_device :
    ∃ d, combine [.single subscriber, .single device] = .ok d ∧ d.isMulti = true ∧
      evaluate ⟨plannedStore, none, d⟩ plannedPage =
        evaluate ⟨plannedStore, none, .single subscriber⟩ plannedPage := by
  obtain ⟨d, hd, -, hmulti, hevaluate⟩ := evaluate_combine (m := device) obtainable_subscriber
    (by decide)
  refine ⟨d, hd, hmulti, hevaluate plannedStore none plannedPage (fun g hg => ?_) fun s hs => ?_⟩
  · rcases hg.eq_or_exists with rfl | ⟨key, hkey⟩
    · exact plannedPage_overlooks
    · have hmem := SortedMap.mem_of_find?_ofList (Dataset.find?_of_flag? hkey)
      cases List.mem_singleton.1 hmem
      exact planned_overlooks
  · obtain ⟨key, hkey⟩ := hs.exists_segment?
    have hmem := SortedMap.mem_of_find?_ofList (Dataset.find?_of_segment? hkey)
    cases List.mem_singleton.1 hmem
    exact staff_overlooks

end FeatureFlags
