import FeatureFlags.Proofs.Nesting.Termination
import Mathlib.Data.Set.Defs

/-!
# What an evaluation depends on

An evaluation asks the store for the prerequisites of its flag and for the segments that its rules
name, then for those of the prerequisites, and so on.  It never asks for a key that it was not led
to in this way, and a deleted item is as good as none.  So two stores give the same result if they
hold the same items under a set of keys that leads nowhere outside of itself, whatever else they
hold and whatever has been deleted from them.

The numbers of levels are the one thing that depends on a whole store, since they are counted by its
items.  Both stores have levels enough, so their evaluations can be compared at numbers of levels
that suffice for both.  There they are equal as functions on scopes, and being equal is a congruence.

## What is here

* `Flag.ReadsWithin`, `Dataset.ClosedOn`: keys that lead to no others.
* `Dataset.AgreesOn`: data sets that hold the same under given keys.
* `Environment.AlikeOn`: the two evaluations, up to `evaluateFlagWithin_eq`.
* `Dataset.withoutDeleted`: a data set without its deleted items.
* `evaluate_eq_of_agreesOn`: the theorem.
-/

set_option autoImplicit false

namespace FeatureFlags

/-! ## Keys that lead to no others -/

/-- The flag asks for no prerequisites and segments but those with the given keys. -/
structure Flag.ReadsWithin (f : Flag) (flags segments : Set String) : Prop where
  /-- The prerequisites are among the keys of flags. -/
  prerequisites : ∀ p ∈ f.prerequisites, p.key ∈ flags
  /-- The segments that its rules name are among the keys of segments. -/
  segments : ∀ key ∈ f.namedSegments, key ∈ segments

namespace Dataset

/-- What is held under the given keys asks for nothing but those keys.  Deleted items do not ask for
anything. -/
structure ClosedOn (d : Dataset) (flags segments : Set String) : Prop where
  /-- Flags ask for flags and segments. -/
  flags : ∀ key ∈ flags, ∀ f, d.flag? key = some f → f.ReadsWithin flags segments
  /-- Segments ask for segments. -/
  segments : ∀ key ∈ segments, ∀ s, d.segment? key = some s → ∀ other ∈ s.namedSegments,
    other ∈ segments

/-- Under each of the given keys both data sets hold the same item, or neither of them holds one
that is not deleted. -/
structure AgreesOn (d e : Dataset) (flags segments : Set String) : Prop where
  /-- They agree on flags. -/
  flags : ∀ key ∈ flags, d.flags.find? key = e.flags.find? key ∨
    d.flag? key = none ∧ e.flag? key = none
  /-- They agree on segments. -/
  segments : ∀ key ∈ segments, d.segments.find? key = e.segments.find? key ∨
    d.segment? key = none ∧ e.segment? key = none

variable {d e : Dataset} {flags segments : Set String} {key : String}

theorem AgreesOn.flag?_eq (h : d.AgreesOn e flags segments) (hkey : key ∈ flags) :
    d.flag? key = e.flag? key := by
  rcases h.flags key hkey with hsame | ⟨hd, he⟩
  · rw [flag?, flag?, hsame]
  · rw [hd, he]

theorem AgreesOn.segment?_eq (h : d.AgreesOn e flags segments) (hkey : key ∈ segments) :
    d.segment? key = e.segment? key := by
  rcases h.segments key hkey with hsame | ⟨hd, he⟩
  · rw [segment?, segment?, hsame]
  · rw [hd, he]

end Dataset

/-! ## Evaluations that are the same -/

/-- Being the same is a congruence, for one context and one provider. -/
theorem Eval.congruence_eq {env₁ env₂ : Environment} (hcontext : env₁.context = env₂.context)
    (hprovider : env₁.provider = env₂.provider) :
    Congruence env₁ env₂ (fun _ => True) fun _ x y => x = y where
  context := hcontext
  pure _ := rfl
  bind hx hf := by rw [hx, funext hf]
  fail _ := rfl
  warn _ := rfl
  note _ := rfl
  consult key reference := by simp only [Environment.consult, hprovider]

namespace Environment

/-- Two environments that differ in their stores alone, and these hold the same under keys that lead
to no others. -/
structure AlikeOn (env₁ env₂ : Environment) (flags segments : Set String) : Prop where
  /-- The context is the same. -/
  context : env₁.context = env₂.context
  /-- The provider is the same. -/
  provider : env₁.provider = env₂.provider
  /-- The first store does not fail. -/
  neverFails₁ : env₁.store.NeverFails
  /-- The second store does not fail. -/
  neverFails₂ : env₂.store.NeverFails
  /-- They hold the same under the keys. -/
  agrees : env₁.store.data.AgreesOn env₂.store.data flags segments
  /-- The keys lead to no others. -/
  closed : env₁.store.data.ClosedOn flags segments

namespace AlikeOn

variable {env₁ env₂ : Environment} {flags segments : Set String}
  (h : env₁.AlikeOn env₂ flags segments)

include h

theorem congruence : Eval.Congruence env₁ env₂ (fun _ => True) fun _ x y => x = y :=
  Eval.congruence_eq h.context h.provider

theorem enterSegment_eq {decide₁ decide₂ : Segment → Eval Bool} {key : String}
    (hkey : key ∈ segments)
    (hdecide : ∀ s, env₁.store.data.segment? key = some s → decide₁ s = decide₂ s) :
    env₁.enterSegment decide₁ key = env₂.enterSegment decide₂ key := by
  have hfind : env₁.findSegment (fun s => Eval.withSegment key (decide₁ s)) key =
      env₂.findSegment (fun s => Eval.withSegment key (decide₂ s)) key :=
    h.congruence.findSegment ((h.neverFails₁.segments key).trans (h.neverFails₂.segments key).symm)
      (h.agrees.segment?_eq hkey) (fun _ _ => trivial) fun s hs => by rw [hdecide s hs]
  rw [enterSegment, enterSegment, hfind]

theorem inSegment_eq {depth : Nat} {key : String} (hkey : key ∈ segments) :
    env₁.inSegment depth key = env₂.inSegment depth key := by
  induction depth generalizing key with
  | zero => exact h.enterSegment_eq hkey fun _ _ => rfl
  | succ depth ih =>
    refine h.enterSegment_eq hkey fun s hs => ?_
    exact h.congruence.segment (fun _ _ => trivial) fun other hother =>
      ih (h.closed.segments key hkey s hs other hother)

theorem enterPrerequisite_eq {evaluate₁ evaluate₂ : Flag → Eval (Detail FlagValue)}
    {parent : String} {p : Prerequisite} (hkey : p.key ∈ flags)
    (hevaluate : ∀ g, env₁.store.data.flag? p.key = some g → evaluate₁ g = evaluate₂ g) :
    env₁.enterPrerequisite evaluate₁ parent p = env₂.enterPrerequisite evaluate₂ parent p := by
  have hfind : env₁.findPrerequisite evaluate₁ parent p =
      env₂.findPrerequisite evaluate₂ parent p :=
    h.congruence.findPrerequisite
      ((h.neverFails₁.flags p.key).trans (h.neverFails₂.flags p.key).symm)
      (h.agrees.flag?_eq hkey) (fun _ _ => trivial) trivial (fun _ _ => rfl) hevaluate
  rw [enterPrerequisite, enterPrerequisite, hfind]

/-- **With the same numbers of levels, evaluations do the same** from any scope. -/
theorem evaluateFlagWithin_eq {m n : Nat} {f : Flag} (hf : f.ReadsWithin flags segments) :
    env₁.evaluateFlagWithin m n f = env₂.evaluateFlagWithin m n f := by
  induction n generalizing f with
  | zero => rfl
  | succ n ih =>
    refine h.congruence.flag (fun _ _ => trivial) (fun _ => ?_) fun key hkey =>
      h.inSegment_eq (hf.segments key hkey)
    rw [failedPrerequisite?, failedPrerequisite?]
    refine congrArg (Eval.withFlag f.key) (h.congruence.inTurn fun p hp => ?_)
    have hkey := hf.prerequisites p hp
    exact h.enterPrerequisite_eq hkey fun g hg => ih (h.closed.flags p.key hkey g hg)

/-- So do whole evaluations, since both stores have levels enough. -/
theorem evaluate_eq (hkeys₁ : env₁.store.data.FlagsUnderOwnKeys)
    (hkeys₂ : env₂.store.data.FlagsUnderOwnKeys) {f : Flag} (hf : f.ReadsWithin flags segments) :
    evaluate env₁ f = evaluate env₂ f := by
  let m := max env₁.store.data.segments.size env₂.store.data.segments.size
  let n := max env₁.store.data.flags.size env₂.store.data.flags.size + 1
  have hrun₁ : env₁.run f = env₁.evaluateFlagWithin m n f .empty :=
    (evaluateFlagWithin_eq_evaluateFlag hkeys₁ (Nat.le_max_left _ _)
      (Nat.lt_succ_of_le (Nat.le_max_left _ _)) env₁.size_le_flagDepth f .empty).symm
  have hrun₂ : env₂.run f = env₂.evaluateFlagWithin m n f .empty :=
    (evaluateFlagWithin_eq_evaluateFlag hkeys₂ (Nat.le_max_right _ _)
      (Nat.lt_succ_of_le (Nat.le_max_right _ _)) env₂.size_le_flagDepth f .empty).symm
  rw [evaluate, evaluate, hrun₁, hrun₂, h.evaluateFlagWithin_eq hf]

end AlikeOn

end Environment

/-! ## Deleted items -/

namespace Dataset

/-- The data set without its deleted items. -/
def withoutDeleted (d : Dataset) : Dataset :=
  ⟨d.flags.filter (!·.deleted), d.segments.filter (!·.deleted)⟩

variable (d : Dataset)

@[simp] theorem flag?_withoutDeleted (key : String) : d.withoutDeleted.flag? key = d.flag? key := by
  simp [withoutDeleted, flag?, Option.filter_filter]

@[simp] theorem segment?_withoutDeleted (key : String) :
    d.withoutDeleted.segment? key = d.segment? key := by
  simp [withoutDeleted, segment?, Option.filter_filter]

/-- Nothing is missing without them. -/
theorem agreesOn_withoutDeleted (flags segments : Set String) :
    d.AgreesOn d.withoutDeleted flags segments where
  flags key _ := by
    cases hflag : d.flag? key with
    | none => exact Or.inr ⟨rfl, by rw [flag?_withoutDeleted, hflag]⟩
    | some f =>
      refine Or.inl ?_
      rw [find?_of_flag? hflag, withoutDeleted, SortedMap.find?_filter, ← flag?, hflag]
  segments key _ := by
    cases hsegment : d.segment? key with
    | none => exact Or.inr ⟨rfl, by rw [segment?_withoutDeleted, hsegment]⟩
    | some s =>
      refine Or.inl ?_
      rw [find?_of_segment? hsegment, withoutDeleted, SortedMap.find?_filter, ← segment?, hsegment]

variable {d}

theorem FlagsUnderOwnKeys.withoutDeleted (h : d.FlagsUnderOwnKeys) :
    d.withoutDeleted.FlagsUnderOwnKeys := by
  intro key f hf
  rw [Dataset.withoutDeleted, SortedMap.find?_filter] at hf
  exact h key f (Option.filter_eq_some_iff.1 hf).1

end Dataset

/-! ## Whole evaluations -/

/-- **An evaluation reads only what its flag leads to.**  Take keys of flags and of segments that
hold all that the flag asks for and lead to no others in a store.  Any other store that agrees with
it on those keys gives the same evaluation: the same detail, records, queries and warnings.  In
particular it makes no difference whether deleted items are returned by the store, hidden by it, or
not there at all. -/
theorem evaluate_eq_of_agreesOn (provider : Option Provider) (context : Context) (f : Flag)
    (flags segments : Set String) (s₁ s₂ : Store) (hfine₁ : s₁.NeverFails)
    (hfine₂ : s₂.NeverFails) (hkeys₁ : s₁.data.FlagsUnderOwnKeys)
    (hkeys₂ : s₂.data.FlagsUnderOwnKeys) (hf : f.ReadsWithin flags segments)
    (hclosed : s₁.data.ClosedOn flags segments)
    (hagrees : s₁.data.AgreesOn s₂.data flags segments) :
    evaluate ⟨s₁, provider, context⟩ f = evaluate ⟨s₂, provider, context⟩ f ∧
    ∀ hidesDeleted,
      evaluate ⟨{ s₁ with hidesDeleted }, provider, context⟩ f =
        evaluate ⟨s₁, provider, context⟩ f ∧
      evaluate ⟨{ s₁ with data := s₁.data.withoutDeleted, hidesDeleted }, provider, context⟩ f =
        evaluate ⟨s₁, provider, context⟩ f := by
  have halike : ∀ s : Store, s.NeverFails → s₁.data.AgreesOn s.data flags segments →
      Environment.AlikeOn ⟨s₁, provider, context⟩ ⟨s, provider, context⟩ flags segments :=
    fun s hfine hagrees => ⟨rfl, rfl, hfine₁, hfine, hagrees, hclosed⟩
  refine ⟨(halike s₂ hfine₂ hagrees).evaluate_eq hkeys₁ hkeys₂ hf, fun hidesDeleted => ⟨?_, ?_⟩⟩
  · have hsame := halike { s₁ with hidesDeleted } ⟨hfine₁.flags, hfine₁.segments⟩
      ⟨fun _ _ => Or.inl rfl, fun _ _ => Or.inl rfl⟩
    exact (hsame.evaluate_eq hkeys₁ hkeys₁ hf).symm
  · have hsame := halike { s₁ with data := s₁.data.withoutDeleted, hidesDeleted }
      ⟨hfine₁.flags, hfine₁.segments⟩ (s₁.data.agreesOn_withoutDeleted flags segments)
    exact (hsame.evaluate_eq hkeys₁ hkeys₁.withoutDeleted hf).symm

/-- A store that returns deleted items, and holds a flag and a segment that nothing leads to. -/
def cluttered : Store where
  data := .ofItems
    [(Flag.requiring "core" []).forSegments ["staff"],
      { Flag.requiring "old" ["spare"] with deleted := true }, .requiring "spare" ["core"]]
    [.naming "staff" ["u"] [], .naming "attic" [] ["staff"]]
  hidesDeleted := false
  flagFailures := fun _ => none
  segmentFailures := fun _ => none

/-- A store with no more than what a flag needs of the other. -/
def tidy : Store :=
  .ofDataset (.ofItems [(Flag.requiring "core" []).forSegments ["staff"]]
    [.naming "staff" ["u"] []])

/-- The flag requires one flag that is there and one that is deleted in one store and missing in the
other. -/
theorem evaluate_eq_of_agreesOn_cluttered :
    let page := (Flag.requiring "page" ["core", "old"]).forSegments ["staff"]
    let flags : Set String := {key | key ∈ ["core", "old"]}
    let segments : Set String := {key | key ∈ ["staff"]}
    let env : Store → Environment := fun s => ⟨s, none, .ofUserKey "u"⟩
    cluttered.NeverFails ∧ tidy.NeverFails ∧ cluttered.data.FlagsUnderOwnKeys ∧
      tidy.data.FlagsUnderOwnKeys ∧ page.ReadsWithin flags segments ∧
      cluttered.data.ClosedOn flags segments ∧ cluttered.data.AgreesOn tidy.data flags segments ∧
      evaluate (env cluttered) page = evaluate (env tidy) page ∧
      evaluate (env { cluttered with hidesDeleted := true }) page = evaluate (env cluttered) page ∧
      (evaluate (env cluttered) page).detail.reason = .prerequisiteFailed "old" := by
  intro page flags segments env
  have hfine₁ : cluttered.NeverFails := ⟨fun _ => rfl, fun _ => rfl⟩
  have hfine₂ : tidy.NeverFails := ⟨fun _ => rfl, fun _ => rfl⟩
  have hkeys₁ : cluttered.data.FlagsUnderOwnKeys := Dataset.flagsUnderOwnKeys_ofItems _ _
  have hkeys₂ : tidy.data.FlagsUnderOwnKeys := Dataset.flagsUnderOwnKeys_ofItems _ _
  have hf : page.ReadsWithin flags segments :=
    ⟨show ∀ p ∈ page.prerequisites, p.key ∈ ["core", "old"] by decide,
      show ∀ key ∈ page.namedSegments, key ∈ ["staff"] by decide⟩
  have hcore : ((Flag.requiring "core" []).forSegments ["staff"]).ReadsWithin flags segments :=
    ⟨fun _ hp => absurd hp List.not_mem_nil, hf.segments⟩
  have hagrees : cluttered.data.AgreesOn tidy.data flags segments := by
    refine ⟨List.forall_mem_cons.2 ⟨Or.inl rfl, ?_⟩, List.forall_mem_singleton.2 (Or.inl rfl)⟩
    exact List.forall_mem_singleton.2 (Or.inr ⟨rfl, rfl⟩)
  have hclosed : cluttered.data.ClosedOn flags segments := by
    refine ⟨List.forall_mem_cons.2 ⟨?_, List.forall_mem_singleton.2 ?_⟩,
      List.forall_mem_singleton.2 ?_⟩
    · rintro g ⟨⟩
      exact hcore
    · rintro g ⟨⟩
    · rintro s ⟨⟩ other hother
      exact absurd hother List.not_mem_nil
  have hsame := evaluate_eq_of_agreesOn none (.ofUserKey "u") page flags segments cluttered tidy
    hfine₁ hfine₂ hkeys₁ hkeys₂ hf hclosed hagrees
  exact ⟨hfine₁, hfine₂, hkeys₁, hkeys₂, hf, hclosed, hagrees, hsame.1, (hsame.2 true).1,
    by decide +kernel⟩

end FeatureFlags
