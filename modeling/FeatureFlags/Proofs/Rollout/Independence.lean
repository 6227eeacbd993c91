import FeatureFlags.Proofs.Decision.Merging
import FeatureFlags.Proofs.Step.Counterpart

/-!
# What a bucket does not depend on

The bucket of an entity is made of a salt and a text, and either can leave something out.  A seed
takes the place of the key and the salt of the flag.  An experiment goes by the key of the entity
alone: it looks neither at the reference that it names, not even to see whether it is valid, nor at
the secondary key.

What a bucket does not depend on can still get into an evaluation by another way.  The salt of a flag
is used for its rollouts only.  The reference of a rollout is checked just where it is followed.
The secondary key is no attribute, so clauses and targets cannot see it, but a rule of a segment with
a weight does; so there must not be one of these where secondary keys are not to matter.

Changes to flags change the records as well, which name them.  So the evaluations are counterparts of
each other, for changed salts and for changed references.  Another secondary key changes no flag, and
the evaluations are equal.

## What is here

* `Flag.SameButSalt`, `Flag.Rebucketed`, `Context.withoutSecondaries`: the changes.
* `Flag.Seeded`, `Flag.Experimental`, `Segment.Unweighted`: where they do not matter.
* `evaluate_independent`: the theorem.
-/

set_option autoImplicit false

namespace FeatureFlags

/-! ## Salts -/

/-- Flags are the same but for their salts. -/
def Flag.SameButSalt (f g : Flag) : Prop := g = { f with salt := g.salt }

/-- The outcomes of a flag: those of its rules and the fallthrough. -/
def Flag.outcomes (f : Flag) : List Outcome := f.rules.map FlagRule.outcome ++ [f.fallthrough]

theorem Flag.outcome_mem_outcomes {f : Flag} {r : FlagRule} (h : r ∈ f.rules) :
    r.outcome ∈ f.outcomes :=
  List.mem_append_left _ (List.mem_map_of_mem h)

theorem Flag.fallthrough_mem_outcomes (f : Flag) : f.fallthrough ∈ f.outcomes :=
  List.mem_append_right _ List.mem_cons_self

/-- All rollouts of a flag carry a seed. -/
def Flag.Seeded (f : Flag) : Prop := ∀ r, .rollout r ∈ f.outcomes → r.seed.isSome = true

/-- With a seed, the salt of the flag makes no difference. -/
theorem Outcome.select_of_seeded {o : Outcome} (h : ∀ r, o = .rollout r → r.seed.isSome = true)
    (key salt salt' : String) (c : Context) : o.select key salt c = o.select key salt' c := by
  cases o with
  | fixed n => rfl
  | malformed data => rfl
  | rollout r =>
    obtain ⟨seed, hseed⟩ := Option.isSome_iff_exists.1 (h r rfl)
    have hsalt : r.saltText key salt = r.saltText key salt' := by
      rw [Rollout.saltText, Rollout.saltText, hseed, Option.elim_some, Option.elim_some]
    rw [select, select, hsalt]

theorem Flag.SameButSalt.selectsAlike {f g : Flag} (h : f.SameButSalt g) (hseeded : f.Seeded)
    (c : Context) : f.SelectsAlike c g := by
  obtain ⟨salt, rfl⟩ : ∃ salt, g = { f with salt } := ⟨g.salt, h⟩
  have hselect : ∀ o ∈ f.outcomes, f.select o c = ({ f with salt } : Flag).select o c :=
    fun o ho => Outcome.select_of_seeded (fun r hr => hseeded r (hr ▸ ho)) _ _ _ c
  refine ⟨rfl, List.forall₂_same.2 fun r hr => ⟨rfl, rfl, ?_⟩, ?_⟩
  · exact hselect _ (outcome_mem_outcomes hr)
  · exact hselect _ f.fallthrough_mem_outcomes

/-! ## References -/

/-- Outcomes are the same, or the same experiment by another reference. -/
inductive Outcome.Rebucketed : Outcome → Outcome → Prop where
  | same (o : Outcome) : Rebucketed o o
  | experiment {r : Rollout} (h : r.isExperiment = true) (bucketBy : Option Reference) :
      Rebucketed (.rollout r) (.rollout { r with bucketBy })

/-- Rules are the same but for the reference of an experiment. -/
structure FlagRule.Rebucketed (r s : FlagRule) : Prop where
  /-- They differ only in their outcomes. -/
  same : s = { r with outcome := s.outcome }
  /-- These differ only in the reference of an experiment. -/
  outcome : r.outcome.Rebucketed s.outcome

/-- Flags are the same but for references of experiments. -/
structure Flag.Rebucketed (f g : Flag) : Prop where
  /-- They differ only in their outcomes. -/
  same : g = { f with rules := g.rules, fallthrough := g.fallthrough }
  /-- Those of the rules differ only in references of experiments. -/
  rules : List.Forall₂ FlagRule.Rebucketed f.rules g.rules
  /-- So do the fallthroughs. -/
  fallthrough : f.fallthrough.Rebucketed g.fallthrough

/-- An experiment does not look at its reference. -/
theorem Outcome.Rebucketed.select_eq {o p : Outcome} (h : o.Rebucketed p) (key salt : String)
    (c : Context) : o.select key salt c = p.select key salt c := by
  cases h with
  | same => rfl
  | @experiment r h bucketBy =>
    have hentity (e : Entity) (salt : String) :
        e.bucket r.bucketBy salt true = e.bucket bucketBy salt true := by
      rw [Entity.bucket.eq_def, Entity.bucket.eq_def]
    have hbucket (salt : String) : c.bucket r.contextKind r.bucketBy salt true =
        c.bucket r.contextKind bucketBy salt true := by
      rw [Context.bucket, Context.bucket]
      simp only [hentity]
    simp only [select, h, hbucket]
    rfl

theorem Flag.Rebucketed.selectsAlike {f g : Flag} (h : f.Rebucketed g) (c : Context) :
    f.SelectsAlike c g := by
  have hkey : g.key = f.key := by rw [h.same]
  have hsalt : g.salt = f.salt := by rw [h.same]
  have hselect {o p : Outcome} (ho : o.Rebucketed p) : f.select o c = g.select p c := by
    rw [select, select, hkey, hsalt]
    exact ho.select_eq _ _ c
  refine ⟨?_, h.rules.imp fun r s hrs => ⟨?_, ?_, hselect hrs.outcome⟩, hselect h.fallthrough⟩
  · rw [hsalt]
    exact h.same
  · rw [hrs.same]
  · rw [hrs.same]

/-! ## Secondary keys -/

/-- An entity without its secondary key. -/
def Entity.withoutSecondary (e : Entity) : Entity := { e with secondary := none }

namespace Context

/-- A context without the secondary keys of its entities. -/
def withoutSecondaries : Context → Context
  | single e => single e.withoutSecondary
  | multi members => multi (members.map Entity.withoutSecondary)

variable (c : Context)

theorem entities_withoutSecondaries :
    c.withoutSecondaries.entities = c.entities.map Entity.withoutSecondary := by
  cases c <;> rfl

theorem kinds_withoutSecondaries : c.withoutSecondaries.kinds = c.kinds := by
  rw [kinds, kinds, entities_withoutSecondaries, List.map_map]
  rfl

theorem entity?_withoutSecondaries (kind : Kind) :
    c.withoutSecondaries.entity? kind = (c.entity? kind).map Entity.withoutSecondary := by
  rw [entity?, entity?, entities_withoutSecondaries, List.find?_map]
  rfl

end Context

/-- All rollouts of a flag are experiments. -/
def Flag.Experimental (f : Flag) : Prop := ∀ r, .rollout r ∈ f.outcomes → r.isExperiment = true

/-- No rule of a segment has a weight that counts. -/
def Segment.Unweighted (s : Segment) : Prop :=
  ∀ r ∈ s.rules, ∀ weight, r.weight = some weight → (Binary.ofNat 0).atMost weight = false

section

variable (c : Context)

/-- The secondary key is no attribute. -/
theorem Clause.treatsAlike_withoutSecondaries (clause : Clause) :
    clause.TreatsAlike c c.withoutSecondaries := by
  intro _
  have hsubjects : clause.subjects c = clause.subjects c.withoutSecondaries := by
    rw [subjects, subjects, c.kinds_withoutSecondaries, c.entity?_withoutSecondaries]
    cases c.entity? clause.contextKind <;> rfl
  rw [judge, judge, hsubjects]

/-- An experiment does not look at the secondary key. -/
theorem Outcome.select_withoutSecondaries {o : Outcome}
    (h : ∀ r, o = .rollout r → r.isExperiment = true) (key salt : String) :
    o.select key salt c = o.select key salt c.withoutSecondaries := by
  cases o with
  | fixed n => rfl
  | malformed data => rfl
  | rollout r =>
    have hbucket (salt : String) : c.bucket r.contextKind r.bucketBy salt true =
        c.withoutSecondaries.bucket r.contextKind r.bucketBy salt true := by
      rw [Context.bucket, Context.bucket, c.entity?_withoutSecondaries]
      cases c.entity? r.contextKind <;> rfl
    rw [select, select, h r rfl, hbucket]

theorem Flag.Experimental.treatsAlike {f : Flag} (h : f.Experimental) :
    f.TreatsAlike c c.withoutSecondaries where
  targets := by
    refine targetVariation?_congr fun t _ => Target.lists_congr ?_
    rw [c.entity?_withoutSecondaries]
    cases c.entity? t.contextKind <;> rfl
  clauses _ _ clause _ := clause.treatsAlike_withoutSecondaries c
  outcomes _ hr :=
    Outcome.select_withoutSecondaries c (fun r ho => h r (ho ▸ outcome_mem_outcomes hr)) _ _
  fallthrough :=
    Outcome.select_withoutSecondaries c (fun r ho => h r (ho ▸ f.fallthrough_mem_outcomes)) _ _

theorem Segment.Unweighted.treatsAlike {s : Segment} (h : s.Unweighted) :
    s.TreatsAlike c c.withoutSecondaries where
  clauses _ _ clause _ := clause.treatsAlike_withoutSecondaries c
  weights r hr := by
    have hall : ∀ d, r.includes s.key s.salt d = .ok true := by
      intro d
      rw [SegmentRule.includes]
      cases hweight : r.weight with
      | none => rfl
      | some weight =>
        simp only [h r hr weight hweight]
        rfl
    rw [hall, hall]
  lists _ := by
    have hcontains : (fun t : SegmentTarget => t.contains c) =
        fun t => t.contains c.withoutSecondaries := by
      funext t
      rw [SegmentTarget.contains, SegmentTarget.contains, c.entity?_withoutSecondaries]
      cases c.entity? t.contextKind <;> rfl
    have hlists : ∀ users targets,
        listsContext users targets c = listsContext users targets c.withoutSecondaries := by
      intro users targets
      rw [listsContext, listsContext, hcontains, congrFun hcontains]
    rw [listing?, listing?, hlists, hlists]
  keys _ := by
    rw [c.entity?_withoutSecondaries]
    cases c.entity? s.unboundedContextKind <;> rfl

end

theorem evaluate_withoutSecondaries (env : Environment) (f : Flag)
    (hflags : ∀ g, env.store.data.ReachesFlag f g → g.Experimental)
    (hsegments : ∀ s, env.store.data.ReachesSegment f s → s.Unweighted) :
    evaluate env f = evaluate (env.withContext env.context.withoutSecondaries) f :=
  Environment.evaluate_withContext (fun g hg => (hflags g hg).treatsAlike env.context)
    fun s hs => (hsegments s hs).treatsAlike env.context

/-! ## Whole evaluations -/

/-- **What a bucket does not depend on does not matter.**

Where all rollouts that can be reached carry a seed, the flags may have any salts.  An experiment may
go by any reference, even an invalid one, or by none.  Both give the same details, and records that
tell the same of the changed flags.  Where all rollouts that can be reached are experiments and no
segment has a weight, contexts that differ in secondary keys alone give the same evaluation: the same
detail with its status, and the same records. -/
theorem evaluate_independent (env : Environment) (f : Flag) :
    (∀ (t : Store) (g : Flag), env.store.Counterpart Flag.SameButSalt t → f.SameButSalt g →
      (∀ h, env.store.data.ReachesFlag f h → h.Seeded) →
      (evaluate env f).Counterpart Flag.SameButSalt (evaluate (env.withStore t) g)) ∧
    (∀ (t : Store) (g : Flag), env.store.Counterpart Flag.Rebucketed t → f.Rebucketed g →
      (evaluate env f).Counterpart Flag.Rebucketed (evaluate (env.withStore t) g)) ∧
    ∀ d : Context, env.context.withoutSecondaries = d.withoutSecondaries →
      (∀ g, env.store.data.ReachesFlag f g → g.Experimental) →
      (∀ s, env.store.data.ReachesSegment f s → s.Unweighted) →
      evaluate env f = evaluate (env.withContext d) f := by
  refine ⟨fun t g hstore hfg hseeded => ?_, fun t g hstore hfg => ?_,
    fun d hd hflags hsegments => ?_⟩
  · refine Environment.evaluate_counterpart hstore (fun g h hgh => ?_) (fun g h hg hgh => ?_) hfg
    · rw [hgh]
    · exact hgh.selectsAlike (hseeded g hg) env.context
  · refine Environment.evaluate_counterpart hstore (fun g h hgh => ?_) (fun g h _ hgh => ?_) hfg
    · rw [hgh.same]
    · exact hgh.selectsAlike env.context
  · rw [evaluate_withoutSecondaries env f hflags hsegments, hd]
    exact (evaluate_withoutSecondaries (env.withContext d) f hflags hsegments).symm

/-- A flag for an experiment with a seed. -/
def seededTrial (salt : String) (bucketBy : Option Reference) : Flag :=
  { (Flag.requiring "trial" []).serving (.rollout ⟨true, .user, bucketBy,
      [⟨0, .ofNat 50000, false⟩, ⟨1, .ofNat 50000, false⟩], some 7⟩) with salt }

/-- A store with that flag. -/
def trialStore (salt : String) (bucketBy : Option Reference) : Store :=
  .ofDataset (.ofItems [seededTrial salt bucketBy] [])

section

variable {P : Flag → Flag → Prop} {salt salt' : String} {bucketBy bucketBy' : Option Reference}
  {top f : Flag}

theorem trialStore_counterpart (h : P (seededTrial salt bucketBy) (seededTrial salt' bucketBy')) :
    (trialStore salt bucketBy).Counterpart P (trialStore salt' bucketBy') where
  same := rfl
  flags key := by
    have hfind (salt : String) (bucketBy : Option Reference) :
        (trialStore salt bucketBy).data.flags.find? key =
          if "trial" = key then some (seededTrial salt bucketBy) else none := rfl
    rw [hfind, hfind]
    split
    · exact .some h
    · exact .none

theorem eq_of_reachesFlag_trialStore (h : (trialStore salt bucketBy).data.ReachesFlag top f) :
    f = top ∨ f = seededTrial salt bucketBy := by
  refine h.eq_or_exists.imp_right fun ⟨key, hkey⟩ => ?_
  have hmem := SortedMap.mem_of_find?_ofList (Dataset.find?_of_flag? hkey)
  cases List.mem_singleton.1 hmem
  rfl

theorem not_reachesSegment_trialStore {s : Segment} :
    ¬ (trialStore salt bucketBy).data.ReachesSegment top s := by
  intro h
  obtain ⟨key, hkey⟩ := h.exists_segment?
  cases hkey

end

/-- Neither the salt nor an invalid reference nor the secondary key makes a difference to a flag that
requires the experiment. -/
theorem evaluate_independent_trial :
    let env (user : Context) : Environment := ⟨trialStore "" none, none, user⟩
    let second : Context := .single ⟨.user, "u", none, false, some "second", .empty⟩
    let page := Flag.requiring "page" ["trial"]
    (⟨"/"⟩ : Reference).isValid = false ∧
      (evaluate (env second) page).Counterpart Flag.SameButSalt
        (evaluate ⟨trialStore "pepper" none, none, second⟩ { page with salt := "mint" }) ∧
      (evaluate (env second) page).Counterpart Flag.Rebucketed
        (evaluate ⟨trialStore "" (some ⟨"/"⟩), none, second⟩ page) ∧
      evaluate (env second) page = evaluate (env (.ofUserKey "u")) page := by
  intro env second page
  obtain ⟨hsalts, hreferences, hsecondaries⟩ := evaluate_independent (env second) page
  have hpage : ∀ r, .rollout r ∉ page.outcomes := by
    intro r hr
    cases List.mem_singleton.1 hr
  refine ⟨by decide +kernel, ?_, ?_, ?_⟩
  · refine hsalts (trialStore "pepper" none) _ (trialStore_counterpart rfl) rfl fun h hh r hr => ?_
    rcases eq_of_reachesFlag_trialStore hh with rfl | rfl
    · exact absurd hr (hpage r)
    · cases List.mem_singleton.1 hr
      rfl
  · refine hreferences (trialStore "" (some ⟨"/"⟩)) _ (trialStore_counterpart ?_) ?_
    · exact ⟨rfl, .nil, .experiment rfl _⟩
    · exact ⟨rfl, .nil, .same _⟩
  · refine hsecondaries (.ofUserKey "u") rfl (fun g hg r hr => ?_) fun s hs => ?_
    · rcases eq_of_reachesFlag_trialStore hg with rfl | rfl
      · exact absurd hr (hpage r)
      · cases List.mem_singleton.1 hr
        rfl
    · exact absurd hs not_reachesSegment_trialStore

end FeatureFlags
