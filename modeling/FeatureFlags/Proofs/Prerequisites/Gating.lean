import FeatureFlags.Proofs.Detail.Answer
import FeatureFlags.Proofs.Nesting.Graph
import FeatureFlags.Proofs.Nesting.Depth
import FeatureFlags.Proofs.Step.Isolation

/-!
# What prerequisites decide and leave behind

A flag that is on looks at its prerequisites one after the other, up to the first that is missing.
Whether a prerequisite fails is a matter of its flag alone: it is missing, off, or serves another
variation when it is evaluated on its own.  This is told without the check that the evaluation makes
in the middle of everything else, and the check comes to the same.  The first that fails, if any, is
the reason for the off variation, and the others are evaluated all the same.

Each prerequisite leaves behind the records of its own evaluation and then one for itself.  The only
trace of what came before it is in the statuses, which are those known by then.

All of this supposes that the evaluation ends with a detail.

## What is here

* `Environment.Fails`, `IsFirstFailing`: prerequisites that fail, and the first that does.
* `Environment.isFailing_eq_not_isSatisfied`: the check that is made tells just these apart.
* `Environment.presentFlags`, `recordsOf`, `statusOf`: what prerequisites leave behind.
* `checkInTurn_eq_ok`: prerequisites one after the other, in any scope.
* `evaluate_gated`: the theorem, for the result of an evaluation.
-/

set_option autoImplicit false

namespace FeatureFlags

open BigSegmentStatus (join)

/-! ## Prerequisites by their own evaluations -/

/-- A prerequisite is settled only if its detail is no error. -/
theorem Prerequisite.settle_eq_ok {p : Prerequisite} {parent : String} {g : Flag}
    {detail : Detail FlagValue} {found : Option Bool} {s s' : Scope}
    (h : p.settle parent g detail s = (.ok found, s')) :
    found = some (p.isSatisfied g detail) ∧
      s' = { s with
        records := s.records ++ [⟨g, parent, { detail with status := s.status }⟩] } := by
  rw [settle] at h
  obtain ⟨_, s₁, hrecord, h⟩ := Eval.bind_eq_ok.1 h
  cases hrecord
  cases hreason : detail.reason <;> rw [hreason] at h <;> cases h <;> exact ⟨rfl, rfl⟩

namespace Environment

variable (env : Environment)

/-- A prerequisite fails if its flag is missing or off, or serves another variation when it is
evaluated on its own. -/
inductive Fails (p : Prerequisite) : Prop where
  | missing (h : env.store.data.flag? p.key = none) : Fails p
  | off {g : Flag} (hg : env.store.data.flag? p.key = some g) (hoff : g.on = false) : Fails p
  | serves {g : Flag} (hg : env.store.data.flag? p.key = some g)
      (hother : (evaluate env g).detail.index ≠ some p.variation) : Fails p

/-- The prerequisite fails, and none before it in the list does. -/
def IsFirstFailing (ps : List Prerequisite) (p : Prerequisite) : Prop :=
  env.Fails p ∧ ∃ before after, ps = before ++ p :: after ∧ ∀ q ∈ before, ¬ env.Fails q

/-- Whether a prerequisite fails. -/
def isFailing (p : Prerequisite) : Bool :=
  match env.store.data.flag? p.key with
  | none => true
  | some g => !g.on || (evaluate env g).detail.index != some p.variation

/-- The flags of the prerequisites before the first that is missing. -/
def presentFlags : List Prerequisite → List Flag
  | [] => []
  | p :: ps =>
    match env.store.data.flag? p.key with
    | none => []
    | some g => g :: presentFlags ps

/-- The records of a prerequisite's own evaluation, and then that of the prerequisite itself. -/
def recordsAbout (parent : String) (g : Flag) : List PrerequisiteRecord :=
  (evaluate env g).records ++ [⟨g, parent, (evaluate env g).detail⟩]

/-- The records of prerequisites one after the other, with the status known before each of them. -/
def recordsOf (parent : String) : Option BigSegmentStatus → List Flag → List PrerequisiteRecord
  | _, [] => []
  | status, g :: gs =>
    (env.recordsAbout parent g).map (·.after status) ++
      recordsOf parent (join status (evaluate env g).detail.status) gs

/-- The status after the evaluations of flags, with one known before. -/
def statusOf (status : Option BigSegmentStatus) (gs : List Flag) : Option BigSegmentStatus :=
  gs.foldl (fun status g => join status (evaluate env g).detail.status) status

variable {env} {p : Prerequisite} {ps : List Prerequisite}

theorem isFailing_iff : env.isFailing p = true ↔ env.Fails p := by
  rw [isFailing]
  cases hg : env.store.data.flag? p.key with
  | none => exact ⟨fun _ => .missing hg, fun _ => rfl⟩
  | some g =>
    simp only [Bool.or_eq_true, Bool.not_eq_true', bne_iff_ne]
    constructor
    · rintro (hoff | hother)
      · exact .off hg hoff
      · exact .serves hg hother
    · intro h
      cases h with
      | missing hnone => cases hg.symm.trans hnone
      | off hg' hoff =>
        cases hg.symm.trans hg'
        exact Or.inl hoff
      | serves hg' hother =>
        cases hg.symm.trans hg'
        exact Or.inr hother

instance (p : Prerequisite) : Decidable (env.Fails p) := decidable_of_iff _ isFailing_iff

/-- **The check that is made of a prerequisite** finds it satisfied just if it does not fail. -/
theorem isFailing_eq_not_isSatisfied {g : Flag} (hg : env.store.data.flag? p.key = some g) :
    env.isFailing p = !p.isSatisfied g (evaluate env g).detail := by
  rw [isFailing, hg, Prerequisite.isSatisfied, Bool.not_and]
  rfl

theorem find?_isFailing_eq_some_iff : ps.find? env.isFailing = some p ↔ env.IsFirstFailing ps p := by
  simp only [List.find?_eq_some_iff_append, IsFirstFailing, isFailing_iff, Bool.not_eq_true',
    ← Bool.not_eq_true]

theorem find?_isFailing_eq_none_iff : ps.find? env.isFailing = none ↔ ∀ p ∈ ps, ¬ env.Fails p := by
  simp only [List.find?_eq_none, isFailing_iff]

variable {depth : Nat} {parent : String} {s s' : Scope}

/-- One prerequisite, in the middle of an evaluation. -/
theorem enterPrerequisite_eq_ok (hs : s.Honest env) (hdepth : depth ≤ env.flagDepth)
    {found : Option Bool}
    (h : env.enterPrerequisite (env.evaluateFlag depth) parent p s = (.ok found, s')) :
    (env.store.data.flag? p.key = none ∧ found = none ∧
      s'.records = s.records ∧ s'.status = s.status ∧ s'.Honest env) ∨
    ∃ g, env.store.data.flag? p.key = some g ∧
      found = some (p.isSatisfied g (evaluate env g).detail) ∧
      s'.records = s.records ++ (env.recordsAbout parent g).map (·.after s.status) ∧
      s'.status = join s.status (evaluate env g).detail.status ∧ s'.Honest env := by
  obtain ⟨chain, s₀, hread, h⟩ := Eval.bind_eq_ok.1 h
  cases hread
  split at h
  · cases h
  · rw [findPrerequisite, bind_flag?] at h
    obtain ⟨_, s₁, hnote, h⟩ := Eval.bind_eq_ok.1 h
    cases hnote
    cases hfail : env.store.flagFailures p.key with
    | some e =>
      rw [hfail] at h
      cases h
    | none =>
      rw [hfail] at h
      cases hg : env.store.data.flag? p.key with
      | none =>
        rw [hg] at h
        cases h
        exact Or.inl ⟨rfl, rfl, rfl, rfl, hs⟩
      | some g =>
        rw [hg] at h
        obtain ⟨detail, s₂, hevaluate, h⟩ := Eval.bind_eq_ok.1 h
        obtain ⟨rfl, rfl⟩ := Prerequisite.settle_eq_ok h
        -- the lookup is part of what the evaluation of the prerequisite begins with
        have hlooked : Scope.Honest env { s with events := s.events ++ [.flagLookup p.key] } := hs
        obtain ⟨t, ht, hgains⟩ := evaluateFlag_isolates hlooked hdepth g _ _
          (Scope.Gains.self env _) detail s₂ hevaluate
        have hown : evaluate env g = .ofRun g (.ok detail, t) := by rw [evaluate, run, ht]
        refine Or.inr ⟨g, rfl, ?_, ?_, ?_, hgains.honest_of_honest hlooked⟩
        · rw [hown]
          rfl
        · have hrecords := hgains.records
          have hstatus := hgains.status
          simp only at hrecords hstatus
          rw [recordsAbout, hown, List.map_append, ← List.append_assoc]
          simp only [Evaluation.ofRun]
          rw [← hrecords, hstatus]
          rfl
        · rw [hown]
          exact hgains.status

end Environment

/-- **Prerequisites one after the other.**  The first that fails is found, unless one had failed
before, and those that are present leave their records behind. -/
theorem checkInTurn_eq_ok {env : Environment} {depth : Nat} (hdepth : depth ≤ env.flagDepth)
    {parent : String} {ps : List Prerequisite} {failed failed' : Option String} {s s' : Scope}
    (hs : s.Honest env)
    (h : checkInTurn (env.enterPrerequisite (env.evaluateFlag depth) parent) failed ps s =
      (.ok failed', s')) :
    failed' = failed.or ((ps.find? env.isFailing).map Prerequisite.key) ∧
      s'.records = s.records ++ env.recordsOf parent s.status (env.presentFlags ps) ∧
      s'.status = env.statusOf s.status (env.presentFlags ps) ∧ s'.Honest env := by
  induction ps generalizing failed s with
  | nil =>
    cases h
    refine ⟨?_, ?_, rfl, hs⟩
    · rw [List.find?_nil, Option.map_none, Option.or_none]
    · rw [Environment.presentFlags, Environment.recordsOf, List.append_nil]
  | cons p ps ih =>
    obtain ⟨found, s₁, hp, hrest⟩ := Eval.bind_eq_ok.1 h
    rw [Environment.presentFlags]
    rcases Environment.enterPrerequisite_eq_ok hs hdepth hp with
      ⟨hg, rfl, hrecords, hstatus, hhonest⟩ | ⟨g, hg, rfl, hrecords, hstatus, hhonest⟩
    · cases hrest
      have hfails : env.isFailing p = true := Environment.isFailing_iff.2 (.missing hg)
      rw [hg, List.find?_cons_of_pos hfails]
      refine ⟨?_, ?_, hstatus, hhonest⟩
      · cases failed <;> rfl
      · rw [Environment.recordsOf, List.append_nil, hrecords]
    · have hfails := Environment.isFailing_eq_not_isSatisfied hg
      rw [hg, Environment.recordsOf, Environment.statusOf, List.foldl_cons, ← hstatus,
        ← List.append_assoc, ← hrecords]
      cases hsatisfied : p.isSatisfied g (evaluate env g).detail with
      | true =>
        rw [hsatisfied] at hrest hfails
        rw [List.find?_cons_of_neg (by simp [hfails])]
        exact ih hhonest hrest
      | false =>
        rw [hsatisfied] at hrest hfails
        rw [List.find?_cons_of_pos hfails]
        obtain ⟨hfailed, hrest⟩ := ih hhonest hrest
        refine ⟨?_, hrest⟩
        rw [hfailed]
        cases failed <;> rfl

/-! ## Whole evaluations -/

namespace Flag

/-- The reason of the off variation, if it is in range. -/
theorem reason_offValue (f : Flag) (reason : Reason) :
    (f.offValue reason).reason =
      if f.offVariation.all fun index => index < f.variations.length then reason
      else .error .malformedFlag := by
  rw [offValue]
  cases f.offVariation with
  | none => rfl
  | some index =>
    simp only [variation, Option.all_some, decide_eq_true_eq]
    by_cases hindex : index < f.variations.length
    · rw [if_pos hindex, List.getElem?_eq_getElem hindex]
      rfl
    · rw [if_neg hindex, List.getElem?_eq_none (Nat.le_of_not_lt hindex)]
      rfl

/-- The off variation is served for a failed prerequisite just if it is in range. -/
theorem reason_offValue_eq_iff (f : Flag) (key key' : String) :
    (f.offValue (.prerequisiteFailed key)).reason = .prerequisiteFailed key' ↔
      (f.offVariation.all fun index => index < f.variations.length) = true ∧ key = key' := by
  rw [reason_offValue]
  split
  · next hrange => simp [hrange]
  · next hrange => simp [hrange]

/-- A decision is not about prerequisites. -/
theorem Decision.reason_ne {f : Flag} {detail : Detail FlagValue} (h : f.Decision detail)
    (key : String) : detail.reason ≠ .prerequisiteFailed key := by
  cases h <;> rw [variation] <;> split <;> exact fun h => by cases h

end Flag

namespace Environment

variable {env : Environment} {f : Flag} {detail : Detail FlagValue} {scope : Scope}

/-- The check of the prerequisites of a flag, with the levels that the evaluation has left for it. -/
def checkPrerequisites (env : Environment) (f : Flag) : Eval (Option String) :=
  env.failedPrerequisite? (env.evaluateFlag (env.flagDepth - 1)) f

/-- A flag that is on looks at its prerequisites first. -/
theorem run_eq (env : Environment) (hon : f.on = true) :
    env.run f = (env.checkPrerequisites f >>= fun failed =>
      match failed with
      | some key => pure (f.offValue (.prerequisiteFailed key))
      | none => f.decide env (env.inSegment env.segmentDepth)) .empty := by
  obtain ⟨depth, hdepth⟩ : ∃ depth, env.flagDepth = depth + 1 := by
    have hpos : 0 < env.flagDepth := Nat.mul_pos (Nat.succ_pos _) (Nat.pow_pos Nat.two_pos)
    exact ⟨env.flagDepth - 1, by omega⟩
  rw [run, checkPrerequisites, hdepth, evaluateFlag, evaluateAbove, Flag.evaluateWith, if_pos hon]
  rfl

/-- The prerequisites of a flag that gets a detail, with what comes after them. -/
theorem run_eq_ok (hon : f.on = true) (h : env.run f = (.ok detail, scope)) :
    ∃ s, s.records = env.recordsOf f.key none (env.presentFlags f.prerequisites) ∧
      s.status = env.statusOf none (env.presentFlags f.prerequisites) ∧ s.Honest env ∧
      match f.prerequisites.find? env.isFailing with
      | some p => (detail, scope) = (f.offValue (.prerequisiteFailed p.key), s)
      | none => f.decide env (env.inSegment env.segmentDepth) s = (.ok detail, scope) := by
  have hentered : Scope.Honest env { Scope.empty with flagChain := Eval.enter f.key [] } :=
    Scope.honest_empty env
  rw [env.run_eq hon] at h
  obtain ⟨failed, s, hpre, h⟩ := Eval.bind_eq_ok.1 h
  rw [checkPrerequisites, failedPrerequisite?, Eval.withFlag] at hpre
  obtain ⟨t, hcheck, rfl⟩ := Eval.around_eq_ok hpre
  obtain ⟨hfailed, hrecords, hstatus, hhonest⟩ :=
    checkInTurn_eq_ok (Nat.sub_le _ _) hentered hcheck
  refine ⟨{ t with flagChain := Eval.leave f.key t.flagChain }, hrecords, hstatus, hhonest, ?_⟩
  rw [Option.none_or] at hfailed
  subst hfailed
  cases hfind : f.prerequisites.find? env.isFailing with
  | some p =>
    rw [hfind] at h
    cases h
    rfl
  | none =>
    rw [hfind] at h
    exact h

/-- What targets, rules and fallthrough give after the prerequisites, they give alone.  They make no
records. -/
theorem decide_alone {s : Scope} (hs : s.Honest env)
    (h : f.decide env (env.inSegment env.segmentDepth) s = (.ok detail, scope)) :
    ∃ t, f.decide env (env.inSegment env.segmentDepth) .empty = (.ok detail, t) ∧
      scope.records = s.records ∧ scope.status = join s.status t.status := by
  obtain ⟨t, ht, hgains⟩ := decide_isolates hs f _ _ (Scope.Gains.self env s) detail scope h
  obtain ⟨⟨-, -, hrecords⟩, -⟩ := (decide_keeps (fun _ he => he) f).ok ⟨rfl, rfl, rfl⟩ ht
  refine ⟨t, ht, ?_, hgains.status⟩
  rw [hgains.records, hrecords]
  exact List.append_nil _

end Environment

/-- **Prerequisites gate a flag and leave a trace.**  If the evaluation of a flag that is on does
not end in an error, its records are those of its present prerequisites in turn.  The first
prerequisite that fails makes it serve the off variation for that reason, or makes it malformed if
the off variation is out of range; if none fails, targets, rules and fallthrough decide as they do
alone.  A failed prerequisite is the reason just if it is the first that fails, and the off variation
is in range. -/
theorem evaluate_gated (env : Environment) (f : Flag) (hon : f.on = true)
    (hrun : ∀ e, (env.run f).1 ≠ .error e) :
    (evaluate env f).records = env.recordsOf f.key none (env.presentFlags f.prerequisites) ∧
    (∀ p, env.IsFirstFailing f.prerequisites p →
      (evaluate env f).detail = { f.offValue (.prerequisiteFailed p.key) with
        status := env.statusOf none (env.presentFlags f.prerequisites) } ∧
      (evaluate env f).detail.reason =
        if f.offVariation.all fun index => index < f.variations.length
        then .prerequisiteFailed p.key else .error .malformedFlag) ∧
    ((∀ p ∈ f.prerequisites, ¬ env.Fails p) → ∃ detail scope,
      f.decide env (env.inSegment env.segmentDepth) .empty = (.ok detail, scope) ∧
      (evaluate env f).detail = { detail with
        status := join (env.statusOf none (env.presentFlags f.prerequisites)) scope.status }) ∧
    ∀ key, (evaluate env f).detail.reason = .prerequisiteFailed key ↔
      (f.offVariation.all fun index => index < f.variations.length) = true ∧
        ∃ p, env.IsFirstFailing f.prerequisites p ∧ p.key = key := by
  rcases h : env.run f with ⟨r, scope⟩
  cases r with
  | error e => exact absurd (congrArg Prod.fst h) (hrun e)
  | ok detail =>
    have heval : evaluate env f = .ofRun f (.ok detail, scope) := by rw [evaluate, h]
    obtain ⟨s, hrecords, hstatus, hhonest, hend⟩ := Environment.run_eq_ok hon h
    simp only [← Environment.find?_isFailing_eq_some_iff,
      ← Environment.find?_isFailing_eq_none_iff]
    cases hfind : f.prerequisites.find? env.isFailing with
    | some p =>
      rw [hfind] at hend
      cases hend
      refine ⟨?_, ?_, ?_, fun key => ?_⟩
      · rw [heval]
        exact hrecords
      · intro p' hp'
        cases hp'
        rw [heval, ← hstatus]
        exact ⟨rfl, f.reason_offValue _⟩
      · intro hnone
        cases hnone
      · rw [heval]
        simp only [Option.some.injEq, exists_eq_left']
        exact f.reason_offValue_eq_iff p.key key
    | none =>
      rw [hfind] at hend
      obtain ⟨t, ht, hscope, hjoin⟩ := Environment.decide_alone hhonest hend
      refine ⟨?_, ?_, ?_, fun key => ?_⟩
      · rw [heval, ← hrecords]
        exact hscope
      · intro p hp
        cases hp
      · intro _
        refine ⟨detail, t, ht, ?_⟩
        rw [heval, ← hstatus, ← hjoin]
        rfl
      · refine ⟨fun hreason => absurd hreason ?_, fun hfirst => ?_⟩
        · rw [heval]
          exact (Flag.decide_gives _ _ _ ht).reason_ne key
        · obtain ⟨-, p, hp, -⟩ := hfirst
          cases hp

/-- Flags of all sorts: one that serves the first variation, one that is on and serves another, one
that is off and serves the first, one with a prerequisite of its own, and one behind a missing
one. -/
def gated : Environment where
  store := .ofDataset (.ofItems
    [.requiring "core" [],
      { Flag.requiring "trial" [] with
        variations := [.bool true, .bool false]
        fallthrough := .fixed 1 },
      { Flag.requiring "beta" [] with
        on := false
        offVariation := some 0 },
      .requiring "index" ["core"], .requiring "late" []] [])
  provider := none
  context := .ofUserKey "u"

/-- The flag that is on and serves another variation is the first that fails. -/
theorem evaluate_gated_page :
    let page := Flag.requiring "page" ["core", "trial", "beta", "index", "gone", "late"]
    page.on = true ∧ (∀ e, (gated.run page).1 ≠ .error e) ∧
      (page.prerequisites.filter fun p => gated.Fails p).map Prerequisite.key =
        ["trial", "beta", "gone"] ∧
      (evaluate gated page).detail.reason = .prerequisiteFailed "trial" ∧
      (evaluate gated page).records.map (fun r => (r.flag.key, r.prerequisiteOf)) =
        [("core", "page"), ("trial", "page"), ("beta", "page"), ("core", "index"),
          ("index", "page")] := by
  intro page
  have hok : (gated.run page).1.isOk = true := by decide +kernel
  have hrun : ∀ e, (gated.run page).1 ≠ .error e := by
    intro e he
    rw [he] at hok
    cases hok
  have hfirst : gated.IsFirstFailing page.prerequisites ⟨"trial", 0⟩ :=
    ⟨by decide +kernel, [⟨"core", 0⟩], [⟨"beta", 0⟩, ⟨"index", 0⟩, ⟨"gone", 0⟩, ⟨"late", 0⟩], rfl,
      by decide +kernel⟩
  obtain ⟨hrecords, -, -, hreason⟩ := evaluate_gated gated page rfl hrun
  refine ⟨rfl, hrun, by decide +kernel, (hreason "trial").2 ⟨rfl, _, hfirst, rfl⟩, ?_⟩
  rw [hrecords]
  decide +kernel

end FeatureFlags
