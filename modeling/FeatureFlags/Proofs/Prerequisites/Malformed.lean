import FeatureFlags.Proofs.Decision.Selection
import FeatureFlags.Proofs.Detail.WellFormed
import FeatureFlags.Proofs.Nesting.Cycles
import FeatureFlags.Proofs.Prerequisites.Records

/-!
# Malformed prerequisites

A flag can select a variation that is not there.  Evaluated for itself it gets an error for an
answer then, but as a prerequisite it makes the flag that requires it fail, and so all flags above,
up to the one that is evaluated.  None of those gets a record any more.

That nothing is recorded above follows from what records are like.  A flag that gets a record has
had all flags recorded before that it has looked at, and those below them.  So if it were above one
whose record is an error, then there would be another record of that one, before its own; but an
error comes last.

## What is here

* `Environment.LooksAt`: the prerequisites that a flag looks at.
* `Environment.run_reaches`: only what is looked at is recorded.
* `Environment.Recorded.exists_mem_of_transGen`: what is looked at is recorded first.
* `evaluate_malformed`: the theorem.
-/

set_option autoImplicit false

namespace FeatureFlags

open Relation

/-! ## Flags that are looked at -/

namespace Environment

variable {env : Environment} {f g : Flag} {ps : List Prerequisite}

/-- The prerequisite is not missing. -/
def isPresent (env : Environment) (p : Prerequisite) : Bool :=
  (env.store.data.flag? p.key).isSome

/-- A flag that is on looks at its prerequisites before the first that is missing.  These are its
live edges, as the store has them. -/
def LooksAt (env : Environment) (f g : Flag) : Prop :=
  f.on = true ∧ g ∈ env.presentFlags f.prerequisites

theorem mem_presentFlags_iff :
    g ∈ env.presentFlags ps ↔
      ∃ p ∈ ps.takeWhile env.isPresent, env.store.data.flag? p.key = some g := by
  induction ps with
  | nil => simp [presentFlags]
  | cons p ps ih =>
    cases hp : env.store.data.flag? p.key with
    | none => simp [presentFlags, isPresent, hp]
    | some h => simp [presentFlags, isPresent, hp, ih, eq_comm]

/-- What is looked at is held by the store. -/
theorem flag?_key_of_looksAt (hkeys : env.store.data.FlagsUnderOwnKeys) (h : env.LooksAt f g) :
    env.store.data.flag? g.key = some g := by
  obtain ⟨p, -, hp⟩ := mem_presentFlags_iff.1 h.2
  rw [hkeys.key_eq hp, hp]

theorem flag?_key_of_transGen (hkeys : env.store.data.FlagsUnderOwnKeys)
    (h : TransGen env.LooksAt f g) : env.store.data.flag? g.key = some g := by
  obtain ⟨_, -, hlast⟩ := TransGen.tail'_iff.1 h
  exact flag?_key_of_looksAt hkeys hlast

end Environment

/-! ## Only what is looked at is recorded -/

/-- The flags that have been recorded are all in `P`. -/
def Scope.RecordsOnly (P : Flag → Prop) (s : Scope) : Prop := ∀ r ∈ s.records, P r.flag

theorem Scope.visible_recordsOnly (P : Flag → Prop) : Visible (RecordsOnly P) := by
  intro s t h hs r hr
  exact hs r (h.records ▸ hr)

namespace Environment

variable {env : Environment} {f : Flag} {P : Flag → Prop}
  {evaluate : Flag → Eval (Detail FlagValue)}

/-- A prerequisite is found if it is not missing, and recorded if it is found. -/
theorem enterPrerequisite_recordsOnly {p : Prerequisite}
    (hevaluate : ∀ g, env.store.data.flag? p.key = some g → P g ∧
      Eval.Keeps (Scope.RecordsOnly P) (evaluate g) (fun _ => True) fun _ => True)
    (parent : String) :
    Eval.Keeps (Scope.RecordsOnly P) (env.enterPrerequisite evaluate parent p)
      (fun found => env.isPresent p = found.isSome ∧ (found.isSome → True)) fun _ => True := by
  rw [isPresent]
  refine Eval.Keeps.bind (P := fun _ => True) (fun _ hs => ⟨hs, trivial⟩) fun chain _ => ?_
  split
  · exact Eval.Keeps.fail trivial
  · refine Eval.Keeps.bind_flag? (Scope.visible_recordsOnly P) (fun _ _ => trivial) ?_
    cases hg : env.store.data.flag? p.key with
    | none => exact Eval.Keeps.pure ⟨rfl, fun _ => trivial⟩
    | some g =>
      obtain ⟨hP, hkeeps⟩ := hevaluate g hg
      refine Eval.Keeps.bind hkeeps fun detail _ => ?_
      refine Eval.Keeps.bind (P := fun _ => True) (Eval.Keeps.update (fun s hs => ?_) trivial) ?_
      · intro r hr
        rcases List.mem_append.1 hr with hr | hr
        · exact hs r hr
        · rwa [List.mem_singleton.1 hr]
      · intro _ _
        split
        · exact Eval.Keeps.fail trivial
        · exact Eval.Keeps.pure ⟨rfl, fun _ => trivial⟩

theorem evaluateAbove_recordsOnly
    (hevaluate : ∀ g, env.LooksAt f g → P g ∧
      Eval.Keeps (Scope.RecordsOnly P) (evaluate g) (fun _ => True) fun _ => True) :
    Eval.Keeps (Scope.RecordsOnly P) (env.evaluateAbove evaluate f) (fun _ => True)
      fun _ => True := by
  cases hon : f.on with
  | false =>
    rw [evaluateAbove, Flag.evaluateWith, if_neg (by simp [hon])]
    exact Eval.Keeps.pure trivial
  | true =>
    refine Eval.Keeps.flag (Scope.visible_recordsOnly P) (fun _ _ => trivial) ?_ fun key _ => ?_
    · have hlooks : ∀ p, (env.isPresent p = true → p ∈ f.prerequisites.takeWhile env.isPresent) →
          ∀ g, env.store.data.flag? p.key = some g → env.LooksAt f g := fun p hpresent g hg =>
        ⟨hon, mem_presentFlags_iff.2 ⟨p, hpresent (by rw [isPresent, hg]; rfl), hg⟩⟩
      have hchecks := checkInTurn_keeps (f.prerequisites.takeWhile env.isPresent)
        (fun p hpresent => enterPrerequisite_recordsOnly
          (fun g hg => hevaluate g (hlooks p hpresent g hg)) f.key) none fun p hp => hp
      exact Eval.Keeps.around (fun _ hs => hs) (fun _ hs => hs)
        (hchecks.mono (fun _ _ => trivial) fun _ he => he)
    · refine Eval.Keeps.of_at (Scope.visible_recordsOnly P) fun s hs => ?_
      exact inSegment_keeps (fun _ _ => trivial) key (Or.inl trivial)

/-- If what is looked at from a flag is in `P`, and what is looked at from there, then all that its
evaluation records is. -/
theorem evaluateFlag_recordsOnly (hclosed : ∀ g h, P g → env.LooksAt g h → P h) (depth : Nat)
    (hf : ∀ g, env.LooksAt f g → P g) :
    Eval.Keeps (Scope.RecordsOnly P) (env.evaluateFlag depth f) (fun _ => True)
      fun _ => True := by
  induction depth generalizing f with
  | zero => exact evaluateAbove_recordsOnly fun g hg => ⟨hf g hg, Eval.Keeps.fail trivial⟩
  | succ depth ih =>
    exact evaluateAbove_recordsOnly fun g hg => ⟨hf g hg, ih fun h hh => hclosed g h (hf g hg) hh⟩

/-- **Only what is looked at is recorded**, from the flag on that is evaluated. -/
theorem run_reaches (env : Environment) (f : Flag) :
    ∀ r ∈ (FeatureFlags.evaluate env f).records, TransGen env.LooksAt f r.flag := by
  rw [FeatureFlags.evaluate, Evaluation.ofRun_records]
  exact (evaluateFlag_recordsOnly (fun _ _ hg hh => hg.tail hh) env.flagDepth
    (fun _ hg => TransGen.single hg) .empty fun r hr => absurd hr List.not_mem_nil).1

end Environment

/-! ## What is looked at is recorded first -/

namespace Environment

variable {env : Environment} {f g : Flag}

/-- Each of the flags gets a record. -/
theorem exists_mem_recordsOf {parent : String} {status : Option BigSegmentStatus} {gs : List Flag}
    (h : g ∈ gs) : ∃ r ∈ env.recordsOf parent status gs, r.flag = g := by
  induction gs generalizing status with
  | nil => exact absurd h List.not_mem_nil
  | cons other gs ih =>
    rw [recordsOf]
    rcases List.mem_cons.1 h with rfl | h
    · have hown : ⟨g, parent, (FeatureFlags.evaluate env g).detail⟩ ∈ env.recordsAbout parent g :=
        List.mem_append_right _ List.mem_cons_self
      exact ⟨_, List.mem_append_left _ (List.mem_map_of_mem hown), rfl⟩
    · obtain ⟨r, hr, hflag⟩ := ih h
      exact ⟨r, List.mem_append_right _ hr, hflag⟩

/-- A flag that gets a detail has made a record of each flag that it looks at. -/
theorem exists_mem_records_of_looksAt (hok : ∃ detail, (env.run f).1 = .ok detail)
    (h : env.LooksAt f g) : ∃ r ∈ (FeatureFlags.evaluate env f).records, r.flag = g := by
  obtain ⟨detail, hok⟩ := hok
  have hrun : env.run f = (.ok detail, (env.run f).2) := Prod.ext hok rfl
  obtain ⟨s, hrecords, -, hhonest, hend⟩ := run_eq_ok h.1 hrun
  have hsame : (env.run f).2.records = s.records := by
    cases hfind : f.prerequisites.find? env.isFailing with
    | some p =>
      rw [hfind] at hend
      exact congrArg Scope.records (congrArg Prod.snd hend)
    | none =>
      rw [hfind] at hend
      obtain ⟨-, -, hscope, -⟩ := decide_alone hhonest hend
      exact hscope
  rw [FeatureFlags.evaluate, Evaluation.ofRun_records, hsame, hrecords]
  exact exists_mem_recordsOf h.2

namespace Recorded

variable {rs earlier later : List PrerequisiteRecord} {q r : PrerequisiteRecord}

/-- A record tells the reason that its flag gives alone. -/
theorem reason_eq (h : env.Recorded rs) (hq : q ∈ rs) :
    q.detail.reason = (FeatureFlags.evaluate env q.flag).detail.reason := by
  obtain ⟨earlier, later, hrs⟩ := List.append_of_mem hq
  obtain ⟨-, -, before, -, hdetail⟩ := h.split hrs
  rw [hdetail]
  rfl

/-- What a flag looks at is recorded before it. -/
theorem exists_mem_of_looksAt (h : env.Recorded rs) (hrs : rs = earlier ++ r :: later)
    (hlooks : env.LooksAt r.flag g) : ∃ q ∈ earlier, q.flag = g := by
  obtain ⟨hok, -, before, rfl, -⟩ := h.split hrs
  obtain ⟨q, hq, hflag⟩ := exists_mem_records_of_looksAt hok hlooks
  exact ⟨q.after (lastStatus before), List.mem_append_right _ (List.mem_map_of_mem hq), hflag⟩

/-- **What a flag leads to is recorded before it.** -/
theorem exists_mem_of_transGen (h : env.Recorded rs) (hrs : rs = earlier ++ r :: later)
    (hpath : TransGen env.LooksAt r.flag g) : ∃ q ∈ earlier, q.flag = g := by
  induction hpath with
  | single hlooks => exact h.exists_mem_of_looksAt hrs hlooks
  | tail _ hlooks ih =>
    obtain ⟨q, hq, rfl⟩ := ih
    -- the next flag is recorded before this one, and so before `r` as well
    obtain ⟨before, between, rfl⟩ := List.append_of_mem hq
    rw [List.append_assoc, List.cons_append] at hrs
    obtain ⟨q', hq', hflag⟩ := h.exists_mem_of_looksAt hrs hlooks
    exact ⟨q', List.mem_append_left _ hq', hflag⟩

/-- A flag that leads to one whose record is an error has none. -/
theorem flag_ne_of_transGen (h : env.Recorded rs) (hr : r ∈ rs) (herror : r.detail.IsError)
    (hpath : TransGen env.LooksAt g r.flag) : ∀ q ∈ rs, q.flag ≠ g := by
  rintro q hq rfl
  obtain ⟨earlier, later, hrs⟩ := List.append_of_mem hq
  obtain ⟨q', hq', hflag⟩ := h.exists_mem_of_transGen hrs hpath
  have hmem : q' ∈ rs := hrs ▸ List.mem_append_left _ hq'
  have hsame : q'.detail.reason = r.detail.reason := by
    rw [h.reason_eq hmem, h.reason_eq hr, hflag]
  rw [Detail.IsError, ← hsame] at herror
  exact (h.split hrs).2.1 q' hq' herror

end Recorded

end Environment

/-! ## Whole evaluations -/

namespace Environment

variable {env : Environment} {f : Flag}

/-- A record that is an error makes the evaluation fail, and is one of a malformed flag. -/
theorem detail_of_isError {r : PrerequisiteRecord} (hr : r ∈ (FeatureFlags.evaluate env f).records)
    (herror : r.detail.IsError) :
    r.detail.reason = .error .malformedFlag ∧
      ∃ status, (FeatureFlags.evaluate env f).detail =
        { (Detail.err .malformedFlag : Detail FlagValue) with status } := by
  have hrecords : (env.run f).2.RecordsWellFormed :=
    (evaluateFlag_recordsWellFormed env.flagDepth f .empty fun r hr => absurd hr List.not_mem_nil).1
  obtain ⟨e, he, hmalformed⟩ := (env.run_recorded f).2.1 ⟨r, hr, herror⟩
  rw [FeatureFlags.evaluate, Evaluation.ofRun_records] at hr
  constructor
  · obtain ⟨kind, hkind⟩ := herror
    obtain ⟨hmem, -⟩ := (hrecords r hr).of_error kind hkind
    rw [hkind, List.mem_singleton.1 hmem]
  · have hrun : env.run f = (.error e, (env.run f).2) := Prod.ext he rfl
    cases e with
    | malformedPrerequisite key =>
      rw [FeatureFlags.evaluate, hrun]
      exact ⟨_, rfl⟩
    | _ => exact hmalformed.elim

end Environment

/-- **A malformed prerequisite makes everything above it malformed.**  A record that is an error is
the only one, and the last.  It is that of a flag that the evaluation has been led to, and no flag
on any way there has a record.  The flag that is evaluated is malformed as well, and serves nothing.
There is such a record just if this is what the evaluation fails for.

If the evaluation does not fail at all, then the flag is malformed just if it has selected a
variation that is not there. -/
theorem evaluate_malformed (env : Environment) (f : Flag)
    (hkeys : env.store.data.FlagsUnderOwnKeys) :
    (∀ earlier r later, (evaluate env f).records = earlier ++ r :: later → r.detail.IsError →
      later = [] ∧ (∀ q ∈ earlier, ¬ q.detail.IsError) ∧
      r.detail.reason = .error .malformedFlag ∧
      TransGen env.LooksAt f r.flag ∧
      (∀ g, TransGen env.LooksAt f g → TransGen env.LooksAt g r.flag →
        ∀ q ∈ (evaluate env f).records, q.flag.key ≠ g.key) ∧
      (evaluate env f).detail.reason = .error .malformedFlag ∧
      (evaluate env f).detail.value = none ∧ (evaluate env f).detail.index = none) ∧
    ((∃ r ∈ (evaluate env f).records, r.detail.IsError) ↔
      ∃ e, (env.run f).1 = .error e ∧ e.IsMalformed) ∧
    ((∀ e, (env.run f).1 ≠ .error e) → ∀ kind, (evaluate env f).detail.reason = .error kind ↔
      kind = .malformedFlag ∧ ∃ index, env.Selects f index ∧ f.variations.length ≤ index) := by
  obtain ⟨hrecorded, hiff⟩ := env.run_recorded f
  have hreached := env.run_reaches f
  refine ⟨fun earlier r later hrs herror => ?_, hiff, fun hrun kind => ?_⟩
  · have hr : r ∈ (evaluate env f).records := hrs ▸ List.mem_append_right _ List.mem_cons_self
    obtain ⟨hreason, status, hdetail⟩ := Environment.detail_of_isError hr herror
    refine ⟨hrecorded.eq_nil_of_isError hrs herror, (hrecorded.split hrs).2.1, hreason,
      hreached r hr, fun g hg hpath q hq hkey => ?_, by rw [hdetail]; rfl, by rw [hdetail]; rfl,
      by rw [hdetail]; rfl⟩
    have hflag : some q.flag = some g := by
      rw [← Environment.flag?_key_of_transGen hkeys (hreached q hq), hkey,
        Environment.flag?_key_of_transGen hkeys hg]
    exact hrecorded.flag_ne_of_transGen hr herror hpath q hq (Option.some.inj hflag)
  · cases h : (env.run f).1 with
    | error e => exact absurd h (hrun e)
    | ok detail =>
      have heval : (evaluate env f).detail.reason = detail.reason := by
        rw [evaluate, show env.run f = (.ok detail, (env.run f).2) from Prod.ext h rfl]
        rfl
      rw [heval]
      exact Environment.reason_eq_error_iff h kind

/-- A flag that is off, a flag that selects a variation that it does not have, and one above it. -/
def spoiled : Environment where
  store := .ofDataset (.ofItems
    [{ Flag.requiring "beta" [] with on := false },
      { Flag.requiring "broken" [] with fallthrough := .fixed 5 }, .requiring "middle" ["broken"],
      .requiring "late" []] [])
  provider := none
  context := .ofUserKey "u"

/-- The last record of a flag that requires them. -/
theorem records_spoiled :
    ∃ earlier r, (evaluate spoiled (.requiring "page" ["beta", "middle", "late"])).records =
        earlier ++ r :: [] ∧
      r.flag.key = "broken" ∧ r.detail.reason = .error .malformedFlag := by
  have hne : (evaluate spoiled (.requiring "page" ["beta", "middle", "late"])).records ≠ [] :=
    List.ne_nil_of_length_pos (by decide +kernel)
  refine ⟨_, _, (List.dropLast_concat_getLast hne).symm, ?_⟩
  decide +kernel +revert

/-- The first prerequisite fails, the second is above a malformed one, and the third is not
reached. -/
theorem evaluate_malformed_spoiled :
    let page := Flag.requiring "page" ["beta", "middle", "late"]
    let broken := { Flag.requiring "broken" [] with fallthrough := .fixed 5 }
    spoiled.store.data.FlagsUnderOwnKeys ∧
      (evaluate spoiled page).records.map (fun r => (r.flag.key, r.prerequisiteOf)) =
        [("beta", "page"), ("broken", "middle")] ∧
      (evaluate spoiled page).detail.reason = .error .malformedFlag ∧
      (evaluate spoiled page).detail.value = none ∧
      (∀ q ∈ (evaluate spoiled page).records, q.flag.key ≠ "middle") ∧
      (∃ e, (spoiled.run page).1 = .error e ∧ e.IsMalformed) ∧
      ∃ index, spoiled.Selects broken index ∧ broken.variations.length ≤ index := by
  intro page broken
  let middle := Flag.requiring "middle" ["broken"]
  have hkeys : spoiled.store.data.FlagsUnderOwnKeys := Dataset.flagsUnderOwnKeys_ofItems _ _
  obtain ⟨hmalformed, hiff, -⟩ := evaluate_malformed spoiled page hkeys
  obtain ⟨-, -, hselects⟩ := evaluate_malformed spoiled broken hkeys
  obtain ⟨earlier, r, hrs, hkey, hreason⟩ := records_spoiled
  have herror : r.detail.IsError := ⟨_, hreason⟩
  have hr : r ∈ (evaluate spoiled page).records := hrs ▸ List.mem_append_right _ List.mem_cons_self
  obtain ⟨-, -, -, hreached, habove, htop, hvalue, -⟩ := hmalformed earlier r [] hrs herror
  have hpage : spoiled.LooksAt page middle :=
    ⟨rfl, List.mem_cons_of_mem _ List.mem_cons_self⟩
  have hmiddle : spoiled.LooksAt middle r.flag := by
    have hstored := Environment.flag?_key_of_transGen hkeys hreached
    rw [hkey] at hstored
    have hflag : broken = r.flag := Option.some.inj hstored
    rw [← hflag]
    exact ⟨rfl, List.mem_cons_self⟩
  refine ⟨hkeys, by decide +kernel, htop, hvalue,
    habove middle (.single hpage) (.single hmiddle), hiff.1 ⟨r, hr, herror⟩, ?_⟩
  have hrun : ∀ e, (spoiled.run broken).1 ≠ .error e := by
    intro e he
    have hok : (spoiled.run broken).1.isOk = true := by decide +kernel
    rw [he] at hok
    cases hok
  exact ((hselects hrun .malformedFlag).1 (by decide +kernel)).2

end FeatureFlags
