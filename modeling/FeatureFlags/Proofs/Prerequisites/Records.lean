import FeatureFlags.Proofs.BigSegment.Account
import FeatureFlags.Proofs.Prerequisites.Gating

/-!
# Records and the evaluations that they come from

A prerequisite is recorded right after its evaluation, so the records that the evaluation itself
has made come directly before its own.  This holds of every record, however deep, and whether or not
the whole evaluation fails in the end: the record tells what its flag gives alone, and the records
before it are those that are made alone.

The statuses are an exception.  There is one status for the whole evaluation, and a record takes it
as it is by then, with all that has been heard before the prerequisite was even looked at.  So a
status is that of the record's own flag only if nothing worse was heard before.

All of this is one invariant of the scope.  It has to be kept by an evaluation that starts while
nothing is known but what the last record tells, and each prerequisite is looked at in such a scope,
since no rule has been looked at by then.  After the rules this no longer holds, and after an error
it does not matter any more, so the steps are described by what holds before them, after a value,
and after an error.

## What is here

* `Environment.Recorded`: lists of records that evaluations make.
* `Eval.Ends`: what holds before a step, after a value and after an error.
* `Environment.run_recorded`: every evaluation makes such a list.
* `evaluate_records_compose`, `evaluate_records_status`: what a record and those before it tell.
-/

set_option autoImplicit false

namespace FeatureFlags

open BigSegmentStatus (join noWorse worstOf? join_none join_eq_right_iff)

/-! ## Records -/

/-- The error of a prerequisite that could not be evaluated. -/
def EvalError.IsMalformed : EvalError → Prop
  | .malformedPrerequisite _ => True
  | _ => False

/-- The status that is known when the given records have just been made. -/
def lastStatus (rs : List PrerequisiteRecord) : Option BigSegmentStatus :=
  rs.getLast?.bind fun r => r.detail.status

@[simp] theorem lastStatus_append_singleton (rs : List PrerequisiteRecord)
    (r : PrerequisiteRecord) : lastStatus (rs ++ [r]) = r.detail.status := by
  simp [lastStatus]

/-- A status that was known before is not noticed if it is no worse. -/
theorem PrerequisiteRecord.after_eq_self_iff {status : Option BigSegmentStatus}
    {r : PrerequisiteRecord} : r.after status = r ↔ noWorse status r.detail.status = true := by
  obtain ⟨flag, parent, value, index, reason, own⟩ := r
  rw [← join_eq_right_iff]
  simp [after, Detail.after]

/-- Records as an evaluation makes them.  Each comes with what its flag gives alone, which is a
detail, directly after the records that are made alone, and nothing comes after an error.  The
statuses are those known by then. -/
inductive Environment.Recorded (env : Environment) : List PrerequisiteRecord → Prop where
  | nil : Recorded env []
  | append {rs before : List PrerequisiteRecord} {g : Flag} (parent : String)
      (h : Recorded env rs) (hsound : ∀ r ∈ rs, ¬ r.detail.IsError)
      (hgiven : ∃ detail, (env.run g).1 = .ok detail)
      (hblock : rs = before ++ (evaluate env g).records.map (·.after (lastStatus before))) :
      Recorded env (rs ++ [⟨g, parent, (evaluate env g).detail.after (lastStatus before)⟩])

namespace Environment.Recorded

variable {env : Environment} {rs earlier later : List PrerequisiteRecord} {r : PrerequisiteRecord}

/-- What is known of a record in the middle of a list. -/
theorem split (h : env.Recorded rs) (hrs : rs = earlier ++ r :: later) :
    (∃ detail, (env.run r.flag).1 = .ok detail) ∧ (∀ q ∈ earlier, ¬ q.detail.IsError) ∧
      ∃ before,
        earlier = before ++ (evaluate env r.flag).records.map (·.after (lastStatus before)) ∧
        r.detail = (evaluate env r.flag).detail.after (lastStatus before) := by
  induction h generalizing earlier later with
  | nil => exact absurd hrs (by simp)
  | @append rs before g parent _ hsound hgiven hblock ih =>
    rcases List.eq_nil_or_concat later with rfl | ⟨later', last, rfl⟩
    · obtain ⟨rfl, hlast⟩ := List.append_inj' hrs rfl
      cases hlast
      exact ⟨hgiven, hsound, before, hblock, rfl⟩
    · rw [List.concat_eq_append, ← List.cons_append, ← List.append_assoc] at hrs
      exact ih (List.append_inj' hrs rfl).1

/-- Nothing comes after an error. -/
theorem eq_nil_of_isError (h : env.Recorded rs) (hrs : rs = earlier ++ r :: later)
    (herror : r.detail.IsError) : later = [] := by
  cases later with
  | nil => rfl
  | cons q later =>
    rw [← List.singleton_append, ← List.append_assoc] at hrs
    exact absurd herror ((h.split hrs).2.1 r (by simp))

end Environment.Recorded

/-! ## Steps -/

namespace Eval

variable {α β : Type} {I K : Scope → Prop} {P : α → Scope → Prop} {Q : β → Scope → Prop}
  {J : EvalError → Scope → Prop}

/-- From a scope with `I` the step ends in one with `P` of its value or, if it fails, with `J` of
its error. -/
def Ends (I : Scope → Prop) (P : α → Scope → Prop) (J : EvalError → Scope → Prop) (x : Eval α) :
    Prop :=
  ∀ s, I s → match x s with
    | (.ok a, t) => P a t
    | (.error e, t) => J e t

namespace Ends

theorem pure {a : α} (h : ∀ s, I s → P a s) : Ends I P J (Pure.pure a) := h

theorem fail {e : EvalError} (h : ∀ s, I s → J e s) : Ends I P J (Eval.fail e : Eval α) := h

theorem bind {x : Eval α} {f : α → Eval β} (hx : Ends I P J x) (hf : ∀ a, Ends (P a) Q J (f a)) :
    Ends I Q J (x >>= f) := by
  intro s hs
  have ht := hx s hs
  rcases h : x s with ⟨r, t⟩
  rw [h] at ht
  cases r with
  | ok a =>
    rw [bind_of_ok h]
    exact hf a t ht
  | error e =>
    rw [bind_of_error h]
    exact ht

/-- A step in a changed scope, if neither change is one of anything that matters. -/
theorem around {before after : Scope → Scope} {x : Eval α} (hbefore : ∀ s, I s → I (before s))
    (hok : ∀ a s, P a s → P a (after s)) (herror : ∀ e s, J e s → J e (after s))
    (hx : Ends I P J x) : Ends I P J (Eval.around before after x) := by
  intro s hs
  have ht := hx (before s) (hbefore s hs)
  rcases h : x (before s) with ⟨r, t⟩
  rw [h] at ht
  simp only [Eval.around, h]
  cases r with
  | ok a => exact hok a t ht
  | error e => exact herror e t ht

/-- A step that keeps an invariant in any case. -/
theorem of_keeps {E : EvalError → Prop} {x : Eval α} (hx : Keeps K x (fun _ => True) E)
    (hI : ∀ s, I s → K s) (hJ : ∀ e s, E e → K s → J e s) : Ends I (fun _ => K) J x := by
  intro s hs
  obtain ⟨ht, he⟩ := hx s (hI s hs)
  rcases h : x s with ⟨r, t⟩
  rw [h] at ht he
  cases r with
  | ok a => exact ht
  | error e => exact hJ e t he ht

/-- Checking prerequisites one after the other, if each check leads to where the next can begin. -/
theorem inTurn {check : Prerequisite → Eval (Option Bool)} {ps : List Prerequisite}
    {failed : Option String} (hcheck : ∀ p ∈ ps, Ends I (fun _ => I) J (check p)) :
    Ends I (fun _ => I) J (checkInTurn check failed ps) := by
  induction ps generalizing failed with
  | nil => exact pure fun _ hs => hs
  | cons p ps ih =>
    have hrest := fun q hq => hcheck q (List.mem_cons_of_mem p hq)
    refine bind (hcheck p List.mem_cons_self) fun found => ?_
    cases found with
    | none => exact pure fun _ hs => hs
    | some satisfied =>
      cases satisfied with
      | true => exact ih hrest
      | false => exact ih hrest

end Ends

end Eval

/-! ## Evaluations -/

namespace Scope

/-- The records have been made by an evaluation, and none is an error. -/
def Sound (env : Environment) (s : Scope) : Prop :=
  env.Recorded s.records ∧ ∀ r ∈ s.records, ¬ r.detail.IsError

/-- Nothing is known besides of what the records tell. -/
structure Synced (env : Environment) (s : Scope) : Prop where
  /-- The records are sound. -/
  sound : s.Sound env
  /-- The memberships kept are those of the provider. -/
  honest : s.Honest env
  /-- The status is that of the last record. -/
  status : s.status = lastStatus s.records

/-- The evaluation of a flag has just given a detail, and has added to the scope what it does
alone. -/
structure Given (env : Environment) (g : Flag) (detail : Detail FlagValue) (s : Scope) : Prop where
  /-- The records are sound. -/
  sound : s.Sound env
  /-- The memberships kept are those of the provider. -/
  honest : s.Honest env
  /-- It is what the flag gives alone, and follows the records that are made alone. -/
  recorded : ∀ parent,
    env.Recorded (s.records ++ [⟨g, parent, { detail with status := s.status }⟩])

/-- The records have been made by an evaluation that fails.  One of them is an error just if this is
what the evaluation fails for. -/
def Stopped (env : Environment) (e : EvalError) (s : Scope) : Prop :=
  env.Recorded s.records ∧ ((∃ r ∈ s.records, r.detail.IsError) ↔ e.IsMalformed)

variable {env : Environment} {s : Scope}

theorem synced_empty (env : Environment) : empty.Synced env :=
  ⟨⟨.nil, fun _ hr => absurd hr List.not_mem_nil⟩, honest_empty env, rfl⟩

/-- An evaluation may fail for other reasons. -/
theorem Sound.stopped (h : s.Sound env) {e : EvalError} (he : ¬ e.IsMalformed) :
    s.Stopped env e :=
  ⟨h.1, iff_of_false (fun ⟨r, hr, herror⟩ => h.2 r hr herror) he⟩

theorem visible_sound (env : Environment) : Visible (Sound env) := by
  intro s t h hs
  rw [Sound, ← h.records]
  exact hs

end Scope

namespace Environment

variable {env : Environment} {depth : Nat} {parent : String} {f g : Flag}

/-- A flag gives what it gives alone, wherever nothing is known but what the records tell. -/
theorem evaluateFlag_given (hdepth : depth ≤ env.flagDepth)
    (hsound : Eval.Ends (Scope.Synced env) (fun _ => Scope.Sound env) (Scope.Stopped env)
      (env.evaluateFlag depth g)) :
    Eval.Ends (Scope.Synced env) (Scope.Given env g) (Scope.Stopped env)
      (env.evaluateFlag depth g) := by
  intro s hs
  have ht := hsound s hs
  rcases h : env.evaluateFlag depth g s with ⟨result, t⟩
  rw [h] at ht
  cases result with
  | error e => exact ht
  | ok detail =>
    obtain ⟨own, hown, hgains⟩ := evaluateFlag_isolates hs.honest hdepth g _ _
      (Scope.Gains.self env s) detail t h
    have hevaluate : evaluate env g = .ofRun g (.ok detail, own) := by rw [evaluate, run, hown]
    have hblock : t.records =
        s.records ++ (evaluate env g).records.map (·.after (lastStatus s.records)) := by
      rw [hgains.records, hs.status, hevaluate]
      rfl
    refine ⟨ht, hgains.honest_of_honest hs.honest, fun parent => ?_⟩
    have happend := Recorded.append parent ht.1 ht.2 ⟨detail, congrArg Prod.fst hown⟩ hblock
    rw [← hs.status, hevaluate] at happend
    rw [hgains.status]
    exact happend

/-- Recording what has been given.  An error is recorded as well, but nothing comes after it. -/
theorem settle_ends (p : Prerequisite) (detail : Detail FlagValue) :
    Eval.Ends (Scope.Given env g detail) (fun _ => Scope.Synced env) (Scope.Stopped env)
      (p.settle parent g detail) := by
  intro s hs
  let r : PrerequisiteRecord := ⟨g, parent, { detail with status := s.status }⟩
  let t : Scope := { s with records := s.records ++ [r] }
  have hrecord : Eval.record g parent detail s = (.ok (), t) := rfl
  have hstatus : t.status = lastStatus t.records := (lastStatus_append_singleton _ r).symm
  have hsynced (hr : ¬ r.detail.IsError) : t.Synced env := by
    refine ⟨⟨hs.recorded parent, fun q hq => ?_⟩, hs.honest, hstatus⟩
    rcases List.mem_append.1 hq with hq | hq
    · exact hs.sound.2 q hq
    · rwa [List.mem_singleton.1 hq]
  rw [Prerequisite.settle, Eval.bind_of_ok hrecord]
  cases hreason : detail.reason with
  | error kind =>
    have hr : r ∈ s.records ++ [r] := List.mem_append_right _ List.mem_cons_self
    exact ⟨hs.recorded parent, iff_of_true ⟨r, hr, kind, hreason⟩ trivial⟩
  | _ =>
    refine hsynced ?_
    rintro ⟨kind, hkind⟩
    exact Reason.noConfusion (hreason.symm.trans hkind)

/-- One prerequisite, given the evaluation of its flag. -/
theorem enterPrerequisite_ends {evaluate : Flag → Eval (Detail FlagValue)}
    (hevaluate : ∀ g, Eval.Ends (Scope.Synced env) (Scope.Given env g) (Scope.Stopped env)
      (evaluate g)) (parent : String) (p : Prerequisite) :
    Eval.Ends (Scope.Synced env) (fun _ => Scope.Synced env) (Scope.Stopped env)
      (env.enterPrerequisite evaluate parent p) := by
  refine Eval.Ends.bind (P := fun _ => Scope.Synced env) (fun _ hs => hs) fun chain => ?_
  split
  · exact Eval.Ends.fail fun _ hs => hs.sound.stopped id
  · rw [findPrerequisite, bind_flag?]
    refine Eval.Ends.bind (P := fun _ => Scope.Synced env)
      (fun _ hs => ⟨hs.sound, hs.honest, hs.status⟩) fun _ => ?_
    split
    · exact Eval.Ends.fail fun _ hs => hs.sound.stopped id
    · split
      · exact Eval.Ends.pure fun _ hs => hs
      · next g _ => exact Eval.Ends.bind (hevaluate g) (settle_ends p)

theorem not_isMalformed_of_ruleError {e : EvalError} (h : env.RuleError e) : ¬ e.IsMalformed := by
  cases e with
  | malformedPrerequisite key => exact h.elim
  | _ => exact id

/-- Targets, rules and fallthrough make no records. -/
theorem decide_ends (f : Flag) :
    Eval.Ends (Scope.Synced env) (fun _ => Scope.Sound env) (Scope.Stopped env)
      (f.decide env (env.inSegment env.segmentDepth)) := by
  have hrules : ∀ e, env.RuleError e → ¬ e.IsMalformed := fun _ => not_isMalformed_of_ruleError
  have hkeeps : Eval.Keeps (Scope.Sound env) (f.decide env (env.inSegment env.segmentDepth))
      (fun _ => True) fun e => ¬ e.IsMalformed := by
    refine Eval.Keeps.decide (Scope.visible_sound env)
      (fun e he => hrules e (ruleError_of_isOfData he)) fun key _ => ?_
    refine Eval.Keeps.of_at (Scope.visible_sound env) fun s hs => ?_
    exact inSegment_keeps hrules key (Or.inl id)
  exact Eval.Ends.of_keeps hkeeps (fun _ hs => hs.sound) fun e _ he hs => hs.stopped he

/-- A flag, given the evaluation of the flags below it. -/
theorem evaluateAbove_ends {evaluate : Flag → Eval (Detail FlagValue)}
    (hevaluate : ∀ g, Eval.Ends (Scope.Synced env) (Scope.Given env g) (Scope.Stopped env)
      (evaluate g)) (f : Flag) :
    Eval.Ends (Scope.Synced env) (fun _ => Scope.Sound env) (Scope.Stopped env)
      (env.evaluateAbove evaluate f) := by
  rw [evaluateAbove, Flag.evaluateWith]
  split
  · refine Eval.Ends.bind (P := fun _ => Scope.Synced env) ?_ fun failed => ?_
    · rw [failedPrerequisite?, Eval.withFlag]
      exact Eval.Ends.around (fun _ hs => ⟨hs.sound, hs.honest, hs.status⟩)
        (fun _ _ hs => ⟨hs.sound, hs.honest, hs.status⟩) (fun _ _ hs => hs)
        (Eval.Ends.inTurn fun p _ => enterPrerequisite_ends hevaluate f.key p)
    · cases failed with
      | some key => exact Eval.Ends.pure fun _ hs => hs.sound
      | none => exact decide_ends f
  · exact Eval.Ends.pure fun _ hs => hs.sound

/-- **Evaluations make records that come with what their flags give alone**, from any scope of which
nothing is known but what the records tell. -/
theorem evaluateFlag_ends (hdepth : depth ≤ env.flagDepth) (f : Flag) :
    Eval.Ends (Scope.Synced env) (fun _ => Scope.Sound env) (Scope.Stopped env)
      (env.evaluateFlag depth f) := by
  induction depth generalizing f with
  | zero => exact evaluateAbove_ends (fun _ => Eval.Ends.fail fun _ hs => hs.sound.stopped id) f
  | succ depth ih =>
    have hbelow : depth ≤ env.flagDepth := Nat.le_of_succ_le hdepth
    exact evaluateAbove_ends (fun g => evaluateFlag_given hbelow (ih hbelow g)) f

/-- What is known of the records of a whole evaluation. -/
theorem run_recorded (env : Environment) (f : Flag) :
    env.Recorded (evaluate env f).records ∧ ((∃ r ∈ (evaluate env f).records, r.detail.IsError) ↔
      ∃ e, (env.run f).1 = .error e ∧ e.IsMalformed) := by
  have hends := evaluateFlag_ends (Nat.le_refl _) f .empty (Scope.synced_empty env)
  rw [evaluate, Evaluation.ofRun_records, run]
  rcases h : env.evaluateFlag env.flagDepth f .empty with ⟨result, t⟩
  rw [h] at hends
  cases result with
  | ok detail =>
    refine ⟨hends.1, iff_of_false ?_ ?_⟩
    · rintro ⟨r, hr, herror⟩
      exact hends.2 r hr herror
    · rintro ⟨e, he, -⟩
      cases he
  | error e =>
    refine ⟨hends.1, hends.2.trans ⟨fun he => ⟨e, rfl, he⟩, ?_⟩⟩
    rintro ⟨e', he', h⟩
    cases he'
    exact h

end Environment

/-! ## Whole evaluations -/

/-- Records are found again at the end just if the status before has not changed them. -/
theorem suffix_append_map_after_iff (before own : List PrerequisiteRecord) :
    own <:+ before ++ own.map (·.after (lastStatus before)) ↔
      ∀ q ∈ own, noWorse (lastStatus before) q.detail.status = true := by
  have heq : own.map (·.after (lastStatus before)) = own ↔
      ∀ q ∈ own, noWorse (lastStatus before) q.detail.status = true := by
    simp only [← PrerequisiteRecord.after_eq_self_iff]
    have hid : own.map (·.after (lastStatus before)) = own.map id ↔ _ := List.map_inj_left
    rwa [List.map_id] at hid
  rw [← heq]
  constructor
  · rintro ⟨others, h⟩
    exact (List.append_inj' h (List.length_map _).symm).2.symm
  · intro h
    rw [h]
    exact List.suffix_append before own

/-- **Records come with what is recorded alone.**  A record tells what its flag gives alone, and the
records directly before it are those that the flag makes alone, each with the status that was known
before all of them.  So they are the same just if that status is no worse than theirs. -/
theorem evaluate_records_compose (env : Environment) (f : Flag)
    (earlier later : List PrerequisiteRecord) (r : PrerequisiteRecord)
    (h : (evaluate env f).records = earlier ++ r :: later) :
    let own := evaluate env r.flag
    r.detail.value = own.detail.value ∧ r.detail.index = own.detail.index ∧
      r.detail.reason = own.detail.reason ∧
      ∃ before, earlier = before ++ own.records.map (·.after (lastStatus before)) ∧
        (own.records <:+ earlier ↔
          ∀ q ∈ own.records, noWorse (lastStatus before) q.detail.status = true) := by
  intro own
  obtain ⟨-, -, before, hearlier, hdetail⟩ := (env.run_recorded f).1.split h
  refine ⟨by rw [hdetail]; rfl, by rw [hdetail]; rfl, by rw [hdetail]; rfl, before, hearlier, ?_⟩
  rw [hearlier]
  exact suffix_append_map_after_iff before own.records

/-- A flag for a big segment whose store is stale, and a flag for nothing that requires another. -/
def strained : Environment where
  store := .ofDataset (.ofItems
    [(Flag.requiring "vip" []).forSegments ["big"], .requiring "leaf" [], .requiring "mid" ["leaf"]]
    [{ Segment.naming "big" [] [] with unbounded := true, generation := some 1 }])
  provider := some ⟨fun _ => (none, .stale)⟩
  context := .ofUserKey "u"

/-- The last record of a flag that requires both. -/
theorem records_strained :
    let rs := (evaluate strained (.requiring "page" ["vip", "mid"])).records
    ∃ earlier r, rs = earlier ++ r :: [] ∧
      earlier.map (fun q => (q.flag.key, q.detail.status)) =
        [("vip", some .stale), ("leaf", some .stale)] ∧
      (r.flag.key, r.detail.status) = ("mid", some .stale) ∧
      (evaluate strained r.flag).records.map (fun q => (q.flag.key, q.detail.status)) =
        [("leaf", none)] ∧
      (evaluate strained r.flag).detail.status = none ∧
      (strained.run r.flag).2.consultations = [] := by
  intro rs
  have hrs : rs ≠ [] := List.ne_nil_of_length_pos (by decide +kernel)
  refine ⟨rs.dropLast, rs.getLast hrs, (List.dropLast_concat_getLast hrs).symm, ?_⟩
  decide +kernel +revert

theorem evaluate_records_compose_strained :
    ∃ earlier r, (evaluate strained (.requiring "page" ["vip", "mid"])).records =
        earlier ++ r :: [] ∧
      r.flag.key = "mid" ∧ r.detail.reason = (evaluate strained r.flag).detail.reason ∧
      ∃ before, earlier =
        before ++ (evaluate strained r.flag).records.map (·.after (lastStatus before)) := by
  obtain ⟨earlier, r, h, -, hr, -⟩ := records_strained
  obtain ⟨-, -, hreason, before, hearlier, -⟩ := evaluate_records_compose strained _ earlier [] r h
  exact ⟨earlier, r, h, congrArg Prod.fst hr, hreason, before, hearlier⟩

/-- The record of `leaf` directly before that of `mid` is not the one that `mid` makes alone. -/
theorem strained_records_not_suffix :
    strained.store.NeverFails ∧ strained.store.data.FlagsUnderOwnKeys ∧
      ∃ earlier r later,
        (evaluate strained (.requiring "page" ["vip", "mid"])).records = earlier ++ r :: later ∧
        ¬ (evaluate strained r.flag).records <:+ earlier := by
  obtain ⟨earlier, r, h, hearlier, -, hown, -⟩ := records_strained
  refine ⟨⟨fun _ => rfl, fun _ => rfl⟩, Dataset.flagsUnderOwnKeys_ofItems _ _, ?_⟩
  refine ⟨earlier, r, [], h, fun hsuffix => ?_⟩
  have hmap := hsuffix.map fun q => (q.flag.key, q.detail.status)
  rw [hearlier, hown] at hmap
  exact absurd hmap (by decide)

/-- **A record reports the worst that has been heard so far**, and so what its flag reports alone
just if nothing worse was heard before its flag was looked at.  Alone the flag reports the most
severe status of its own consultations, and those of its prerequisites. -/
theorem evaluate_records_status (env : Environment) (f : Flag)
    (earlier later : List PrerequisiteRecord) (r : PrerequisiteRecord)
    (h : (evaluate env f).records = earlier ++ r :: later) :
    let own := evaluate env r.flag
    own.detail.status = worstOf? ((env.run r.flag).2.consultations.map env.statusFor) ∧
      ∃ before, before <+: earlier ∧ before.length + own.records.length = earlier.length ∧
        r.detail.status = join (lastStatus before) own.detail.status ∧
        (r.detail.status = own.detail.status ↔
          noWorse (lastStatus before) own.detail.status = true) := by
  intro own
  obtain ⟨-, -, before, hearlier, hdetail⟩ := (env.run_recorded f).1.split h
  have hstatus : r.detail.status = join (lastStatus before) own.detail.status := by
    rw [hdetail]
    rfl
  have hsettled : (env.run r.flag).2.Settled env :=
    (Environment.evaluateFlag_settled env.flagDepth r.flag .empty (.empty env)).1
  refine ⟨?_, before, ?_, ?_, hstatus, ?_⟩
  · simp only [own, evaluate, Evaluation.ofRun_status]
    exact hsettled.status
  · rw [hearlier]
    exact List.prefix_append _ _
  · rw [hearlier, List.length_append, List.length_map]
  · rw [hstatus]
    exact join_eq_right_iff

theorem evaluate_records_status_strained :
    ∃ earlier r, (evaluate strained (.requiring "page" ["vip", "mid"])).records =
        earlier ++ r :: [] ∧
      r.flag.key = "mid" ∧ (evaluate strained r.flag).detail.status = none ∧
      ∃ before, before <+: earlier ∧ r.detail.status = lastStatus before := by
  obtain ⟨earlier, r, h, -, hr, -, -, hnone⟩ := records_strained
  obtain ⟨hworst, before, hprefix, -, hjoin, -⟩ :=
    evaluate_records_status strained _ earlier [] r h
  rw [hnone] at hworst
  rw [hworst] at hjoin
  exact ⟨earlier, r, h, congrArg Prod.fst hr, hworst, before, hprefix, hjoin.trans (join_none _)⟩

/-- The flag `mid` consults no big segment, but its record reports that the store is stale. -/
theorem strained_status_ne :
    strained.store.NeverFails ∧ strained.store.data.FlagsUnderOwnKeys ∧
      ∃ r ∈ (evaluate strained (.requiring "page" ["vip", "mid"])).records,
        (strained.run r.flag).2.consultations = [] ∧ r.detail.status = some .stale ∧
        r.detail.status ≠ (evaluate strained r.flag).detail.status := by
  obtain ⟨earlier, r, h, -, hr, -, hown, hnone⟩ := records_strained
  have hstatus : r.detail.status = some .stale := congrArg Prod.snd hr
  refine ⟨⟨fun _ => rfl, fun _ => rfl⟩, Dataset.flagsUnderOwnKeys_ofItems _ _, ?_⟩
  refine ⟨r, ?_, hnone, hstatus, ?_⟩
  · rw [h]
    exact List.mem_append_right earlier List.mem_cons_self
  · rw [hstatus, hown]
    exact fun heq => by cases heq

end FeatureFlags
