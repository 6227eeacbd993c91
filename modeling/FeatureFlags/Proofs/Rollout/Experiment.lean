import FeatureFlags.Proofs.Prerequisites.Records
import FeatureFlags.Proofs.Rollout.Choice

/-!
# What counts for an experiment

A result counts for an experiment if a rollout has served it that is one, by an entry that is not
untracked.  All that a result tells of this is a mark in its reason.  The mark is made where the
entry is chosen, and travels from there with the selection, through the reason and past the check
that the variation is in range, to the detail.  Two entries may serve the same variation and be
tracked or not, so it could not be found again from the index.

A reason names the outcome that has served: that of the rule that has matched, or the fallthrough.
So it can be said of a detail alone, without the evaluation that it came from, that it tells what its
outcome selects.  Every value of an evaluation is of this sort, and a record tells what its flag
gives alone, so nothing more is to be shown of the records.

## What is here

* `Flag.outcome?`, `Flag.Accounts`: the outcome that a reason names, and details that tell what it
  selects.
* `Environment.evaluateFlag_accounts`: every detail that an evaluation gives is one.
* `Flag.TakesPart`: the entry of an experiment that a result comes from.
* `evaluate_counts_iff`: the theorem.
-/

set_option autoImplicit false

namespace FeatureFlags

namespace Flag

/-! ## Details that tell what was selected -/

/-- The outcome that has served, if an outcome has. -/
def outcome? (f : Flag) : Reason → Option Outcome
  | .ruleMatch place _ _ => (f.rules[place]?).map FlagRule.outcome
  | .fallthrough _ => some f.fallthrough
  | _ => none

/-- The detail tells what the outcome that it names selects. -/
structure Accounts (f : Flag) (c : Context) (d : Detail FlagValue) : Prop where
  /-- The index and the mark are those of the selection. -/
  selected : ∀ o, f.outcome? d.reason = some o → ∃ selection, f.select o c = .ok selection ∧
    d.index = some selection.variation ∧ d.reason.isInExperiment = selection.inExperiment
  /-- Without an outcome there is no mark. -/
  unselected : f.outcome? d.reason = none → d.reason.isInExperiment = false

namespace Accounts

variable {f : Flag} {c : Context} {d : Detail FlagValue}

/-- Index and reason are all that counts. -/
theorem congr {d' : Detail FlagValue} (h : f.Accounts c d) (hindex : d'.index = d.index)
    (hreason : d'.reason = d.reason) : f.Accounts c d' := by
  constructor
  · rw [hindex, hreason]
    exact h.selected
  · rw [hreason]
    exact h.unselected

theorem of_outcome?_eq_none (houtcome : f.outcome? d.reason = none)
    (hmark : d.reason.isInExperiment = false) : f.Accounts c d := by
  refine ⟨fun o ho => ?_, fun _ => hmark⟩
  cases houtcome.symm.trans ho

/-- A variation for a reason that names no outcome. -/
theorem variation {reason : Reason} (houtcome : f.outcome? reason = none)
    (hmark : reason.isInExperiment = false) (index : Nat) :
    f.Accounts c (f.variation index reason) := by
  rw [Flag.variation]
  split
  · exact of_outcome?_eq_none houtcome hmark
  · exact of_outcome?_eq_none rfl rfl

theorem offValue {reason : Reason} (houtcome : f.outcome? reason = none)
    (hmark : reason.isInExperiment = false) : f.Accounts c (f.offValue reason) := by
  rw [Flag.offValue]
  split
  · exact variation houtcome hmark _
  · exact of_outcome?_eq_none houtcome hmark

/-- A variation that an outcome selects, for a reason that names the outcome.  If it is out of range,
the detail is an error and names no outcome. -/
theorem of_select {o : Outcome} {selection : Selection} {reason : Reason}
    (hselect : f.select o c = .ok selection) (houtcome : f.outcome? reason = some o)
    (hmark : reason.isInExperiment = selection.inExperiment) :
    f.Accounts c (f.variation selection.variation reason) := by
  rw [Flag.variation]
  split
  · refine ⟨fun o' ho' => ?_, fun hnone => ?_⟩
    · obtain rfl : o = o' := Option.some.inj (houtcome.symm.trans ho')
      exact ⟨selection, hselect, rfl, hmark⟩
    · cases houtcome.symm.trans hnone
  · exact of_outcome?_eq_none rfl rfl

end Accounts

theorem Serves.accounts {f : Flag} {c : Context} {d : Detail FlagValue} (h : f.Serves c d) :
    f.Accounts c d := by
  cases h with
  | target index => exact .variation rfl rfl index
  | rule hr hselect => exact .of_select hselect (congrArg (Option.map FlagRule.outcome) hr) rfl
  | fallthrough hselect => exact .of_select hselect rfl rfl

theorem evaluateWith_accounts {env : Environment} {inSegment : String → Eval Bool} {f : Flag}
    {prerequisites : Eval (Option String)} :
    Eval.Gives (f.evaluateWith env inSegment prerequisites) (f.Accounts env.context) :=
  evaluateWith_gives_of (fun _ => .offValue rfl rfl) (fun _ _ => .offValue rfl rfl)
    fun _ _ h => h.accounts

end Flag

theorem Environment.evaluateFlag_accounts (env : Environment) (depth : Nat) (f : Flag) :
    Eval.Gives (env.evaluateFlag depth f) (f.Accounts env.context) := by
  cases depth with
  | zero => exact Flag.evaluateWith_accounts
  | succ depth => exact Flag.evaluateWith_accounts

/-! ## Results -/

/-- The details that come of the evaluation of a flag, each with its own flag. -/
def Evaluation.results (e : Evaluation) (f : Flag) : List (Flag × Detail FlagValue) :=
  (f, e.detail) :: e.records.map fun r => (r.flag, r.detail)

theorem evaluate_accounts (env : Environment) (f : Flag) :
    f.Accounts env.context (evaluate env f).detail := by
  rw [evaluate]
  rcases h : env.run f with ⟨result, s⟩
  cases result with
  | error e => exact Flag.Accounts.of_outcome?_eq_none rfl rfl
  | ok detail => exact (env.evaluateFlag_accounts _ f _ _ _ h).congr rfl rfl

/-- **Every result tells what its outcome selects**, that of the flag and those of its
prerequisites. -/
theorem accounts_of_mem_results {env : Environment} {f g : Flag} {detail : Detail FlagValue}
    (h : (g, detail) ∈ (evaluate env f).results f) : g.Accounts env.context detail := by
  rcases List.mem_cons.1 h with heq | hrecord
  · cases heq
    exact evaluate_accounts env f
  · obtain ⟨r, hr, heq⟩ := List.mem_map.1 hrecord
    cases heq
    -- the record differs from what its flag gives alone in the status only
    obtain ⟨earlier, later, hrs⟩ := List.append_of_mem hr
    obtain ⟨-, -, before, -, hdetail⟩ := (env.run_recorded f).1.split hrs
    rw [hdetail]
    exact (evaluate_accounts env r.flag).congr rfl rfl

/-! ## Experiments -/

namespace Flag

variable {f : Flag} {c : Context} {d : Detail FlagValue} {entry : WeightedVariation}

/-- A result of the flag for a context comes from an entry of an experiment: its reason names a
rollout that is one, and the context draws the entry. -/
def TakesPart (f : Flag) (c : Context) (reason : Reason) (entry : WeightedVariation) : Prop :=
  ∃ r, f.outcome? reason = some (.rollout r) ∧ r.isExperiment = true ∧ f.Draws c r entry

/-- A selection by a tracked part of an experiment is that of an entry that is drawn. -/
theorem exists_draws_of_inExperiment {o : Outcome} {selection : Selection}
    (hselect : f.select o c = .ok selection) (hmark : selection.inExperiment = true) :
    ∃ r entry, o = .rollout r ∧ r.isExperiment = true ∧ f.Draws c r entry ∧
      entry.untracked = false := by
  cases o with
  | fixed n =>
    cases hselect
    cases hmark
  | malformed data => cases hselect
  | rollout r =>
    obtain ⟨entry, hdraws, rfl⟩ := select_rollout_eq_ok_iff.1 hselect
    obtain ⟨hexperiment, htracked⟩ := Bool.and_eq_true_iff.1 hmark
    exact ⟨r, entry, rfl, hexperiment, hdraws, by simpa using htracked⟩

/-- The entry that a result comes from is served, and the mark tells whether it is tracked. -/
theorem TakesPart.served (h : f.TakesPart c d.reason entry) (haccounts : f.Accounts c d) :
    d.index = some entry.variation ∧ d.reason.isInExperiment = !entry.untracked := by
  obtain ⟨r, houtcome, hexperiment, hdraws⟩ := h
  obtain ⟨selection, hselect, hindex, hmark⟩ := haccounts.selected _ houtcome
  obtain ⟨entry', hdraws', rfl⟩ := select_rollout_eq_ok_iff.1 hselect
  obtain rfl := hdraws.unique hdraws'
  rw [hexperiment, Bool.true_and] at hmark
  exact ⟨hindex, hmark⟩

/-- A result is marked just if it comes from an entry that is tracked. -/
theorem Accounts.isInExperiment_iff (h : f.Accounts c d) :
    d.reason.isInExperiment = true ↔
      ∃ entry, f.TakesPart c d.reason entry ∧ entry.untracked = false := by
  constructor
  · intro hmark
    cases houtcome : f.outcome? d.reason with
    | none => exact absurd (h.unselected houtcome) (by simp [hmark])
    | some o =>
      obtain ⟨selection, hselect, -, heq⟩ := h.selected o houtcome
      obtain ⟨r, entry, rfl, hexperiment, hdraws, htracked⟩ :=
        exists_draws_of_inExperiment hselect (heq.symm.trans hmark)
      exact ⟨entry, ⟨r, houtcome, hexperiment, hdraws⟩, htracked⟩
  · rintro ⟨entry, htakes, htracked⟩
    rw [(htakes.served h).2, htracked]
    rfl

/-- Results are to be tracked in full that are in an experiment, or that come from a rule or the
fallthrough whose results are. -/
theorem isExperimentationEnabled_iff (f : Flag) (reason : Reason) :
    f.isExperimentationEnabled reason = true ↔ reason.isInExperiment = true ∨
      (∃ mark, reason = .fallthrough mark ∧ f.trackEventsFallthrough = true) ∨
      ∃ place id mark r, reason = .ruleMatch place id mark ∧ f.rules[place]? = some r ∧
        r.trackEvents = true := by
  rw [isExperimentationEnabled.eq_def, Bool.or_eq_true]
  refine or_congr Iff.rfl ?_
  cases reason with
  | ruleMatch place id mark =>
    cases hr : f.rules[place]? with
    | none => simp [hr]
    | some r => simp [hr]
  | _ => simp

end Flag

/-- **What counts for an experiment** is just what a tracked entry of one has served.  This holds of
every result of an evaluation, with its own flag: it is marked just if its reason names an
experiment and the entry that the context draws there is not untracked, and then it has the
variation of that entry and is tracked in full.  Without the mark, a result is tracked in full just
if its rule or the fallthrough asks for it.  Nothing but a rule or the fallthrough ever counts. -/
theorem evaluate_counts_iff (env : Environment) (f g : Flag) (detail : Detail FlagValue)
    (h : (g, detail) ∈ (evaluate env f).results f) :
    (detail.reason.isInExperiment = true ↔
      ∃ entry, g.TakesPart env.context detail.reason entry ∧ entry.untracked = false) ∧
    (∀ entry, g.TakesPart env.context detail.reason entry →
      detail.index = some entry.variation ∧
        (entry.untracked = false → g.isExperimentationEnabled detail.reason = true)) ∧
    (g.isExperimentationEnabled detail.reason = true ↔ detail.reason.isInExperiment = true ∨
      (∃ mark, detail.reason = .fallthrough mark ∧ g.trackEventsFallthrough = true) ∨
      ∃ place id mark r, detail.reason = .ruleMatch place id mark ∧ g.rules[place]? = some r ∧
        r.trackEvents = true) ∧
    (detail.reason = .off ∨ detail.reason = .targetMatch ∨
        (∃ key, detail.reason = .prerequisiteFailed key) ∨ detail.IsError →
      detail.reason.isInExperiment = false ∧
        g.isExperimentationEnabled detail.reason = false) := by
  have haccounts := accounts_of_mem_results h
  have htracked := g.isExperimentationEnabled_iff detail.reason
  refine ⟨haccounts.isInExperiment_iff, fun entry htakes => ?_, htracked, ?_⟩
  · obtain ⟨hindex, hmark⟩ := htakes.served haccounts
    refine ⟨hindex, fun huntracked => htracked.2 (Or.inl ?_)⟩
    rw [hmark, huntracked]
    rfl
  · rintro (hreason | hreason | ⟨key, hreason⟩ | ⟨kind, hreason⟩) <;> rw [hreason] <;>
      exact ⟨rfl, rfl⟩

/-- A flag with an experiment in which all are served the same and half of them are untracked, for a
user. -/
def tried (user : String) : Environment where
  store := .ofDataset (.ofItems
    [(Flag.requiring "trial" []).serving (.rollout
      ⟨true, .user, none, [⟨0, .ofNat 50000, false⟩, ⟨0, .ofNat 50000, true⟩], none⟩)] [])
  provider := none
  context := .ofUserKey user

/-- The record of the experiment counts for one user and not for another, under the same index. -/
theorem evaluate_counts_iff_tried :
    (∃ r ∈ (evaluate (tried "v") (.requiring "page" ["trial"])).records,
      r.flag.key = "trial" ∧ r.detail.reason = .fallthrough true ∧ r.detail.index = some 0 ∧
        r.flag.isExperimentationEnabled r.detail.reason = true ∧
        ∃ entry, r.flag.TakesPart (tried "v").context r.detail.reason entry ∧
          entry.untracked = false) ∧
    ∃ r ∈ (evaluate (tried "u") (.requiring "page" ["trial"])).records,
      r.flag.key = "trial" ∧ r.detail.reason = .fallthrough false ∧ r.detail.index = some 0 ∧
        ¬ ∃ entry, r.flag.TakesPart (tried "u").context r.detail.reason entry ∧
          entry.untracked = false := by
  have hrecord (user : String) (r : PrerequisiteRecord)
      (hr : r ∈ (evaluate (tried user) (.requiring "page" ["trial"])).records) :=
    evaluate_counts_iff (tried user) (.requiring "page" ["trial"]) r.flag r.detail
      (List.mem_cons_of_mem _ (List.mem_map.2 ⟨r, hr, rfl⟩))
  constructor
  · have hfound : ∃ r ∈ (evaluate (tried "v") (.requiring "page" ["trial"])).records,
        r.flag.key = "trial" ∧ r.detail.reason = .fallthrough true ∧ r.detail.index = some 0 := by
      decide +kernel
    obtain ⟨r, hr, hkey, hreason, hindex⟩ := hfound
    obtain ⟨hmark, -, htracked, -⟩ := hrecord "v" r hr
    have hcounts : r.detail.reason.isInExperiment = true := by
      rw [hreason]
      rfl
    exact ⟨r, hr, hkey, hreason, hindex, htracked.2 (Or.inl hcounts), hmark.1 hcounts⟩
  · have hfound : ∃ r ∈ (evaluate (tried "u") (.requiring "page" ["trial"])).records,
        r.flag.key = "trial" ∧ r.detail.reason = .fallthrough false ∧ r.detail.index = some 0 := by
      decide +kernel
    obtain ⟨r, hr, hkey, hreason, hindex⟩ := hfound
    refine ⟨r, hr, hkey, hreason, hindex, fun hentry => ?_⟩
    have hcounts := (hrecord "u" r hr).1.2 hentry
    rw [hreason] at hcounts
    cases hcounts

end FeatureFlags
