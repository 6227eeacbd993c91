import FeatureFlags.Proofs.Decision.FirstMatch
import FeatureFlags.Proofs.Rollout.Choice
import FeatureFlags.Proofs.Rollout.Range

/-!
# Outcomes that can be used

An outcome selects a variation unless something is missing: its data may be malformed, a rollout may
have no entries, the context may lack the kind that the rollout goes by, or the reference that it
follows may be invalid.  An experiment follows none, so an invalid reference does it no harm.  There
is nothing else that can go wrong, since a bucket above all shares gets the last entry.

What an entry is chosen by are the shares up to its own.  So the entries behind one that is chosen by
its own share make no difference, and may be changed, removed or added to.

## What is here

* `Outcome.IsUsable`: outcomes that lack nothing for a context.
* `Context.exists_bucket_iff`, `Rollout.exists_isChosen_iff`: when there are buckets and entries.
* `Rollout.isChosen_append`: the entries behind the one that is chosen.
* `Flag.select_usable`: the theorem.
-/

set_option autoImplicit false

namespace FeatureFlags

/-! ## What an outcome needs -/

/-- The rollout has entries, and the context has the kind that it goes by and lets it follow the
reference that it follows, if any. -/
def Rollout.IsUsable (r : Rollout) (c : Context) : Prop :=
  r.variations ≠ [] ∧ (c.entity? r.contextKind).isSome = true ∧
    (r.isExperiment = true ∨ ∀ reference ∈ r.bucketBy, reference.isValid = true)

instance (r : Rollout) (c : Context) : Decidable (r.IsUsable c) :=
  inferInstanceAs (Decidable (_ ∧ _ ∧ (_ ∨ _)))

/-- The outcome lacks nothing for a context. -/
def Outcome.IsUsable (o : Outcome) (c : Context) : Prop :=
  match o with
  | fixed _ => True
  | rollout r => r.IsUsable c
  | malformed _ => False

instance (o : Outcome) (c : Context) : Decidable (o.IsUsable c) :=
  match o with
  | .fixed _ => inferInstanceAs (Decidable True)
  | .rollout r => inferInstanceAs (Decidable (r.IsUsable c))
  | .malformed _ => inferInstanceAs (Decidable False)

theorem Reference.check_eq_ok_iff {r : Reference} : r.check = .ok () ↔ r.isValid = true := by
  rw [check, isValid]
  cases r.path <;> simp [Except.isOk, Except.toBool]

/-- A context has a bucket just if it has the kind, and a reference that is followed is valid. -/
theorem Context.exists_bucket_iff {c : Context} {kind : Kind} {reference : Option Reference}
    {salt : String} {isExperiment : Bool} :
    (∃ bucket, c.bucket kind reference salt isExperiment = .ok (some bucket)) ↔
      (c.entity? kind).isSome = true ∧
        (isExperiment = true ∨ ∀ r ∈ reference, r.isValid = true) := by
  simp only [bucket_eq_ok_some_iff, Entity.bucket_eq_ok_iff, Reference.check_eq_ok_iff,
    Option.isSome_iff_exists, Option.mem_def]
  constructor
  · rintro ⟨bucket, e, hkind, hreference, -⟩
    refine ⟨⟨e, hkind⟩, ?_⟩
    cases isExperiment with
    | true => exact Or.inl rfl
    | false => exact Or.inr (hreference rfl)
  · rintro ⟨⟨e, hkind⟩, hreference⟩
    refine ⟨_, e, hkind, fun hfollows => ?_, rfl⟩
    exact hreference.resolve_left (Bool.eq_false_iff.1 hfollows)

/-! ## Entries -/

namespace Rollout

variable {r : Rollout} {bucket : Single} {before after : List WeightedVariation}
  {entry : WeightedVariation}

/-- Every bucket gets an entry, if there are any. -/
theorem exists_isChosen_iff : (∃ entry, r.IsChosen bucket entry) ↔ r.variations ≠ [] := by
  constructor
  · rintro ⟨entry, before, after, heq, -⟩ hnil
    rw [hnil] at heq
    exact List.append_ne_nil_of_right_ne_nil before (List.cons_ne_nil entry after) heq.symm
  · intro hentries
    simp only [← choose?_eq_some_iff, choose?]
    cases firstAbove? bucket (Binary.ofNat 0) r.variations with
    | none => exact ⟨_, List.getLast?_eq_some_getLast hentries⟩
    | some first => exact ⟨first, rfl⟩

/-- The entry that is chosen by its own share is chosen whatever comes behind it. -/
theorem isChosen_append (hentries : r.variations = before ++ entry :: after)
    (hpasses : ∀ n < before.length, bucket.less (r.share (n + 1)) = false)
    (habove : bucket.less (r.share (before.length + 1)) = true) (others : List WeightedVariation) :
    ({ r with variations := before ++ entry :: others } : Rollout).IsChosen bucket entry := by
  -- as many entries as are looked at are the same in both
  have hshare (n : Nat) (hn : n ≤ before.length + 1) :
      ({ r with variations := before ++ entry :: others } : Rollout).share n = r.share n := by
    have htake (rest : List WeightedVariation) :
        (before ++ entry :: rest).take n = (before ++ [entry]).take n := by
      rw [List.append_cons, List.take_append_of_le_length (by simpa using hn)]
    simp only [share, hentries, htake]
  refine ⟨before, others, rfl, fun n hn => ?_, Or.inl ?_⟩
  · rw [hshare (n + 1) (Nat.succ_le_succ (Nat.le_of_lt hn)), hpasses n hn]
  · rw [hshare _ (Nat.le_refl _), habove]

end Rollout

/-! ## The theorem -/

namespace Flag

variable {f : Flag} {o : Outcome} {c : Context}

/-- An outcome selects just if it lacks nothing. -/
theorem exists_select_iff : (∃ selection, f.select o c = .ok selection) ↔ o.IsUsable c := by
  cases o with
  | fixed n => exact iff_of_true ⟨_, rfl⟩ trivial
  | malformed data => exact iff_of_false nofun id
  | rollout r =>
    rw [Outcome.IsUsable, Rollout.IsUsable, ← Context.exists_bucket_iff]
    simp only [select_rollout_eq_ok_iff]
    constructor
    · rintro ⟨-, entry, ⟨bucket, hbucket, hchosen⟩, -⟩
      exact ⟨Rollout.exists_isChosen_iff.1 ⟨entry, hchosen⟩, bucket, hbucket⟩
    · rintro ⟨hentries, bucket, hbucket⟩
      obtain ⟨entry, hchosen⟩ := Rollout.exists_isChosen_iff.2 hentries
      exact ⟨_, entry, ⟨bucket, hbucket, hchosen⟩, rfl⟩

/-- Entries behind one that is chosen by its own share may be changed, removed or added to. -/
theorem select_append {r : Rollout} {bucket : Single} {before after : List WeightedVariation}
    {entry : WeightedVariation}
    (hbucket : c.bucket r.contextKind r.bucketBy (r.saltText f.key f.salt) r.isExperiment =
      .ok (some bucket))
    (hentries : r.variations = before ++ entry :: after)
    (hpasses : ∀ n < before.length, bucket.less (r.share (n + 1)) = false)
    (habove : bucket.less (r.share (before.length + 1)) = true) (others : List WeightedVariation) :
    f.select (.rollout { r with variations := before ++ entry :: others }) c =
      f.select (.rollout r) c := by
  rw [select_rollout_eq_ok_iff.2 ⟨entry, ⟨bucket, hbucket, before, after, hentries, hpasses,
    Or.inl habove⟩, rfl⟩]
  exact select_rollout_eq_ok_iff.2 ⟨entry, ⟨bucket, hbucket,
    Rollout.isChosen_append hentries hpasses habove others⟩, rfl⟩

/-- **Outcomes select just if they lack nothing.**  If something is missing, the flag is malformed.
A fixed outcome selects its variation.  A rollout selects that of the first entry up to which the
shares exceed the bucket of the context, or of the last entry if they never do, and it counts it if
it is an experiment and the entry is not untracked.  If an entry is chosen by its own share, those
behind it may be changed, removed or added to, and the selection is the same. -/
theorem select_usable (f : Flag) (o : Outcome) (c : Context) :
    ((∃ selection, f.select o c = .ok selection) ↔ o.IsUsable c) ∧
    (∀ e, f.select o c = .error e → e.kind = .malformedFlag ∧
      ∀ reason s, (Evaluation.ofRun f (f.serve o c reason s)).detail =
        { (.err .malformedFlag : Detail FlagValue) with status := s.status }) ∧
    (∀ n, o = .fixed n → f.select o c = .ok ⟨n, false⟩) ∧
    ∀ r, o = .rollout r →
      (∀ selection, f.select o c = .ok selection ↔
        ∃ bucket, c.bucket r.contextKind r.bucketBy (r.saltText f.key f.salt) r.isExperiment =
            .ok (some bucket) ∧
          ∃ entry, r.IsChosen bucket entry ∧
            selection = ⟨entry.variation, r.isExperiment && !entry.untracked⟩) ∧
      ∀ bucket before entry after,
        c.bucket r.contextKind r.bucketBy (r.saltText f.key f.salt) r.isExperiment =
          .ok (some bucket) →
        r.variations = before ++ entry :: after →
        (∀ n < before.length, bucket.less (r.share (n + 1)) = false) →
        bucket.less (r.share (before.length + 1)) = true →
        ∀ others, f.select (.rollout { r with variations := before ++ entry :: others }) c =
          f.select o c := by
  refine ⟨exists_select_iff, fun e he => ⟨kind_of_select_error he, fun reason s => ?_⟩, ?_, ?_⟩
  · rw [detail_serve, served, he]
  · rintro n rfl
    rfl
  · rintro r rfl
    refine ⟨fun selection => ?_, fun bucket before entry after => select_append⟩
    rw [select_rollout_eq_ok_iff]
    constructor
    · rintro ⟨entry, ⟨bucket, hbucket, hchosen⟩, hselection⟩
      exact ⟨bucket, hbucket, entry, hchosen, hselection⟩
    · rintro ⟨bucket, hbucket, entry, hchosen, hselection⟩
      exact ⟨entry, ⟨bucket, hbucket, hchosen⟩, hselection⟩

end Flag

/-- A rollout over three variations that adds up to less than the whole. -/
def Rollout.short : Rollout where
  isExperiment := false
  contextKind := .user
  bucketBy := none
  variations := [⟨2, Binary.ofNat 30000, false⟩, ⟨0, Binary.ofNat 40000, false⟩,
    ⟨1, Binary.ofNat 10000, false⟩]
  seed := none

/-- One user gets the second entry by its own share, whatever the third one is, and another is behind
all shares and gets the last.  With a reference that is invalid the flag is malformed for both, unless
the rollout is an experiment. -/
theorem Flag.select_usable_short :
    let select user r := (Flag.requiring "trial" []).select (.rollout r) (.ofUserKey user)
    let following : Rollout := { Rollout.short with bucketBy := some ⟨"/"⟩ }
    select "w" .short = .ok ⟨0, false⟩ ∧
      (∀ others, select "w" { Rollout.short with variations :=
        [⟨2, Binary.ofNat 30000, false⟩] ++ ⟨0, Binary.ofNat 40000, false⟩ :: others } =
          .ok ⟨0, false⟩) ∧
      select "x" .short = .ok ⟨1, false⟩ ∧
      (∃ e, select "w" following = .error e ∧ e.kind = .malformedFlag) ∧
      ∃ selection, select "w" { following with isExperiment := true } = .ok selection := by
  intro select following
  have husable (user : String) (r : Rollout) :=
    Flag.select_usable (.requiring "trial" []) (.rollout r) (.ofUserKey user)
  have hown : select "w" .short = .ok ⟨0, false⟩ := by decide +kernel
  refine ⟨hown, fun others => ?_, by decide +kernel, ?_, ?_⟩
  · refine (((husable "w" .short).2.2.2 _ rfl).2 _ _ _ _ rfl rfl ?_ ?_ others).trans hown
    · decide +kernel
    · decide +kernel
  · rcases h : select "w" following with e | selection
    · exact ⟨e, rfl, ((husable "w" following).2.1 e h).1⟩
    · exact absurd ((husable "w" following).1.1 ⟨selection, h⟩) (by decide)
  · exact (husable "w" { following with isExperiment := true }).1.2 (by decide)

end FeatureFlags
