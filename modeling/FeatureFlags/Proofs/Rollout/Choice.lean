import FeatureFlags.Flag.Basic

/-!
# The entry for a bucket

The entries of a rollout divide the whole among them, each by its weight.  A bucket gets the first
entry up to which the shares add up to more than the bucket.  The shares are added one after the
other and rounded each time, so they may add up to less than the whole; a bucket above all of them
gets the last entry.

The search carries the sum along.  Here the sum of the first entries is a function of their number,
and the entry for a bucket is described by its place.

## What is here

* `Rollout.share`: the shares of the first entries, added up.
* `Rollout.IsChosen`, `Rollout.choose?_eq_some_iff`: the entry for a bucket.
* `Flag.Draws`, `Flag.select_eq_ok_iff`: the selections that an outcome makes.
-/

set_option autoImplicit false

namespace FeatureFlags

namespace Rollout

/-! ## Shares -/

/-- A sum with the shares of entries added, one after the other. -/
def addShares (start : Single) (entries : List WeightedVariation) : Single :=
  entries.foldl (fun sum entry => sum.add (weightShare entry.weight)) start

/-- The share of the first entries, as many as given. -/
def share (r : Rollout) (count : Nat) : Single :=
  addShares (Binary.ofNat 0) (r.variations.take count)

variable {bucket start : Single} {entries : List WeightedVariation} {entry : WeightedVariation}

/-- The search passes the entries up to which the shares do not exceed the bucket. -/
theorem firstAbove?_eq_some_iff :
    firstAbove? bucket start entries = some entry ↔
      ∃ before after, entries = before ++ entry :: after ∧
        (∀ n < before.length, bucket.less (addShares start (entries.take (n + 1))) = false) ∧
        bucket.less (addShares start (entries.take (before.length + 1))) = true := by
  induction entries generalizing start with
  | nil => simp [firstAbove?]
  | cons head rest ih =>
    rw [firstAbove?]
    by_cases hless : bucket.less (start.add (weightShare head.weight)) = true
    · rw [if_pos hless]
      constructor
      · rintro ⟨⟩
        exact ⟨[], rest, rfl, nofun, hless⟩
      · rintro ⟨before, after, heq, hpasses, -⟩
        cases before with
        | nil => exact congrArg some (List.cons.inj heq).1
        | cons e before => exact absurd hless (Bool.eq_false_iff.1 (hpasses 0 (Nat.succ_pos _)))
    · rw [if_neg hless, ih]
      constructor
      · rintro ⟨before, after, rfl, hpasses, habove⟩
        refine ⟨head :: before, after, rfl, fun n hn => ?_, habove⟩
        cases n with
        | zero => exact Bool.eq_false_iff.2 hless
        | succ n => exact hpasses n (Nat.lt_of_succ_lt_succ hn)
      · rintro ⟨before, after, heq, hpasses, habove⟩
        cases before with
        | nil => exact absurd habove hless
        | cons e before =>
          exact ⟨before, after, (List.cons.inj heq).2,
            fun n hn => hpasses (n + 1) (Nat.succ_lt_succ hn), habove⟩

theorem firstAbove?_eq_none_iff :
    firstAbove? bucket start entries = none ↔
      ∀ n < entries.length, bucket.less (addShares start (entries.take (n + 1))) = false := by
  induction entries generalizing start with
  | nil => simp [firstAbove?]
  | cons head rest ih =>
    rw [firstAbove?]
    by_cases hless : bucket.less (start.add (weightShare head.weight)) = true
    · rw [if_pos hless]
      exact iff_of_false nofun fun h => Bool.eq_false_iff.1 (h 0 (Nat.succ_pos _)) hless
    · rw [if_neg hless, ih]
      constructor
      · intro h n hn
        cases n with
        | zero => exact Bool.eq_false_iff.2 hless
        | succ n => exact h n (Nat.lt_of_succ_lt_succ hn)
      · exact fun h n hn => h (n + 1) (Nat.succ_lt_succ hn)

/-! ## The entry for a bucket -/

/-- The entry is the one for a bucket: no shares before it add up to more, and its own makes them
exceed the bucket, unless it is the last. -/
def IsChosen (r : Rollout) (bucket : Single) (entry : WeightedVariation) : Prop :=
  ∃ before after, r.variations = before ++ entry :: after ∧
    (∀ n < before.length, bucket.less (r.share (n + 1)) = false) ∧
    (bucket.less (r.share (before.length + 1)) = true ∨ after = [])

/-- **The entry that is chosen for a bucket** is the first that makes the shares exceed it, or else
the last. -/
theorem choose?_eq_some_iff {r : Rollout} :
    r.choose? bucket = some entry ↔ r.IsChosen bucket entry := by
  rw [choose?]
  cases hfirst : firstAbove? bucket (Binary.ofNat 0) r.variations with
  | some first =>
    obtain ⟨before, after, heq, hpasses, habove⟩ := firstAbove?_eq_some_iff.1 hfirst
    constructor
    · rintro ⟨⟩
      exact ⟨before, after, heq, hpasses, Or.inl habove⟩
    · rintro ⟨before', after', heq', hpasses', habove' | rfl⟩
      · exact hfirst.symm.trans (firstAbove?_eq_some_iff.2 ⟨before', after', heq', hpasses', habove'⟩)
      · -- the last entry is the first that exceeds the bucket, since none before it does
        have hlast : ¬ before.length < before'.length := fun hlt =>
          Bool.eq_false_iff.1 (hpasses' before.length hlt) habove
        have hlengths := congrArg List.length (heq.symm.trans heq')
        simp only [List.length_append, List.length_cons, List.length_nil] at hlengths
        have hsame := List.append_inj_right (heq.symm.trans heq') (by omega)
        exact congrArg some (List.cons.inj hsame).1
  | none =>
    have hnone := firstAbove?_eq_none_iff.1 hfirst
    have hlt : ∀ {before after : List WeightedVariation}, r.variations = before ++ entry :: after →
        before.length < r.variations.length := by
      intro before after heq
      simp [heq]
    change r.variations.getLast? = some entry ↔ _
    rw [List.getLast?_eq_some_iff]
    constructor
    · rintro ⟨before, heq⟩
      exact ⟨before, [], heq, fun n hn => hnone n (Nat.lt_trans hn (hlt heq)), Or.inr rfl⟩
    · rintro ⟨before, after, heq, -, habove | rfl⟩
      · exact absurd habove (Bool.eq_false_iff.1 (hnone _ (hlt heq)))
      · exact ⟨before, heq⟩

end Rollout

/-! ## Selections -/

namespace Flag

variable {f : Flag} {c : Context} {r : Rollout} {entry : WeightedVariation}

/-- The context draws an entry of a rollout of the flag: it is the one for the bucket of the context
in the rollout. -/
def Draws (f : Flag) (c : Context) (r : Rollout) (entry : WeightedVariation) : Prop :=
  ∃ bucket, c.bucket r.contextKind r.bucketBy (r.saltText f.key f.salt) r.isExperiment =
    .ok (some bucket) ∧ r.IsChosen bucket entry

/-- A context draws one entry at most. -/
theorem Draws.unique {entry' : WeightedVariation} (h : f.Draws c r entry)
    (h' : f.Draws c r entry') : entry = entry' := by
  obtain ⟨bucket, hbucket, hchosen⟩ := h
  obtain ⟨bucket', hbucket', hchosen'⟩ := h'
  obtain rfl : bucket = bucket' := by
    rw [hbucket] at hbucket'
    cases hbucket'
    rfl
  rw [← Rollout.choose?_eq_some_iff] at hchosen hchosen'
  exact Option.some.inj (hchosen.symm.trans hchosen')

/-- **A rollout selects** the variation of the entry that the context draws, and counts it if it is
an experiment and the entry is not untracked. -/
theorem select_rollout_eq_ok_iff {selection : Selection} :
    f.select (.rollout r) c = .ok selection ↔
      ∃ entry, f.Draws c r entry ∧
        selection = ⟨entry.variation, r.isExperiment && !entry.untracked⟩ := by
  rw [select, Outcome.select]
  constructor
  · intro h
    split at h
    · cases h
    · split at h
      · cases h
      · cases h
      · next bucket hbucket =>
        split at h
        · cases h
        · next entry hchosen =>
          cases h
          exact ⟨entry, ⟨bucket, hbucket, Rollout.choose?_eq_some_iff.1 hchosen⟩, rfl⟩
  · rintro ⟨entry, ⟨bucket, hbucket, hchosen⟩, rfl⟩
    have hnonempty : ¬ r.variations.isEmpty = true := by
      obtain ⟨before, after, heq, -⟩ := hchosen
      simp [heq]
    rw [if_neg hnonempty]
    simp only [hbucket, Rollout.choose?_eq_some_iff.2 hchosen]

end Flag

end FeatureFlags
