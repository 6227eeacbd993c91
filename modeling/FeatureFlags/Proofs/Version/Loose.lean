import FeatureFlags.Attribute.Value
import FeatureFlags.Proofs.Version.Grammar

/-!
# Texts of versions with core numbers missing

A text is read at most twice: as it is, and with zeros put in where its core ends.  The second time
would be enough.  A core with all three numbers has no place for a zero, so a full text is left as
it is.

Where the core ends is found with digits of all scripts, while numbers are read with ASCII digits.
That makes no difference in the end.  Zeros are put in behind the first runs of digits, and the cut
between these runs and what follows them is the only one; so if the result is read, its numbers are
those runs, and only ASCII digits have been among them.

## What is here

* `Version.IsCore`, `Version.complete?_eq_some_iff`: where zeros are put in.
* `Version.ofChars?_eq_some_iff`: the texts that are versions.
* `AttributeValue.toVersion?_exact`: the theorem.
-/

set_option autoImplicit false

namespace FeatureFlags

/-- The version that a text stands for: missing numbers are zero, and build metadata is dropped. -/
def WrittenVersion.version (t : WrittenVersion) : Version where
  major := t.core.getD 0 0
  minor := t.core.getD 1 0
  patch := t.core.getD 2 0
  preRelease := t.preRelease
  build := []

namespace Version

variable {p : Char → Bool} {s s' rest rest' : List Char} {core core' runs runs' : List (List Char)}

/-! ## Cores -/

/-- Digits pass a test, and none of the signs that stand between the pieces of a version does. -/
structure IsDigitTest (p : Char → Bool) : Prop where
  /-- ASCII digits pass. -/
  digit : ∀ c, c.isDigit = true → p c = true
  /-- Points do not pass. -/
  point : p '.' = false
  /-- Hyphens do not pass. -/
  hyphen : p '-' = false
  /-- Plus signs do not pass. -/
  plus : p '+' = false

/-- A run is not empty, and its characters pass a test. -/
def IsRun (p : Char → Bool) (run : List Char) : Prop := run ≠ [] ∧ ∀ c ∈ run, p c = true

/-- A text does not continue a core: it begins neither with a digit nor with a point and a digit. -/
def EndsCore (p : Char → Bool) (rest : List Char) : Prop :=
  Text.Ends p rest ∧ ∀ tail, rest = '.' :: tail → Text.Ends p tail

/-- A core of up to three runs stands before a text that does not continue it.  After three runs
there may be a point. -/
structure IsCore (p : Char → Bool) (core : List (List Char)) (rest : List Char) : Prop where
  /-- There is a first run. -/
  ne_nil : core ≠ []
  /-- There are at most three. -/
  length_le : core.length ≤ 3
  /-- They are runs. -/
  isRun : ∀ run ∈ core, IsRun p run
  /-- The last run ends. -/
  ends : Text.Ends p rest
  /-- There is no further run. -/
  endsCore : core.length < 3 → EndsCore p rest

theorem isDigitTest_ascii : IsDigitTest Char.isDigit := ⟨fun _ h => h, rfl, rfl, rfl⟩

theorem isDigitTest_isDigit : IsDigitTest isDigit := by
  refine ⟨fun c h => ?_, by decide, by decide, by decide⟩
  have hascii := Text.isDigit_iff_toNat.1 h
  rw [isDigit, if_pos (by omega)]
  exact h

/-- A text that does not continue a core is no point with a run behind it. -/
theorem EndsCore.ne_point_run (h : EndsCore p rest) {run tail : List Char} (hrun : IsRun p run) :
    rest ≠ '.' :: (run ++ tail) := by
  intro heq
  obtain ⟨c, run, rfl⟩ := List.exists_cons_of_ne_nil hrun.1
  have hc := h.2 _ heq c rfl
  rw [hrun.2 c List.mem_cons_self] at hc
  cases hc

theorem ends_point_runs (hpoint : p '.' = false) (hrest : Text.Ends p rest) :
    Text.Ends p (runs.flatMap ('.' :: ·) ++ rest) := by
  cases runs with
  | nil => exact hrest
  | cons run runs => exact Text.ends_cons_iff.2 hpoint

/-- **Runs with points before them are cut off in one way only**, unless one text has more of them
and the other one continues. -/
theorem point_runs_inj (hpoint : p '.' = false) (hruns : ∀ run ∈ runs, IsRun p run)
    (hruns' : ∀ run ∈ runs', IsRun p run) (hrest : Text.Ends p rest) (hrest' : Text.Ends p rest')
    (hends : runs.length < runs'.length → EndsCore p rest)
    (hends' : runs'.length < runs.length → EndsCore p rest')
    (h : runs.flatMap ('.' :: ·) ++ rest = runs'.flatMap ('.' :: ·) ++ rest') :
    runs = runs' ∧ rest = rest' := by
  induction runs generalizing runs' with
  | nil =>
    cases runs' with
    | nil => exact ⟨rfl, h⟩
    | cons run' runs' =>
      rw [List.flatMap_cons, List.append_assoc] at h
      exact absurd h ((hends (Nat.succ_pos _)).ne_point_run (hruns' run' List.mem_cons_self))
  | cons run runs ih =>
    cases runs' with
    | nil =>
      rw [List.flatMap_cons, List.append_assoc] at h
      exact absurd h.symm ((hends' (Nat.succ_pos _)).ne_point_run (hruns run List.mem_cons_self))
    | cons run' runs' =>
      obtain ⟨hrun, htailruns⟩ := List.forall_mem_cons.1 hruns
      obtain ⟨hrun', htailruns'⟩ := List.forall_mem_cons.1 hruns'
      simp only [List.flatMap_cons, List.cons_append, List.append_assoc, List.cons.injEq,
        true_and] at h
      obtain ⟨rfl, htail⟩ := Text.run_inj hrun.2 (ends_point_runs hpoint hrest) hrun'.2
        (ends_point_runs hpoint hrest') h
      obtain ⟨rfl, hresteq⟩ := ih htailruns htailruns' (fun hlt => hends (Nat.succ_lt_succ hlt))
        (fun hlt => hends' (Nat.succ_lt_succ hlt)) htail
      exact ⟨rfl, hresteq⟩

theorem coreText_cons (run : List Char) :
    coreText (run :: runs) = run ++ runs.flatMap ('.' :: ·) :=
  Text.intercalate_cons

/-- **A core is cut off in one way only.** -/
theorem IsCore.inj (hpoint : p '.' = false) (h : IsCore p core rest) (h' : IsCore p core' rest')
    (heq : coreText core ++ rest = coreText core' ++ rest') : core = core' ∧ rest = rest' := by
  obtain ⟨run, runs, rfl⟩ := List.exists_cons_of_ne_nil h.ne_nil
  obtain ⟨run', runs', rfl⟩ := List.exists_cons_of_ne_nil h'.ne_nil
  obtain ⟨hrun, hruns⟩ := List.forall_mem_cons.1 h.isRun
  obtain ⟨hrun', hruns'⟩ := List.forall_mem_cons.1 h'.isRun
  rw [coreText_cons, coreText_cons, List.append_assoc, List.append_assoc] at heq
  obtain ⟨rfl, htail⟩ := Text.run_inj hrun.2 (ends_point_runs hpoint h.ends) hrun'.2
    (ends_point_runs hpoint h'.ends) heq
  obtain ⟨rfl, hresteq⟩ := point_runs_inj hpoint hruns hruns' h.ends h'.ends
    (fun hlt => h.endsCore (Nat.lt_of_lt_of_le (Nat.succ_lt_succ hlt) h'.length_le))
    (fun hlt => h'.endsCore (Nat.lt_of_lt_of_le (Nat.succ_lt_succ hlt) h.length_le)) htail
  exact ⟨rfl, hresteq⟩

/-! ## Putting zeros in -/

/-- Runs are found again where they have been put. -/
theorem pointedRuns_append {count : Nat} (hlength : runs.length ≤ count)
    (hruns : ∀ run ∈ runs, IsRun isDigit run) (hrest : Text.Ends isDigit rest)
    (hends : runs.length < count → EndsCore isDigit rest) :
    pointedRuns count (runs.flatMap ('.' :: ·) ++ rest) = (runs, rest) := by
  induction runs generalizing count with
  | nil =>
    rw [List.flatMap_nil, List.nil_append, pointedRuns.eq_def]
    split
    · next count tail =>
      have htail : tail.span isDigit = ([], tail) :=
        Text.span_eq_iff.2 ⟨rfl, nofun, (hends (Nat.succ_pos _)).2 tail rfl⟩
      simp only [htail, List.isEmpty_nil, if_true]
    · rfl
  | cons run runs ih =>
    obtain ⟨count, rfl⟩ := Nat.exists_eq_succ_of_ne_zero (Nat.ne_of_gt (Nat.zero_lt_of_lt hlength))
    obtain ⟨hrun, htailruns⟩ := List.forall_mem_cons.1 hruns
    have htail : Text.Ends isDigit (runs.flatMap ('.' :: ·) ++ rest) :=
      ends_point_runs (by decide) hrest
    have hspan := Text.span_append hrun.2 htail
    have hmore := ih (Nat.le_of_succ_le_succ hlength) htailruns fun hlt =>
      hends (Nat.succ_lt_succ hlt)
    rw [List.flatMap_cons, List.append_assoc, List.cons_append, pointedRuns]
    simp only [hspan, hmore, List.isEmpty_eq_false_iff.2 hrun.1, Bool.false_eq_true, if_false]

/-- Every text that does not begin with a digit falls into runs and a rest. -/
theorem exists_point_runs (count : Nat) (h : Text.Ends isDigit s) :
    ∃ (runs : List (List Char)) (rest : List Char), s = runs.flatMap ('.' :: ·) ++ rest ∧
      runs.length ≤ count ∧ (∀ run ∈ runs, IsRun isDigit run) ∧ Text.Ends isDigit rest ∧
      (runs.length < count → EndsCore isDigit rest) := by
  induction count generalizing s with
  | zero => exact ⟨[], s, rfl, Nat.le_refl 0, nofun, h, nofun⟩
  | succ count ih =>
    by_cases hends : EndsCore isDigit s
    · exact ⟨[], s, rfl, Nat.zero_le _, nofun, h, fun _ => hends⟩
    · obtain ⟨tail, rfl, htail⟩ : ∃ tail, s = '.' :: tail ∧ ¬ Text.Ends isDigit tail := by
        simpa [EndsCore, h] using hends
      obtain ⟨run, rest, hspan⟩ : ∃ run rest, tail.span isDigit = (run, rest) := ⟨_, _, rfl⟩
      obtain ⟨rfl, hrun, hrest⟩ := Text.span_eq_iff.1 hspan
      have hne : run ≠ [] := by
        rintro rfl
        exact htail hrest
      obtain ⟨runs, rest, rfl, hlength, hruns, hrest, hclosed⟩ := ih hrest
      exact ⟨run :: runs, rest, by simp, Nat.succ_le_succ hlength,
        List.forall_mem_cons.2 ⟨⟨hne, hrun⟩, hruns⟩, hrest,
        fun hlt => hclosed (Nat.lt_of_succ_lt_succ hlt)⟩

/-- A core with zeros for the runs that are missing. -/
def padded (core : List (List Char)) : List (List Char) :=
  core ++ List.replicate (3 - core.length) ['0']

/-- Zeros make a core of three runs. -/
theorem IsCore.padded (hp : IsDigitTest p) (h : IsCore p core rest) :
    IsCore p (padded core) rest := by
  have hlength : (Version.padded core).length = 3 := by
    rw [Version.padded, List.length_append, List.length_replicate]
    exact Nat.add_sub_of_le h.length_le
  refine ⟨List.append_ne_nil_of_left_ne_nil h.ne_nil _, Nat.le_of_eq hlength, ?_, h.ends,
    fun hlt => absurd hlength (Nat.ne_of_lt hlt)⟩
  refine List.forall_mem_append.2 ⟨h.isRun, fun run hrun => ?_⟩
  rw [List.eq_of_mem_replicate hrun]
  exact ⟨List.cons_ne_nil _ _, List.forall_mem_singleton.2 (hp.digit '0' rfl)⟩

theorem complete?_coreText (h : IsCore isDigit core rest) :
    complete? (coreText core ++ rest) = some (coreText (padded core) ++ rest) := by
  obtain ⟨run, runs, rfl⟩ := List.exists_cons_of_ne_nil h.ne_nil
  obtain ⟨hrun, htailruns⟩ := List.forall_mem_cons.1 h.isRun
  have htail : Text.Ends isDigit (runs.flatMap ('.' :: ·) ++ rest) :=
    ends_point_runs (by decide) h.ends
  have hspan := Text.span_append hrun.2 htail
  have hmore : pointedRuns 2 (runs.flatMap ('.' :: ·) ++ rest) = (runs, rest) :=
    pointedRuns_append (Nat.le_of_succ_le_succ h.length_le) htailruns h.ends fun hlt =>
      h.endsCore (Nat.succ_lt_succ hlt)
  have hzeros : 3 - (run :: runs).length = 2 - runs.length := by
    rw [List.length_cons]
    omega
  rw [coreText_cons, List.append_assoc, complete?, padded, hzeros]
  simp only [hspan, hmore, List.isEmpty_eq_false_iff.2 hrun.1, Bool.false_eq_true, if_false]
  rfl

/-- **Zeros are put in at the end of the core**, if there is one. -/
theorem complete?_eq_some_iff :
    complete? s = some s' ↔
      ∃ core rest, IsCore isDigit core rest ∧ s = coreText core ++ rest ∧
        s' = coreText (padded core) ++ rest := by
  constructor
  · intro h
    obtain ⟨run, tail, hspan⟩ : ∃ run tail, s.span isDigit = (run, tail) := ⟨_, _, rfl⟩
    obtain ⟨rfl, hrun, htail⟩ := Text.span_eq_iff.1 hspan
    by_cases hne : run = []
    · subst hne
      rw [complete?] at h
      simp only [hspan, List.isEmpty_nil, if_true] at h
      cases h
    · obtain ⟨runs, rest, rfl, hlength, hruns, hrest, hclosed⟩ := exists_point_runs 2 htail
      have hcore : IsCore isDigit (run :: runs) rest :=
        ⟨List.cons_ne_nil run runs, Nat.succ_le_succ hlength,
          List.forall_mem_cons.2 ⟨⟨hne, hrun⟩, hruns⟩, hrest,
          fun hlt => hclosed (Nat.lt_of_succ_lt_succ hlt)⟩
      have htext : run ++ (runs.flatMap ('.' :: ·) ++ rest) = coreText (run :: runs) ++ rest := by
        rw [coreText_cons, List.append_assoc]
      rw [htext, complete?_coreText hcore, Option.some.injEq] at h
      exact ⟨run :: runs, rest, hcore, htext, h.symm⟩
  · rintro ⟨core, rest, hcore, rfl, rfl⟩
    exact complete?_coreText hcore

/-! ## Numbers of a core -/

theorem endsCore_suffixText (hp : IsDigitTest p) (pre : List PreReleaseId) (build : List String) :
    EndsCore p (suffixText pre build) := by
  refine ⟨ends_suffixText hp.hyphen hp.plus pre build, fun tail htail => ?_⟩
  have hpoint := ends_suffixText (p := (· == '.')) (by decide) (by decide) pre build
  rw [htail] at hpoint
  exact absurd (Text.ends_cons_iff.1 hpoint) (by decide)

/-- The digits of up to three numbers are a core. -/
theorem isCore_toDigits (hp : IsDigitTest p) {numbers : List Nat} (hne : numbers ≠ [])
    (hlength : numbers.length ≤ 3) (hrest : EndsCore p rest) :
    IsCore p (numbers.map (Nat.toDigits 10)) rest where
  ne_nil := by simpa using hne
  length_le := by simpa using hlength
  isRun := List.forall_mem_map.2 fun n _ =>
    ⟨Text.toDigits_ne_nil n, fun c hc => hp.digit c (Text.isDigit_of_mem_toDigits c hc)⟩
  ends := hrest.1
  endsCore _ := hrest

/-- Missing numbers are zero. -/
theorem padded_toDigits {numbers : List Nat} (hne : numbers ≠ []) (hlength : numbers.length ≤ 3) :
    padded (numbers.map (Nat.toDigits 10)) =
      [numbers.getD 0 0, numbers.getD 1 0, numbers.getD 2 0].map (Nat.toDigits 10) := by
  have hzero : Nat.toDigits 10 0 = ['0'] := Nat.toDigits_of_lt_base (by decide)
  match numbers, hne, hlength with
  | [_], _, _ => simp [padded, List.replicate, hzero]
  | [_, _], _, _ => simp [padded, hzero]
  | [_, _, _], _, _ => rfl

/-- If zeros complete a core to three numbers, it consists of the first of them, and the missing
ones are zero. -/
theorem exists_numbers_of_padded (hne : core ≠ []) {a b c : Nat}
    (h : padded core = [a, b, c].map (Nat.toDigits 10)) :
    ∃ numbers : List Nat, core = numbers.map (Nat.toDigits 10) ∧
      numbers ≠ [] ∧ numbers.length ≤ 3 ∧ (∀ n ∈ numbers, n ∈ [a, b, c]) ∧
      [numbers.getD 0 0, numbers.getD 1 0, numbers.getD 2 0] = [a, b, c] := by
  have hzero {n : Nat} (h : ['0'] = Nat.toDigits 10 n) : n = 0 := by
    rw [← Text.number_toDigits n, ← h]
    rfl
  match core, hne with
  | [_], _ =>
    simp only [padded, List.length_singleton, Nat.reduceSub, List.replicate_succ,
      List.replicate_zero, List.singleton_append, List.map_cons, List.map_nil, List.cons.injEq,
      and_true] at h
    obtain ⟨rfl, hb, hc⟩ := h
    exact ⟨[a], rfl, by simp, by simp, by simp, by simp [hzero hb, hzero hc]⟩
  | [_, _], _ =>
    simp only [padded, List.length_cons, List.length_nil, Nat.reduceAdd, Nat.reduceSub,
      List.replicate_succ, List.replicate_zero, List.cons_append, List.nil_append, List.map_cons,
      List.map_nil, List.cons.injEq, and_true] at h
    obtain ⟨rfl, rfl, hc⟩ := h
    exact ⟨[a, b], rfl, by simp, by simp, by simp, by simp [hzero hc]⟩
  | [_, _, _], _ =>
    simp only [padded, List.length_cons, List.length_nil, Nat.reduceAdd, Nat.sub_self,
      List.replicate_zero, List.append_nil, List.map_cons, List.map_nil, List.cons.injEq,
      and_true] at h
    obtain ⟨rfl, rfl, rfl⟩ := h
    exact ⟨[a, b, c], rfl, by simp, by simp, by simp, rfl⟩
  | _ :: _ :: _ :: _ :: _, _ => simp [padded] at h

/-! ## The texts that are versions -/

theorem toList_toString (v : Version) :
    v.toString.toList = coreText ([v.major, v.minor, v.patch].map (Nat.toDigits 10)) ++
      suffixText v.preRelease v.build :=
  toList_textOf _ _ _

/-- The numbers of a full text are a core. -/
theorem isCore_full (v : Version) :
    IsCore isDigit ([v.major, v.minor, v.patch].map (Nat.toDigits 10))
      (suffixText v.preRelease v.build) :=
  isCore_toDigits isDigitTest_isDigit (by simp) (by simp)
    (endsCore_suffixText isDigitTest_isDigit _ _)

/-- Nothing is put into a full text. -/
theorem complete?_of_full {v : Version} (h : ofFullText? s = some v) : complete? s = some s := by
  obtain ⟨-, rfl⟩ := ofFullText?_eq_some_iff.1 h
  rw [toList_toString]
  exact complete?_coreText (isCore_full v)

/-- **The second reading is enough.** -/
theorem ofChars?_eq (s : List Char) :
    ofChars? s = ((complete? s).bind ofFullText?).map fun v => { v with build := [] } := by
  rw [ofChars?]
  cases h : ofFullText? s with
  | none => rfl
  | some v =>
    rw [complete?_of_full h, Option.bind_some, h]
    rfl

/-- The version of a text can be written in full, with any build metadata. -/
theorem written_version_wellFormed {t : WrittenVersion} (h : t.WellFormed) {build : List String}
    (hbuild : ∀ id ∈ build, IsIdentifier id.toList) :
    ({ t.version with build } : Version).written.WellFormed := by
  have hget : ∀ i, t.core.getD i 0 < numberBound := fun i => by
    rw [List.getD_eq_getElem?_getD]
    cases hi : t.core[i]? with
    | none => exact Nat.two_pow_pos 64
    | some n => exact h.number_lt n (List.mem_of_getElem? hi)
  exact written_wellFormed_iff.2 ⟨hget 0, hget 1, hget 2, h.preRelease, hbuild⟩

/-- **A text is a version exactly if it is written as one**, with core numbers missing or not. -/
theorem ofChars?_eq_some_iff {v : Version} :
    ofChars? s = some v ↔
      ∃ t : WrittenVersion, t.WellFormed ∧ s = t.text.toList ∧ v = t.version := by
  simp only [ofChars?_eq, Option.map_eq_some_iff, Option.bind_eq_some_iff, complete?_eq_some_iff,
    ofFullText?_eq_some_iff, WrittenVersion.text, toList_textOf, toList_toString]
  constructor
  · rintro ⟨w, ⟨_, ⟨core, rest, hcore, rfl, rfl⟩, hw, heq⟩, rfl⟩
    obtain ⟨hpadded, rfl⟩ := (hcore.padded isDigitTest_isDigit).inj rfl (isCore_full w) heq
    obtain ⟨numbers, rfl, hne, hle, hmem, hnumbers⟩ :=
      exists_numbers_of_padded hcore.ne_nil hpadded
    simp only [List.cons.injEq, and_true] at hnumbers
    refine ⟨⟨numbers, w.preRelease, w.build⟩,
      ⟨hne, hle, fun n hn => hw.number_lt n (hmem n hn), hw.preRelease, hw.build⟩, rfl, ?_⟩
    rw [WrittenVersion.version, hnumbers.1, hnumbers.2.1, hnumbers.2.2]
  · rintro ⟨t, ht, rfl, rfl⟩
    have hcore := isCore_toDigits isDigitTest_isDigit ht.core_ne_nil ht.length_core
      (endsCore_suffixText isDigitTest_isDigit t.preRelease t.build)
    refine ⟨{ t.version with build := t.build }, ⟨_, ⟨_, _, hcore, rfl, rfl⟩,
      written_version_wellFormed ht ht.build, ?_⟩, rfl⟩
    rw [padded_toDigits ht.core_ne_nil ht.length_core]
    rfl

theorem ofString?_eq_some_iff {s : String} {v : Version} :
    ofString? s = some v ↔ ∃ t : WrittenVersion, t.WellFormed ∧ s = t.text ∧ v = t.version := by
  simp only [ofString?, ofChars?_eq_some_iff, String.toList_inj]

/-- What has been read is read again in full. -/
theorem ofString?_toString {s : String} {v : Version} (h : ofString? s = some v) :
    ofString? v.toString = some v := by
  obtain ⟨t, ht, -, rfl⟩ := ofString?_eq_some_iff.1 h
  exact ofString?_eq_some_iff.2
    ⟨t.version.written, written_version_wellFormed ht nofun, rfl, rfl⟩

/-! ## Zeros that are written -/

/-- The text of a core with something after it. -/
theorem toList_core_append (core : List Nat) (rest : String) :
    (".".intercalate (core.map ToString.toString) ++ rest).toList =
      coreText (core.map (Nat.toDigits 10)) ++ rest.toList := by
  simp [coreText, Function.comp_def]

theorem toList_core_zero {core : List Nat} (hne : core ≠ []) (rest : String) :
    (".".intercalate (core.map ToString.toString) ++ ".0" ++ rest).toList =
      coreText ((core ++ [0]).map (Nat.toDigits 10)) ++ rest.toList := by
  obtain ⟨n, core, rfl⟩ := List.exists_cons_of_ne_nil hne
  have hzero : Nat.toDigits 10 0 = ['0'] := Nat.toDigits_of_lt_base (by decide)
  rw [String.append_assoc, toList_core_append, List.cons_append, List.map_cons, List.map_cons,
    coreText_cons, coreText_cons]
  simp [hzero]

/-- A text of which the core is known is a version with this core. -/
theorem ofChars?_core_iff {core : List Nat} (hne : core ≠ []) (hlength : core.length ≤ 3)
    (hrest : EndsCore Char.isDigit rest) {v : Version} :
    ofChars? (coreText (core.map (Nat.toDigits 10)) ++ rest) = some v ↔
      ∃ t : WrittenVersion, t.WellFormed ∧ core = t.core ∧
        rest = suffixText t.preRelease t.build ∧ v = t.version := by
  rw [ofChars?_eq_some_iff]
  refine exists_congr fun t => and_congr_right fun ht => ?_
  rw [← and_assoc]
  refine and_congr_left fun _ => ?_
  rw [WrittenVersion.text, toList_textOf]
  refine ⟨fun heq => ?_, fun ⟨hcore, hsuffix⟩ => by rw [hcore, hsuffix]⟩
  have hcore := isCore_toDigits isDigitTest_ascii hne hlength hrest
  have hcore' := isCore_toDigits isDigitTest_ascii ht.core_ne_nil ht.length_core
    (endsCore_suffixText isDigitTest_ascii t.preRelease t.build)
  obtain ⟨hnumbers, hsuffix⟩ := hcore.inj rfl hcore' heq
  exact ⟨List.map_injective_iff.2 (fun _ _ => Text.toDigits_inj) hnumbers, hsuffix⟩

/-- **A zero after the last number of a core makes no difference.** -/
theorem ofChars?_core_zero {core : List Nat} (hne : core ≠ []) (hlength : core.length < 3)
    (hrest : EndsCore Char.isDigit rest) :
    ofChars? (coreText ((core ++ [0]).map (Nat.toDigits 10)) ++ rest) =
      ofChars? (coreText (core.map (Nat.toDigits 10)) ++ rest) := by
  have hget : ∀ i, (core ++ [0]).getD i 0 = core.getD i 0 := fun i => by
    simp only [List.getD_eq_getElem?_getD, List.getElem?_append]
    grind
  have hlengthZero : (core ++ [0]).length ≤ 3 := by
    rw [List.length_append]
    exact hlength
  refine Option.ext fun v => ?_
  rw [ofChars?_core_iff (by simp) hlengthZero hrest,
    ofChars?_core_iff hne (Nat.le_of_lt hlength) hrest]
  constructor
  · rintro ⟨t, ht, hcore, hsuffix, rfl⟩
    refine ⟨{ t with core }, ⟨hne, Nat.le_of_lt hlength, fun n hn => ?_, ht.preRelease, ht.build⟩,
      rfl, hsuffix, ?_⟩
    · exact ht.number_lt n (hcore ▸ List.mem_append_left _ hn)
    · simp only [WrittenVersion.version, ← hcore, hget]
  · rintro ⟨t, ht, rfl, hsuffix, rfl⟩
    refine ⟨{ t with core := t.core ++ [0] }, ⟨by simp, hlengthZero, ?_, ht.preRelease, ht.build⟩,
      rfl, hsuffix, ?_⟩
    · exact List.forall_mem_append.2
        ⟨ht.number_lt, List.forall_mem_singleton.2 (Nat.two_pow_pos 64)⟩
    · simp only [WrittenVersion.version, hget]

end Version

namespace AttributeValue

/-- **Versions are read exactly.**  A text is a version just if it consists of one, two or three
numbers of 64 bits without superfluous zeros, and possibly a pre-release and build metadata; the
version has these numbers, zeros for missing ones, the pre-release and no build metadata.  It is
read again from its full text, and a zero that is written for a missing number changes nothing,
whatever follows it.  Values other than texts are no versions. -/
theorem toVersion?_exact :
    (∀ (s : String) (v : Version), (string s).toVersion? = some v ↔
      ∃ t : WrittenVersion, t.WellFormed ∧ s = t.text ∧ v = t.version) ∧
    (∀ (s : String) (v : Version), (string s).toVersion? = some v →
      (string v.toString).toVersion? = some v) ∧
    (∀ (core : List Nat) (rest : String), core ≠ [] → core.length < 3 →
      Version.EndsCore Char.isDigit rest.toList →
      let text := ".".intercalate (core.map toString)
      (string (text ++ ".0" ++ rest)).toVersion? = (string (text ++ rest)).toVersion?) ∧
    ∀ v : AttributeValue, v.asString? = none → v.toVersion? = none := by
  refine ⟨fun s v => Version.ofString?_eq_some_iff, fun s v h => Version.ofString?_toString h,
    fun core rest hne hlength hrest => ?_, fun v hv => ?_⟩
  · simp only [toVersion?, Version.ofString?, Version.toList_core_zero hne,
      Version.toList_core_append]
    exact Version.ofChars?_core_zero hne hlength hrest
  · cases v with
    | string s => cases hv
    | _ => rfl

/-- A version without a patch number, but with a pre-release and build metadata. -/
theorem toVersion?_exact_candidate :
    let candidate : Version := ⟨2, 1, 0, [.word "rc", .number 1], []⟩
    (string "2.1-rc.1+007").toVersion? = some candidate ∧
      (string "2.1.0-rc.1").toVersion? = some candidate ∧
      (string "2.1.0-rc.1+007").toVersion? = some candidate ∧
      (string "2.1.0.0-rc.1+007").toVersion? = none ∧ (number Binary.zero).toVersion? = none := by
  intro candidate
  obtain ⟨hread, hfull, hzero, hother⟩ := toVersion?_exact
  have hcandidate : (string "2.1-rc.1+007").toVersion? = some candidate :=
    (hread _ candidate).2 ⟨⟨[2, 1], [.word "rc", .number 1], ["007"]⟩, by decide +kernel,
      by decide +kernel, rfl⟩
  have htext : candidate.toString = "2.1.0-rc.1" := by decide +kernel
  have hends : Version.EndsCore Char.isDigit "-rc.1+007".toList := by
    simp [Version.EndsCore, Text.Ends]
  refine ⟨hcandidate, htext ▸ hfull _ candidate hcandidate, ?_, by decide +kernel,
    hother _ rfl⟩
  exact (hzero [2, 1] "-rc.1+007" (by decide) (by decide) hends).trans hcandidate

end AttributeValue

end FeatureFlags
