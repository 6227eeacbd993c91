import FeatureFlags.Proofs.Text.Pieces
import FeatureFlags.Version

/-!
# The texts of full versions

A full version is read as far as the pieces of a version can reach: a core number ends where the
digits end, the core where no point follows, a pre-release at the first plus sign.  None of these
signs is part of the piece before it, so reading undoes writing.  Conversely each piece is written
in one way only, since numbers have no superfluous leading zeros, and a number among the identifiers
of a pre-release cannot be mistaken for a word.  So a text is read exactly if it is the text of a
version that can be written.

## What is here

* `WrittenVersion`, `WrittenVersion.WellFormed`: the parts of a text, and which of them can stand
  there.  The core may have one, two or three numbers.
* `Version.coreNumber?_eq_some_iff`, `suffix?_eq_some_iff`: the pieces, read and written.
* `Version.ofFullText?_eq_some_iff`: full texts.
-/

set_option autoImplicit false

namespace FeatureFlags

/-! ## What can be written -/

/-- An identifier is not empty and has letters, digits and hyphens only. -/
def Version.IsIdentifier (id : List Char) : Prop := id ≠ [] ∧ ∀ c ∈ id, Version.idChar c = true

/-- A number can always be written; a word has the characters of identifiers, not only digits. -/
def PreReleaseId.WellFormed : PreReleaseId → Prop
  | number _ => True
  | word s => (∀ c ∈ s.toList, Version.idChar c = true) ∧ ∃ c ∈ s.toList, c.isDigit = false

-- the characters of a list are looked through, and not all characters there are
instance (id : List Char) : Decidable (Version.IsIdentifier id) :=
  have : Decidable (∀ c ∈ id, Version.idChar c = true) := List.decidableBAll _ id
  inferInstanceAs (Decidable (_ ∧ _))

instance : (id : PreReleaseId) → Decidable id.WellFormed
  | .number _ => .isTrue trivial
  | .word s =>
    have : Decidable (∀ c ∈ s.toList, Version.idChar c = true) := List.decidableBAll _ s.toList
    have : Decidable (∃ c ∈ s.toList, c.isDigit = false) := List.decidableBEx _ s.toList
    inferInstanceAs (Decidable (_ ∧ _))

/-- A text of a version, cut into its parts. -/
structure WrittenVersion where
  core : List Nat
  preRelease : List PreReleaseId
  build : List String

namespace WrittenVersion

/-- The text with these parts. -/
def text (t : WrittenVersion) : String := Version.textOf t.core t.preRelease t.build

/-- The core has up to three numbers of 64 bits.  What follows the marks for pre-release and build
metadata, if there is a mark, are identifiers. -/
structure WellFormed (t : WrittenVersion) : Prop where
  /-- There is a first number. -/
  core_ne_nil : t.core ≠ []
  /-- There are at most three. -/
  length_core : t.core.length ≤ 3
  /-- Each has 64 bits. -/
  number_lt : ∀ n ∈ t.core, n < Version.numberBound
  /-- The identifiers of the pre-release can be written. -/
  preRelease : ∀ id ∈ t.preRelease, id.WellFormed
  /-- So can those of the build metadata. -/
  build : ∀ id ∈ t.build, Version.IsIdentifier id.toList

instance (t : WrittenVersion) : Decidable t.WellFormed :=
  decidable_of_iff (t.core ≠ [] ∧ t.core.length ≤ 3 ∧ (∀ n ∈ t.core, n < Version.numberBound) ∧
      (∀ id ∈ t.preRelease, id.WellFormed) ∧ ∀ id ∈ t.build, Version.IsIdentifier id.toList)
    ⟨fun ⟨hne, hlength, hlt, hpre, hbuild⟩ => ⟨hne, hlength, hlt, hpre, hbuild⟩,
      fun h => ⟨h.core_ne_nil, h.length_core, h.number_lt, h.preRelease, h.build⟩⟩

end WrittenVersion

namespace Version

/-- The parts of the full text of a version. -/
def written (v : Version) : WrittenVersion := ⟨[v.major, v.minor, v.patch], v.preRelease, v.build⟩

variable {s rest part : List Char} {parts : List (List Char)}

/-! ## Core numbers -/

theorem noLeadingZero_iff {digits : List Char} :
    noLeadingZero digits = true ↔ digits.length ≤ 1 ∨ digits.head? ≠ some '0' := by
  simp [noLeadingZero]

theorem noLeadingZero_toDigits (n : Nat) : noLeadingZero (Nat.toDigits 10 n) = true := by
  rw [noLeadingZero_iff]
  rcases Nat.eq_zero_or_pos n with rfl | hpos
  · exact Or.inl (Nat.le_refl 1)
  · exact Or.inr (Text.head?_toDigits hpos)

theorem coreNumber?_eq_some_iff {n : Nat} :
    coreNumber? s = some (n, rest) ↔
      n < numberBound ∧ Text.Ends Char.isDigit rest ∧ s = Nat.toDigits 10 n ++ rest := by
  obtain ⟨digits, tail, hspan⟩ : ∃ digits tail, Text.takeDigits s = (digits, tail) := ⟨_, _, rfl⟩
  obtain ⟨rfl, hdigits, htail⟩ := Text.span_eq_iff.1 hspan
  rw [coreNumber?, hspan]
  simp only [Bool.and_eq_true, Bool.not_eq_true', List.isEmpty_eq_false_iff, decide_eq_true_eq,
    Option.ite_none_right_eq_some, Option.some.injEq, Prod.mk.injEq]
  constructor
  · rintro ⟨⟨⟨hne, hzero⟩, hlt⟩, rfl, rfl⟩
    refine ⟨hlt, htail, ?_⟩
    rw [Text.toDigits_number hne hdigits (noLeadingZero_iff.1 hzero)]
  · rintro ⟨hlt, hends, h⟩
    obtain ⟨rfl, rfl⟩ := Text.run_inj hdigits htail Text.isDigit_of_mem_toDigits hends h
    rw [Text.number_toDigits]
    exact ⟨⟨⟨Text.toDigits_ne_nil n, noLeadingZero_toDigits n⟩, hlt⟩, rfl, rfl⟩

theorem point?_eq_some_iff : point? s = some rest ↔ s = '.' :: rest := by
  rw [point?.eq_def]
  split
  · simp [eq_comm]
  · next hne => exact iff_of_false nofun fun h => hne rest h

/-! ## Identifiers -/

theorem idChar_of_isDigit {c : Char} (h : c.isDigit = true) : idChar c = true := by
  simp [idChar, Char.isAlphanum, h]

theorem not_idChar_point : idChar '.' = false := by decide

theorem not_idChar_plus : idChar '+' = false := by decide

theorem identifiers?_eq_some_iff :
    identifiers? s = some parts ↔
      parts ≠ [] ∧ (∀ part ∈ parts, IsIdentifier part) ∧ s = ['.'].intercalate parts := by
  simp only [identifiers?, Option.ite_none_right_eq_some, Option.some.injEq, Text.splitOn_eq_iff,
    List.all_eq_true, Bool.and_eq_true, Bool.not_eq_true', List.isEmpty_eq_false_iff]
  constructor
  · rintro ⟨hall, hne, hpoint, rfl⟩
    rw [List.splitOn_intercalate '.' hpoint hne] at hall
    exact ⟨hne, hall, rfl⟩
  · rintro ⟨hne, hall, rfl⟩
    have hpoint : ∀ part ∈ parts, '.' ∉ part := fun part hpart hmem =>
      Bool.false_ne_true (not_idChar_point.symm.trans ((hall part hpart).2 '.' hmem))
    rw [List.splitOn_intercalate '.' hpoint hne]
    exact ⟨hall, hne, hpoint, rfl⟩

theorem toList_idText_number (n : Nat) : (idText (.number n)).toList = Nat.toDigits 10 n :=
  Nat.toList_repr

theorem isIdentifier_idText {id : PreReleaseId} (h : id.WellFormed) :
    IsIdentifier (idText id).toList := by
  cases id with
  | number n =>
    rw [toList_idText_number]
    exact ⟨Text.toDigits_ne_nil n,
      fun c hc => idChar_of_isDigit (Text.isDigit_of_mem_toDigits c hc)⟩
  | word s =>
    obtain ⟨hchars, c, hc, -⟩ := h
    exact ⟨List.ne_nil_of_mem hc, hchars⟩

/-- An identifier is read as a number if it has only digits, and as a word otherwise. -/
theorem preReleaseId?_eq_some_iff (hpart : IsIdentifier part) {id : PreReleaseId} :
    preReleaseId? part = some id ↔ id.WellFormed ∧ part = (idText id).toList := by
  rw [preReleaseId?]
  by_cases hdigits : part.all Char.isDigit = true
  · rw [if_neg (by simp [hdigits]), Option.ite_none_right_eq_some, Option.some.injEq]
    have hall := List.all_eq_true.1 hdigits
    constructor
    · rintro ⟨hzero, rfl⟩
      refine ⟨trivial, Eq.symm ?_⟩
      exact Nat.toList_repr.trans (Text.toDigits_number hpart.1 hall (noLeadingZero_iff.1 hzero))
    · rintro ⟨hid, rfl⟩
      cases id with
      | number n =>
        rw [toList_idText_number, Text.number_toDigits]
        exact ⟨noLeadingZero_toDigits n, rfl⟩
      | word w =>
        obtain ⟨c, hc, hdigit⟩ := hid.2
        exact absurd (hall c hc) (by simp [hdigit])
  · rw [if_pos (by simp [hdigits]), Option.some.injEq]
    constructor
    · rintro rfl
      have hother : ∃ c ∈ part, c.isDigit = false := by simpa using hdigits
      simpa [PreReleaseId.WellFormed, idText] using And.intro hpart.2 hother
    · rintro ⟨-, rfl⟩
      cases id with
      | number n =>
        rw [toList_idText_number] at hdigits
        exact absurd (List.all_eq_true.2 Text.isDigit_of_mem_toDigits) hdigits
      | word w => exact congrArg PreReleaseId.word String.ofList_toList

theorem mapM_preReleaseId?_eq_some_iff (hparts : ∀ part ∈ parts, IsIdentifier part)
    {ids : List PreReleaseId} :
    parts.mapM preReleaseId? = some ids ↔
      (∀ id ∈ ids, id.WellFormed) ∧ parts = ids.map fun id => (idText id).toList := by
  induction parts generalizing ids with
  | nil => cases ids <;> simp
  | cons part rest ih =>
    obtain ⟨hpart, hrest⟩ := List.forall_mem_cons.1 hparts
    simp only [List.mapM_cons, Option.bind_eq_bind, Option.bind_eq_some_iff, Option.pure_def,
      preReleaseId?_eq_some_iff hpart, ih hrest, Option.some.injEq]
    constructor
    · rintro ⟨id, ⟨hid, rfl⟩, ids, ⟨hids, rfl⟩, rfl⟩
      exact ⟨List.forall_mem_cons.2 ⟨hid, hids⟩, rfl⟩
    · rintro ⟨hids, h⟩
      cases ids with
      | nil => cases h
      | cons id ids =>
        obtain ⟨hid, hids⟩ := List.forall_mem_cons.1 hids
        obtain ⟨rfl, rfl⟩ := List.cons.inj h
        exact ⟨id, ⟨hid, rfl⟩, ids, ⟨hids, rfl⟩, rfl⟩

theorem preRelease?_eq_some_iff {ids : List PreReleaseId} :
    preRelease? s = some ids ↔
      ids ≠ [] ∧ (∀ id ∈ ids, id.WellFormed) ∧
        s = ['.'].intercalate (ids.map fun id => (idText id).toList) := by
  simp only [preRelease?, Option.bind_eq_bind, Option.bind_eq_some_iff, identifiers?_eq_some_iff]
  constructor
  · rintro ⟨parts, ⟨hne, hparts, rfl⟩, hread⟩
    obtain ⟨hids, rfl⟩ := (mapM_preReleaseId?_eq_some_iff hparts).1 hread
    exact ⟨by simpa using hne, hids, rfl⟩
  · rintro ⟨hne, hids, rfl⟩
    have hparts : ∀ part ∈ ids.map fun id => (idText id).toList, IsIdentifier part :=
      List.forall_mem_map.2 fun id hid => isIdentifier_idText (hids id hid)
    exact ⟨_, ⟨by simpa using hne, hparts, rfl⟩,
      (mapM_preReleaseId?_eq_some_iff hparts).2 ⟨hids, rfl⟩⟩

theorem build?_eq_some_iff {ids : List String} :
    build? s = some ids ↔
      ids ≠ [] ∧ (∀ id ∈ ids, IsIdentifier id.toList) ∧
        s = ['.'].intercalate (ids.map String.toList) := by
  simp only [build?, Option.map_eq_some_iff, identifiers?_eq_some_iff]
  constructor
  · rintro ⟨parts, ⟨hne, hparts, rfl⟩, rfl⟩
    refine ⟨by simpa using hne, by simpa using hparts, ?_⟩
    simp [Function.comp_def]
  · rintro ⟨hne, hids, rfl⟩
    refine ⟨_, ⟨by simpa using hne, List.forall_mem_map.2 hids, rfl⟩, ?_⟩
    simp [Function.comp_def]

/-! ## What follows the core -/

theorem toList_marked (mark : String) (ids : List String) :
    (marked mark ids).toList =
      if ids = [] then [] else mark.toList ++ ['.'].intercalate (ids.map String.toList) := by
  cases ids <;> simp [marked]

/-- The characters after the core. -/
def suffixText (pre : List PreReleaseId) (build : List String) : List Char :=
  (marked "-" (pre.map idText)).toList ++ (marked "+" build).toList

theorem suffixText_eq (pre : List PreReleaseId) (build : List String) :
    suffixText pre build =
      (if pre = [] then [] else '-' :: ['.'].intercalate (pre.map fun id => (idText id).toList)) ++
        if build = [] then [] else '+' :: ['.'].intercalate (build.map String.toList) := by
  rw [suffixText, toList_marked, toList_marked]
  simp [Function.comp_def]

/-- There is no plus sign in a pre-release. -/
theorem bne_plus_of_mem_preRelease {ids : List PreReleaseId} (h : ∀ id ∈ ids, id.WellFormed) :
    ∀ c ∈ ['.'].intercalate (ids.map fun id => (idText id).toList), (c != '+') = true := by
  intro c hc
  rw [bne_iff_ne]
  rintro rfl
  cases ids with
  | nil => cases hc
  | cons id ids =>
    rw [List.map_cons, Text.intercalate_cons, List.flatMap_map] at hc
    have hmem : ∃ id' ∈ id :: ids, '+' ∈ (idText id').toList := by simpa using hc
    obtain ⟨id', hid', hplus⟩ := hmem
    exact Bool.false_ne_true
      (not_idChar_plus.symm.trans ((isIdentifier_idText (h id' hid')).2 '+' hplus))

theorem eq_suffixText_of_suffix? {pre : List PreReleaseId} {build : List String}
    (h : suffix? s = some (pre, build)) :
    (∀ id ∈ pre, id.WellFormed) ∧ (∀ id ∈ build, IsIdentifier id.toList) ∧
      s = suffixText pre build := by
  rw [suffixText_eq]
  rw [suffix?.eq_def] at h
  split at h
  · cases h
    exact ⟨nofun, nofun, rfl⟩
  · next s =>
    obtain ⟨front, rest, hspan⟩ : ∃ front rest, s.span (· != '+') = (front, rest) := ⟨_, _, rfl⟩
    obtain ⟨rfl, -, hends⟩ := Text.span_eq_iff.1 hspan
    simp only [hspan] at h
    split at h
    · simp only [Option.bind_eq_bind, Option.bind_eq_some_iff, Option.some.injEq, Prod.mk.injEq,
        preRelease?_eq_some_iff] at h
      obtain ⟨ids, ⟨hne, hids, rfl⟩, rfl, rfl⟩ := h
      exact ⟨hids, nofun, by simp [hne]⟩
    · next c rest =>
      simp only [Option.bind_eq_bind, Option.bind_eq_some_iff, Option.some.injEq, Prod.mk.injEq,
        preRelease?_eq_some_iff, build?_eq_some_iff] at h
      obtain ⟨ids, ⟨hne, hids, rfl⟩, bs, ⟨hbne, hbs, rfl⟩, rfl, rfl⟩ := h
      have hplus : c = '+' := by simpa [Text.ends_cons_iff] using hends
      exact ⟨hids, hbs, by simp [hne, hbne, hplus]⟩
  · next s =>
    simp only [Option.bind_eq_bind, Option.bind_eq_some_iff, Option.some.injEq, Prod.mk.injEq,
      build?_eq_some_iff] at h
    obtain ⟨bs, ⟨hbne, hbs, rfl⟩, rfl, rfl⟩ := h
    exact ⟨nofun, hbs, by simp [hbne]⟩
  · cases h

theorem suffix?_suffixText {pre : List PreReleaseId} {build : List String}
    (hpre : ∀ id ∈ pre, id.WellFormed) (hbuild : ∀ id ∈ build, IsIdentifier id.toList) :
    suffix? (suffixText pre build) = some (pre, build) := by
  have hfront := bne_plus_of_mem_preRelease hpre
  rw [suffixText_eq]
  by_cases hne : pre = [] <;> by_cases hbne : build = []
  · subst hne hbne
    rfl
  · subst hne
    simp [suffix?, hbne, build?_eq_some_iff.2 ⟨hbne, hbuild, rfl⟩]
  · subst hbne
    have hspan := Text.span_append hfront Text.ends_nil
    rw [List.append_nil] at hspan
    rw [if_neg hne, if_pos rfl, List.append_nil, suffix?]
    simp only [hspan, preRelease?_eq_some_iff.2 ⟨hne, hpre, rfl⟩]
    rfl
  · have hrest : Text.Ends (· != '+') ('+' :: ['.'].intercalate (build.map String.toList)) :=
      Text.ends_cons_iff.2 rfl
    have hspan := Text.span_append hfront hrest
    rw [if_neg hne, if_neg hbne, List.cons_append, suffix?]
    simp only [hspan, preRelease?_eq_some_iff.2 ⟨hne, hpre, rfl⟩,
      build?_eq_some_iff.2 ⟨hbne, hbuild, rfl⟩]
    rfl

theorem suffix?_eq_some_iff {pre : List PreReleaseId} {build : List String} :
    suffix? s = some (pre, build) ↔
      (∀ id ∈ pre, id.WellFormed) ∧ (∀ id ∈ build, IsIdentifier id.toList) ∧
        s = suffixText pre build :=
  ⟨eq_suffixText_of_suffix?, fun ⟨hpre, hbuild, h⟩ => h ▸ suffix?_suffixText hpre hbuild⟩

/-! ## Full texts -/

/-- The characters of a core. -/
def coreText (core : List (List Char)) : List Char := ['.'].intercalate core

theorem toList_textOf (core : List Nat) (pre : List PreReleaseId) (build : List String) :
    (textOf core pre build).toList =
      coreText (core.map (Nat.toDigits 10)) ++ suffixText pre build := by
  simp [textOf, coreText, suffixText, Function.comp_def]

/-- The core ends before a mark, and where nothing follows. -/
theorem ends_suffixText {p : Char → Bool} (hhyphen : p '-' = false) (hplus : p '+' = false)
    (pre : List PreReleaseId) (build : List String) : Text.Ends p (suffixText pre build) := by
  rw [suffixText_eq]
  by_cases hne : pre = []
  · by_cases hbne : build = []
    · simpa [hne, hbne] using Text.ends_nil
    · simpa [hne, hbne] using Text.ends_cons_iff.2 hplus
  · simpa [hne] using Text.ends_cons_iff.2 hhyphen

theorem written_wellFormed_iff {v : Version} :
    v.written.WellFormed ↔
      v.major < numberBound ∧ v.minor < numberBound ∧ v.patch < numberBound ∧
        (∀ id ∈ v.preRelease, id.WellFormed) ∧ ∀ id ∈ v.build, IsIdentifier id.toList := by
  constructor
  · intro h
    have hlt : ∀ n ∈ [v.major, v.minor, v.patch], n < numberBound := h.number_lt
    simp only [List.forall_mem_cons] at hlt
    exact ⟨hlt.1, hlt.2.1, hlt.2.2.1, h.preRelease, h.build⟩
  · rintro ⟨hmajor, hminor, hpatch, hpre, hbuild⟩
    exact ⟨List.cons_ne_nil _ _, Nat.le_refl 3, by simp [written, hmajor, hminor, hpatch], hpre,
      hbuild⟩

/-- **A full text is read exactly if it is written.** -/
theorem ofFullText?_eq_some_iff {v : Version} :
    ofFullText? s = some v ↔ v.written.WellFormed ∧ s = v.toString.toList := by
  have htext : v.toString.toList =
      Nat.toDigits 10 v.major ++ '.' :: (Nat.toDigits 10 v.minor ++
        '.' :: (Nat.toDigits 10 v.patch ++ suffixText v.preRelease v.build)) := by
    simp [toString, toList_textOf, coreText]
  simp only [ofFullText?, Option.bind_eq_bind, Option.bind_eq_some_iff, Prod.exists,
    coreNumber?_eq_some_iff, point?_eq_some_iff, suffix?_eq_some_iff, written_wellFormed_iff, htext]
  constructor
  · rintro ⟨major, _, ⟨hmajor, -, rfl⟩, _, rfl, minor, _, ⟨hminor, -, rfl⟩, _, rfl, patch, _,
      ⟨hpatch, -, rfl⟩, pre, build, ⟨hpre, hbuild, rfl⟩, ⟨⟩⟩
    exact ⟨⟨hmajor, hminor, hpatch, hpre, hbuild⟩, rfl⟩
  · rintro ⟨⟨hmajor, hminor, hpatch, hpre, hbuild⟩, rfl⟩
    have hpoint {rest : List Char} : Text.Ends Char.isDigit ('.' :: rest) :=
      Text.ends_cons_iff.2 (by decide)
    exact ⟨v.major, _, ⟨hmajor, hpoint, rfl⟩, _, rfl, v.minor, _, ⟨hminor, hpoint, rfl⟩, _, rfl,
      v.patch, _, ⟨hpatch, ends_suffixText (by decide) (by decide) _ _, rfl⟩,
      v.preRelease, v.build, ⟨hpre, hbuild, rfl⟩, rfl⟩

end Version

end FeatureFlags
