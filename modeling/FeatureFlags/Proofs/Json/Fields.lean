import FeatureFlags.Decoding
import Mathlib.Data.List.Forall2

/-!
# What readers of fields accept

A structure is read one field after the other, so it is accepted if every one of its fields is, and
what it stands for is put together from theirs.  A reader of a single value is described by a
partial function, which is defined on the values that the reader takes; a field may be missing as
well, and some fields may be null.

## What is here

* `Json.text?`, `Json.truth?`, `Json.members?`: what a value is made of, if it has the right form.
* `Decode.Reads`: a reader and the partial function that describes it.
* `Decode.field_eq_ok_iff`, `fieldOr_eq_ok_iff`, `optionalField_eq_ok_iff`: fields that may be
  missing, and what they stand for.
* `Decode.field_eq_ok_some_iff`, `fieldOr_eq_ok_cases`, `optionalField_eq_ok_cases`: the same for a
  reader that no partial function describes.
-/

set_option autoImplicit false

namespace FeatureFlags

namespace Json

/-- The text of a value that is one. -/
def text? : Json → Option String
  | string s => some s
  | _ => none

/-- The truth value of a value that is one. -/
def truth? : Json → Option Bool
  | bool b => some b
  | _ => none

/-- The members of an object. -/
def members? : Json → Option (List (String × Json))
  | object members => some members
  | _ => none

/-- Whether a value is null. -/
def isNull : Json → Bool
  | null => true
  | _ => false

/-- Whether a member of an object is missing or null. -/
def isUnset (name : String) (ms : List (String × Json)) : Bool :=
  (SortedMap.lookup name ms).all isNull

/-- Whether a value is a text. -/
def isText (j : Json) : Bool := j.text?.isSome

/-- Whether a value is a truth value. -/
def isTruth (j : Json) : Bool := j.truth?.isSome

/-- Whether a value is an object. -/
def isObject (j : Json) : Bool := j.members?.isSome

@[simp] theorem text?_eq_some_iff {j : Json} {s : String} : j.text? = some s ↔ j = .string s := by
  cases j <;> simp [text?]

@[simp] theorem truth?_eq_some_iff {j : Json} {b : Bool} : j.truth? = some b ↔ j = .bool b := by
  cases j <;> simp [truth?]

@[simp] theorem members?_eq_some_iff {j : Json} {ms : List (String × Json)} :
    j.members? = some ms ↔ j = .object ms := by
  cases j <;> simp [members?]

end Json

namespace Decode

variable {ε α β : Type}

/-- Reading succeeds one step after the other. -/
theorem bind_eq_ok_iff {x : Except ε α} {f : α → Except ε β} {b : β} :
    (x >>= f) = .ok b ↔ ∃ a, x = .ok a ∧ f a = .ok b := by
  cases x with
  | error e => simp [Bind.bind, Except.bind]
  | ok a => simp [Bind.bind, Except.bind]

theorem map_eq_ok_iff {x : Except ε α} {f : α → β} {b : β} :
    f <$> x = .ok b ↔ ∃ a, x = .ok a ∧ f a = b := by
  cases x with
  | error e => simp [Functor.map, Except.map]
  | ok a => simp [Functor.map, Except.map]

/-- Reading a list succeeds if reading each of its items does. -/
theorem mapM_eq_ok_iff {f : α → Except ε β} {p : α → Bool} {g : α → β}
    (h : ∀ a b, f a = .ok b ↔ p a = true ∧ b = g a) {l : List α} {r : List β} :
    l.mapM f = .ok r ↔ l.all p = true ∧ r = l.map g := by
  induction l generalizing r with
  | nil => simp [pure, Except.pure, eq_comm]
  | cons a l ih =>
    simp only [List.mapM_cons, bind_eq_ok_iff, h, ih, List.all_cons, Bool.and_eq_true,
      List.map_cons]
    constructor
    · rintro ⟨b, ⟨ha, rfl⟩, r, ⟨hl, rfl⟩, ⟨⟩⟩
      exact ⟨⟨ha, hl⟩, rfl⟩
    · rintro ⟨⟨ha, hl⟩, rfl⟩
      exact ⟨_, ⟨ha, rfl⟩, _, ⟨hl, rfl⟩, rfl⟩

/-- Reading a list succeeds item by item. -/
theorem mapM_eq_ok_iff_forall₂ {f : α → Except ε β} {R : α → β → Prop} {l : List α}
    (h : ∀ a ∈ l, ∀ b, f a = .ok b ↔ R a b) {r : List β} :
    l.mapM f = .ok r ↔ List.Forall₂ R l r := by
  induction l generalizing r with
  | nil => simp [pure, Except.pure, eq_comm]
  | cons a l ih =>
    obtain ⟨ha, hl⟩ := List.forall_mem_cons.1 h
    simp only [List.mapM_cons, bind_eq_ok_iff, ha, ih hl, List.forall₂_cons_left_iff]
    constructor
    · rintro ⟨b, hb, r, hr, ⟨⟩⟩
      exact ⟨b, r, hb, hr, rfl⟩
    · rintro ⟨b, r, hb, hr, rfl⟩
      exact ⟨b, hb, r, hr, rfl⟩

/-- A reader takes the values on which a partial function is defined, and no others. -/
def Reads (d : Decoder α) (value? : Json → Option α) : Prop :=
  ∀ j a, d j = .ok a ↔ value? j = some a

theorem reads_string : Reads string Json.text? := by
  intro j a
  cases j <;> simp [string, Json.text?]

theorem string_eq_ok_iff {j : Json} {s : String} : string j = .ok s ↔ j = .string s :=
  (reads_string j s).trans Json.text?_eq_some_iff

theorem reads_bool : Reads bool Json.truth? := by
  intro j a
  cases j <;> simp [bool, Json.truth?]

theorem reads_members : Reads members Json.members? := by
  intro j a
  cases j <;> simp [members, Json.members?]

theorem kind_eq_ok_iff {j : Json} {k : Kind} : kind j = .ok k ↔ j = .string k.name := by
  simp only [kind, bind_eq_ok_iff, reads_string _ _, Json.text?_eq_some_iff]
  constructor
  · rintro ⟨name, rfl, hkind⟩
    split at hkind
    · next heq =>
      cases hkind
      rw [Kind.ofString_eq_ok_iff.1 heq]
    · cases hkind
  · rintro rfl
    refine ⟨_, rfl, ?_⟩
    rw [Kind.ofString_eq_ok_iff.2 rfl]
    rfl

theorem natural_eq_ok_iff {j : Json} {n : Nat} :
    natural j = .ok n ↔ j = .nat n ∧ n < Json.naturalBound := by
  rw [natural.eq_def]
  split
  · next m =>
    simp only [Json.nat, Json.integer, Json.number.injEq, Json.Number.integer.injEq]
    split
    · simp only [Except.ok.injEq]
      omega
    · simp only [reduceCtorEq, false_iff]
      omega
  · next hne =>
    simp only [reduceCtorEq, false_iff]
    rintro ⟨rfl, -⟩
    exact hne _ rfl

theorem integer_eq_ok_iff {j : Json} {n : Int} :
    integer j = .ok n ↔ j = .integer n ∧ -Json.integerBound ≤ n ∧ n < Json.integerBound := by
  rw [integer.eq_def]
  split
  · next m =>
    simp only [Json.integer, Json.number.injEq, Json.Number.integer.injEq]
    split
    · simp only [Except.ok.injEq]
      omega
    · simp only [reduceCtorEq, false_iff]
      omega
  · next hne =>
    simp only [reduceCtorEq, false_iff]
    rintro ⟨rfl, -⟩
    exact hne _ rfl

/-! ## Fields -/

section Cases

variable {d : Decoder α} {ms : List (String × Json)} {name : String} {a : α}

theorem field_eq_ok_some_iff :
    field ms name d = .ok (some a) ↔ ∃ j, SortedMap.lookup name ms = some j ∧ d j = .ok a := by
  rw [field]
  cases SortedMap.lookup name ms <;> simp [map_eq_ok_iff]

/-- A field stands for the default if it is missing, and else for what the reader takes it for. -/
theorem fieldOr_eq_ok_cases {default : α} :
    fieldOr ms name default d = .ok a ↔
      SortedMap.lookup name ms = none ∧ a = default ∨
        ∃ j, SortedMap.lookup name ms = some j ∧ d j = .ok a := by
  rw [fieldOr, field]
  cases SortedMap.lookup name ms with
  | none => simp [Bind.bind, Except.bind, pure, Except.pure, eq_comm]
  | some j => simp [bind_eq_ok_iff, pure, Except.pure]

theorem nullable_eq_ok_cases (hnull : ∀ a, d .null ≠ .ok a) {j : Json} {v : Option α} :
    nullable d j = .ok v ↔ j.isNull = true ∧ v = none ∨ ∃ a, d j = .ok a ∧ v = some a := by
  rw [nullable.eq_def]
  split
  · simp [Json.isNull, hnull, eq_comm]
  · next hne =>
    have hj : j.isNull = false := by
      cases j <;> first | rfl | exact absurd rfl hne
    simp only [map_eq_ok_iff, hj, Bool.false_eq_true, false_and, false_or, eq_comm (a := v)]

/-- A field stands for nothing if it is missing or null, and else for what the reader takes it
for. -/
theorem optionalField_eq_ok_cases (hnull : ∀ a, d .null ≠ .ok a) {v : Option α} :
    optionalField ms name d = .ok v ↔
      Json.isUnset name ms = true ∧ v = none ∨
        ∃ j a, SortedMap.lookup name ms = some j ∧ d j = .ok a ∧ v = some a := by
  rw [optionalField, field, Json.isUnset]
  cases SortedMap.lookup name ms with
  | none => simp [Bind.bind, Except.bind, pure, Except.pure, eq_comm]
  | some j => simp [bind_eq_ok_iff, nullable_eq_ok_cases hnull, pure, Except.pure]

end Cases

variable {d : Decoder α} {value? : Json → Option α} (h : Reads d value?)
  {ms : List (String × Json)} {name : String}

include h

/-- A field is accepted if it is missing or the reader takes it. -/
theorem field_eq_ok_iff {v : Option α} :
    field ms name d = .ok v ↔
      ((SortedMap.lookup name ms).all fun j => (value? j).isSome) = true ∧
        v = (SortedMap.lookup name ms).bind value? := by
  rw [field]
  cases SortedMap.lookup name ms with
  | none => simp [eq_comm]
  | some j =>
    simp only [map_eq_ok_iff, h j, Option.all_some, Option.bind_some, Option.isSome_iff_exists]
    constructor
    · rintro ⟨a, ha, rfl⟩
      exact ⟨⟨a, ha⟩, ha.symm⟩
    · rintro ⟨⟨a, ha⟩, rfl⟩
      exact ⟨a, ha, ha.symm⟩

theorem fieldOr_eq_ok_iff {default v : α} :
    fieldOr ms name default d = .ok v ↔
      ((SortedMap.lookup name ms).all fun j => (value? j).isSome) = true ∧
        v = ((SortedMap.lookup name ms).bind value?).getD default := by
  simp only [fieldOr, bind_eq_ok_iff, field_eq_ok_iff h]
  constructor
  · rintro ⟨a, ⟨hall, rfl⟩, ⟨⟩⟩
    exact ⟨hall, rfl⟩
  · rintro ⟨hall, rfl⟩
    exact ⟨_, ⟨hall, rfl⟩, rfl⟩

theorem nullable_eq_ok_iff (hnull : value? .null = none) {j : Json} {v : Option α} :
    nullable d j = .ok v ↔ (j.isNull || (value? j).isSome) = true ∧ v = value? j := by
  rw [nullable.eq_def]
  split
  · simp [Json.isNull, hnull, eq_comm]
  · next hne =>
    have hj : j.isNull = false := by
      cases j <;> first | rfl | exact absurd rfl hne
    simp only [map_eq_ok_iff, h j, hj, Bool.false_or, Option.isSome_iff_exists]
    constructor
    · rintro ⟨a, ha, rfl⟩
      exact ⟨⟨a, ha⟩, ha.symm⟩
    · rintro ⟨⟨a, ha⟩, rfl⟩
      exact ⟨a, ha, ha.symm⟩

/-- A field that may be null is accepted if it is missing, null, or the reader takes it. -/
theorem optionalField_eq_ok_iff (hnull : value? .null = none) {v : Option α} :
    optionalField ms name d = .ok v ↔
      ((SortedMap.lookup name ms).all fun j => j.isNull || (value? j).isSome) = true ∧
        v = (SortedMap.lookup name ms).bind value? := by
  rw [optionalField, field]
  cases SortedMap.lookup name ms with
  | none => simp [Bind.bind, Except.bind, pure, Except.pure, eq_comm]
  | some j =>
    simp only [bind_eq_ok_iff, map_eq_ok_iff, nullable_eq_ok_iff h hnull]
    constructor
    · rintro ⟨a, ⟨b, ⟨hall, rfl⟩, rfl⟩, ⟨⟩⟩
      exact ⟨hall, rfl⟩
    · rintro ⟨hall, rfl⟩
      exact ⟨_, ⟨_, ⟨hall, rfl⟩, rfl⟩, rfl⟩

omit h in
/-- A field with a value has been accepted. -/
theorem all_isSome_of_bind_eq_some {a : α} (ha : (SortedMap.lookup name ms).bind value? = some a) :
    ((SortedMap.lookup name ms).all fun j => (value? j).isSome) = true := by
  obtain ⟨j, hj, hvalue⟩ := Option.bind_eq_some_iff.1 ha
  rw [hj, Option.all_some, hvalue]
  rfl

omit h in
theorem require_eq_ok_iff {value : Option α} {a : α} :
    require name value = .ok a ↔ value = some a := by
  cases value <;> simp [require]

end Decode

end FeatureFlags
