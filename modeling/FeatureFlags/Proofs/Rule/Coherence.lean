import FeatureFlags.Proofs.Version.Loose
import FeatureFlags.Proofs.Version.Order
import FeatureFlags.Rule.Operator

/-!
# Operators that order values

Versions, instants and numbers are ordered by operators that do not know of each other: each of them
reads its two values anew and compares what it has read.  They fit together because they ask the
same order, one whether it gives less, one whether it gives greater.

What they have to fit as well is equality, and this is not asked of the order.  For versions it is
equality of what has been read, so that nothing different may compare as equal.  For numbers it is
membership in a list of one.  There is none for instants, so that for these only equality of what
has been read can be meant.

## What is here

* `IsOrder`: three comparisons are the three cases of one order.
* `IsOrder.of_cmp`: comparisons by an order are.
* `Operator.orderings_coherent`: the theorem.
-/

set_option autoImplicit false

open Std

namespace FeatureFlags

/-- Of three answers exactly one is yes. -/
def ExactlyOne (a b c : Bool) : Prop := [a, b, c].count true = 1

/-- Three comparisons are the three cases of one order for the values that can be read. -/
structure IsOrder (reads : AttributeValue → Prop)
    (less same greater : AttributeValue → AttributeValue → Bool) : Prop where
  /-- One of them holds, and not two. -/
  exactlyOne : ∀ l r, reads l → reads r → ExactlyOne (less l r) (same l r) (greater l r)
  /-- The first is the last, the other way round. -/
  swap : ∀ l r, less l r = greater r l
  /-- The first is transitive. -/
  trans : ∀ l r t, less l r = true → less r t = true → less l t = true
  /-- The first does not tell apart what is the same, on either side. -/
  congr : ∀ l r, same l r = true → ∀ t, less l t = less r t ∧ less t l = less t r

/-! ## Values that are both read -/

section Both

variable {α : Type} {read : AttributeValue → Option α} {test : α → α → Bool}
  {l r : AttributeValue}

theorem Operator.both_eq_true_iff :
    both read test l r = true ↔ ∃ x y, read l = some x ∧ read r = some y ∧ test x y = true := by
  rw [both]
  cases read l <;> cases read r <;> simp

theorem Operator.both_of_eq_some {x y : α} (hl : read l = some x) (hr : read r = some y) :
    both read test l r = test x y := by
  simp only [both, hl, hr]

theorem Operator.both_eq_false (h : read l = none ∨ read r = none) :
    both read test l r = false := by
  refine eq_false_of_ne_true fun htrue => ?_
  obtain ⟨x, y, hl, hr, -⟩ := both_eq_true_iff.1 htrue
  simp [hl, hr] at h

theorem Operator.both_swap : both read test l r = both read (fun x y => test y x) r l := by
  rw [both, both]
  cases read l <;> cases read r <;> rfl

/-- **Comparisons by an order are the three cases of it**, if equality is equality in the order. -/
theorem IsOrder.of_cmp (read : AttributeValue → Option α) (cmp : α → α → Ordering) [TransCmp cmp]
    {reads : AttributeValue → Prop}
    {less same greater : AttributeValue → AttributeValue → Bool}
    (hreads : ∀ v, reads v → ∃ x, read v = some x)
    (hless : ∀ l r, less l r = Operator.both read (fun x y => cmp x y == .lt) l r)
    (hswap : ∀ l r, less l r = greater r l)
    (hsame : ∀ l r x y, read l = some x → read r = some y → same l r = (cmp x y == .eq))
    (hnone : ∀ l r, same l r = true → (read l = none ↔ read r = none)) :
    IsOrder reads less same greater where
  exactlyOne l r hl hr := by
    obtain ⟨x, hx⟩ := hreads l hl
    obtain ⟨y, hy⟩ := hreads r hr
    have horder : cmp y x = (cmp x y).swap := OrientedCmp.eq_swap
    rw [← hswap, hless, hless, hsame l r x y hx hy, Operator.both_of_eq_some hx hy,
      Operator.both_of_eq_some hy hx, horder]
    cases cmp x y <;> rfl
  swap := hswap
  trans l r t hlr hrt := by
    rw [hless] at hlr hrt ⊢
    obtain ⟨x, y, hx, hy, hxy⟩ := Operator.both_eq_true_iff.1 hlr
    obtain ⟨y', z, hy', hz, hyz⟩ := Operator.both_eq_true_iff.1 hrt
    obtain rfl : y = y' := Option.some.inj (hy.symm.trans hy')
    rw [beq_iff_eq] at hxy hyz
    rw [Operator.both_of_eq_some hx hz, beq_iff_eq]
    exact TransCmp.lt_trans hxy hyz
  congr l r h t := by
    rw [hless, hless, hless, hless]
    cases hx : read l with
    | none =>
      have hy := (hnone l r h).1 hx
      rw [Operator.both_eq_false (.inl hx), Operator.both_eq_false (.inl hy),
        Operator.both_eq_false (.inr hx), Operator.both_eq_false (.inr hy)]
      exact ⟨rfl, rfl⟩
    | some x =>
      obtain ⟨y, hy⟩ := Option.ne_none_iff_exists'.1 fun hy => by
        simp [(hnone l r h).2 hy] at hx
      rw [hsame l r x y hx hy, beq_iff_eq] at h
      cases hz : read t with
      | none =>
        rw [Operator.both_eq_false (.inr hz), Operator.both_eq_false (.inr hz),
          Operator.both_eq_false (.inl hz), Operator.both_eq_false (.inl hz)]
        exact ⟨rfl, rfl⟩
      | some z =>
        rw [Operator.both_of_eq_some hx hz, Operator.both_of_eq_some hy hz,
          Operator.both_of_eq_some hz hx, Operator.both_of_eq_some hz hy,
          TransCmp.congr_left h, TransCmp.congr_right h]
        exact ⟨rfl, rfl⟩

end Both

/-! ## Versions -/

theorem Version.compare_beq_lt (v w : Version) : (v.compare w == .lt) = (w.compare v == .gt) := by
  have horder : v.compare w = (w.compare v).swap := OrientedCmp.eq_swap
  rw [horder]
  cases w.compare v <;> rfl

/-- Texts of the same version are read alike. -/
theorem AttributeValue.toVersion?_text {a : WrittenVersion} (h : a.WellFormed) :
    (string a.text).toVersion? = some a.version :=
  Version.ofString?_eq_some_iff.2 ⟨a, h, rfl, rfl⟩

/-! ## Instants -/

/-- Instants are ordered by their seconds, and by their nanoseconds where these agree. -/
def Instant.compare : Instant → Instant → Ordering :=
  compareLex (compareOn seconds) (compareOn nanos)

instance : TransCmp Instant.compare :=
  inferInstanceAs (TransCmp (compareLex (compareOn Instant.seconds) (compareOn Instant.nanos)))

instance : LawfulEqCmp Instant.compare where
  eq_of_compare {i j} h := by
    simp only [Instant.compare, compareLex_eq_eq, compareOn, Std.compare_eq_iff_eq] at h
    cases i
    cases j
    simp_all

theorem Instant.less_eq (i j : Instant) : i.less j = (i.compare j == .lt) := by
  rw [Bool.eq_iff_iff, beq_iff_eq, Instant.compare, compareLex, Ordering.then_eq_lt]
  simp [less, compareOn, Int.compare_eq_lt, Nat.compare_eq_lt]

/-! ## Numbers -/

theorem Binary.atMost_eq {f : BinaryFormat} (x y : Binary f) :
    x.atMost y = (x.less y || x.equal y) := by
  rw [Bool.eq_iff_iff]
  simp [atMost, less, equal, Int.le_iff_lt_or_eq, and_or_left]

theorem Binary.equal_comm {f : BinaryFormat} (x y : Binary f) : x.equal y = y.equal x := by
  rw [equal, equal, Bool.and_comm (!x.isNaN), Bool.beq_comm]

/-- The place of a number in the order; what is not a number has none. -/
def AttributeValue.rank? : AttributeValue → Option Int
  | number x => if x.isNaN then none else some x.rank
  | _ => none

theorem AttributeValue.rank?_eq_some_iff {v : AttributeValue} {m : Int} :
    v.rank? = some m ↔ ∃ x : Double, v = number x ∧ x.isNaN = false ∧ x.rank = m := by
  cases v <;> simp [rank?]

/-- Whether a value is a finite number. -/
def AttributeValue.isFiniteNumber (v : AttributeValue) : Bool :=
  v.asNumber?.any Binary.isFinite

theorem AttributeValue.isFiniteNumber_iff {v : AttributeValue} :
    v.isFiniteNumber = true ↔ ∃ x : Double, v = number x ∧ x.isFinite = true := by
  cases v <;> simp [isFiniteNumber, asNumber?]

namespace Operator

open AttributeValue (toVersion? toInstant? asNumber? rank?)

/-- **Versions that have been read are ordered.** -/
theorem isOrder_version :
    IsOrder (fun v => v.toVersion?.isSome = true) versionLessThan.test versionEqual.test
      versionGreaterThan.test := by
  refine .of_cmp toVersion? Version.compare (fun v => Option.isSome_iff_exists.1) (fun l r => rfl)
    (fun l r => ?_) (fun l r x y hx hy => ?_) (fun l r h => ?_)
  · change both toVersion? (fun v w => v.compare w == .lt) l r = _
    rw [funext₂ Version.compare_beq_lt]
    exact both_swap
  · change both toVersion? (fun v w => v == w) l r = _
    rw [both_of_eq_some hx hy, Bool.eq_iff_iff, beq_iff_eq, beq_iff_eq,
      LawfulEqCmp.compare_eq_iff_eq]
  · obtain ⟨x, y, hx, hy, -⟩ := both_eq_true_iff.1 h
    simp [hx, hy]

theorem isOrder_instant :
    IsOrder (fun v => v.toInstant?.isSome = true) before.test (both toInstant? fun i j => i == j)
      after.test := by
  refine .of_cmp toInstant? Instant.compare (fun v => Option.isSome_iff_exists.1) (fun l r => ?_)
    (fun l r => both_swap) (fun l r x y hx hy => ?_) (fun l r h => ?_)
  · exact congrArg (both toInstant? · l r) (funext₂ Instant.less_eq)
  · rw [both_of_eq_some hx hy, Bool.eq_iff_iff, beq_iff_eq, beq_iff_eq,
      LawfulEqCmp.compare_eq_iff_eq]
  · obtain ⟨x, y, hx, hy, -⟩ := both_eq_true_iff.1 h
    simp [hx, hy]

theorem isOrder_number :
    IsOrder (fun v => v.isFiniteNumber = true) lessThan.test isIn.test greaterThan.test := by
  refine .of_cmp rank? Ord.compare (fun v h => ?_) (fun l r => ?_) (fun l r => both_swap)
    (fun l r m n hm hn => ?_) (fun l r h => ?_)
  · obtain ⟨x, rfl, hx⟩ := AttributeValue.isFiniteNumber_iff.1 h
    exact ⟨x.rank, AttributeValue.rank?_eq_some_iff.2 ⟨x, rfl, Binary.isNaN_of_isFinite hx, rfl⟩⟩
  · change both asNumber? Binary.less l r = _
    rw [Bool.eq_iff_iff, both_eq_true_iff, both_eq_true_iff]
    simp only [AttributeValue.rank?_eq_some_iff, beq_iff_eq, Int.compare_eq_lt]
    cases l <;> cases r <;> simp [asNumber?, Binary.less, and_assoc, and_left_comm]
  · obtain ⟨x, rfl, hx, rfl⟩ := AttributeValue.rank?_eq_some_iff.1 hm
    obtain ⟨y, rfl, hy, rfl⟩ := AttributeValue.rank?_eq_some_iff.1 hn
    change x.equal y = _
    rw [Bool.eq_iff_iff, beq_iff_eq, Std.compare_eq_iff_eq]
    simp [Binary.equal, hx, hy]
  · cases l <;> cases r <;> simp_all [test, AttributeValue.equal, rank?, Binary.equal]

/-- To be at most is to be less or equal. -/
theorem test_orEqual {l r : AttributeValue} (hl : l.isFiniteNumber = true)
    (hr : r.isFiniteNumber = true) :
    lessThanOrEqual.test l r = (lessThan.test l r || isIn.test l r) ∧
      greaterThanOrEqual.test l r = (greaterThan.test l r || isIn.test l r) := by
  obtain ⟨x, rfl, -⟩ := AttributeValue.isFiniteNumber_iff.1 hl
  obtain ⟨y, rfl, -⟩ := AttributeValue.isFiniteNumber_iff.1 hr
  exact ⟨Binary.atMost_eq x y, (Binary.atMost_eq y x).trans (by rw [Binary.equal_comm]; rfl)⟩

/-! ## The operators of a type -/

/-- The operators that order versions. -/
def versionOrderings : List Operator := [versionLessThan, versionEqual, versionGreaterThan]

/-- The operators that order instants. -/
def instantOrderings : List Operator := [before, after]

/-- The operators that order numbers. -/
def numberOrderings : List Operator :=
  [lessThan, lessThanOrEqual, greaterThan, greaterThanOrEqual]

theorem exists_test_version {op : Operator} (h : op ∈ versionOrderings) :
    ∃ p, op.test = both toVersion? p := by
  simp only [versionOrderings, List.mem_cons, List.not_mem_nil, or_false] at h
  rcases h with rfl | rfl | rfl <;> exact ⟨_, rfl⟩

theorem exists_test_instant {op : Operator} (h : op ∈ instantOrderings) :
    ∃ p, op.test = both toInstant? p := by
  simp only [instantOrderings, List.mem_cons, List.not_mem_nil, or_false] at h
  rcases h with rfl | rfl <;> exact ⟨_, rfl⟩

theorem exists_test_number {op : Operator} (h : op ∈ numberOrderings) :
    ∃ p, op.test = both asNumber? p := by
  simp only [numberOrderings, List.mem_cons, List.not_mem_nil, or_false] at h
  rcases h with rfl | rfl | rfl | rfl <;> exact ⟨_, rfl⟩

/-- Operators do not tell apart texts of the same version. -/
theorem test_text_congr {op : Operator} (hop : op ∈ versionOrderings) {a b : WrittenVersion}
    (ha : a.WellFormed) (hb : b.WellFormed) (h : a.version = b.version) (v : AttributeValue) :
    op.test (.string a.text) v = op.test (.string b.text) v ∧
      op.test v (.string a.text) = op.test v (.string b.text) := by
  obtain ⟨p, hp⟩ := exists_test_version hop
  simp only [hp, both, AttributeValue.toVersion?_text ha, AttributeValue.toVersion?_text hb, h,
    and_self]

/-- **The operators that order values fit together.**  Less, equal and greater are the three cases
of one order for versions, for instants, and for finite numbers.  Texts that differ in build
metadata and in zeros that are left out are the same to the operators of versions.  At most and at
least mean less or equal and greater or equal.  If a value cannot be read with the type of an
operator, the operator does not hold. -/
theorem orderings_coherent :
    IsOrder (fun v => v.toVersion?.isSome = true) versionLessThan.test versionEqual.test
      versionGreaterThan.test ∧
    (∀ a b : WrittenVersion, a.WellFormed → b.WellFormed → a.preRelease = b.preRelease →
      (∀ i, a.core.getD i 0 = b.core.getD i 0) → ∀ op ∈ versionOrderings, ∀ v : AttributeValue,
        op.test (.string a.text) v = op.test (.string b.text) v ∧
          op.test v (.string a.text) = op.test v (.string b.text)) ∧
    IsOrder (fun v => v.toInstant?.isSome = true) before.test (both toInstant? fun i j => i == j)
      after.test ∧
    IsOrder (fun v => v.isFiniteNumber = true) lessThan.test isIn.test greaterThan.test ∧
    (∀ l r : AttributeValue, l.isFiniteNumber = true → r.isFiniteNumber = true →
      lessThanOrEqual.test l r = (lessThan.test l r || isIn.test l r) ∧
        greaterThanOrEqual.test l r = (greaterThan.test l r || isIn.test l r)) ∧
    ∀ l r : AttributeValue,
      (l.toVersion? = none ∨ r.toVersion? = none → ∀ op ∈ versionOrderings, op.test l r = false) ∧
      (l.toInstant? = none ∨ r.toInstant? = none → ∀ op ∈ instantOrderings, op.test l r = false) ∧
      (l.asNumber? = none ∨ r.asNumber? = none → ∀ op ∈ numberOrderings, op.test l r = false) := by
  refine ⟨isOrder_version, fun a b ha hb hpre hcore op hop => ?_, isOrder_instant, isOrder_number,
    fun l r => test_orEqual,
    fun l r => ⟨fun h op hop => ?_, fun h op hop => ?_, fun h op hop => ?_⟩⟩
  · have hversion : a.version = b.version := by
      simp only [WrittenVersion.version, hpre, hcore]
    exact test_text_congr hop ha hb hversion
  · obtain ⟨p, hp⟩ := exists_test_version hop
    rw [hp, both_eq_false h]
  · obtain ⟨p, hp⟩ := exists_test_instant hop
    rw [hp, both_eq_false h]
  · obtain ⟨p, hp⟩ := exists_test_number hop
    rw [hp, both_eq_false h]

/-- A release candidate and two ways to write the release; the first milliseconds; small numbers. -/
theorem orderings_coherent_release :
    let candidate := AttributeValue.string "2.0-rc.1"
    let release := AttributeValue.string "2"
    let first := AttributeValue.number (Binary.ofNat 1)
    let second := AttributeValue.number (Binary.ofNat 2)
    ExactlyOne (versionLessThan.test candidate release) (versionEqual.test candidate release)
        (versionGreaterThan.test candidate release) ∧
      versionLessThan.test candidate release = true ∧
      versionLessThan.test candidate (.string "2.0.0+007") = true ∧
      before.test first second = true ∧ after.test second first = true ∧
      lessThan.test first second = true ∧ lessThanOrEqual.test first second = true ∧
      before.test candidate first = false := by
  intro candidate release first second
  obtain ⟨hversion, htexts, hinstant, hnumber, horEqual, hother⟩ := orderings_coherent
  have hless : versionLessThan.test candidate release = true := by decide +kernel
  have hbuild := (htexts ⟨[2], [], []⟩ ⟨[2, 0, 0], [], ["007"]⟩ (by decide +kernel)
    (by decide +kernel) rfl (by rintro (_ | _ | _ | i) <;> rfl) versionLessThan (by decide)
    candidate).2
  have hbefore : before.test first second = true := by decide +kernel
  have hnumbers : lessThan.test first second = true := by decide +kernel
  refine ⟨hversion.exactlyOne candidate release (by decide +kernel) (by decide +kernel), hless,
    hbuild.symm.trans hless, hbefore, (hinstant.swap first second).symm.trans hbefore, hnumbers, ?_,
    (hother candidate first).2.1 (.inl (by decide +kernel)) before (by decide)⟩
  rw [(horEqual first second (by decide +kernel) (by decide +kernel)).1, hnumbers]
  rfl

end Operator

end FeatureFlags
