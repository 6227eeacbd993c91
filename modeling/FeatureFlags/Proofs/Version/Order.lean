import FeatureFlags.Proofs.Text.Pieces
import FeatureFlags.Version
import Mathlib.Order.Basic

/-!
# The order of versions

The order of versions is put together from the orders of their pieces, one after the other, so it is
an order because these are.  Only pre-releases need a word of their own: the empty one comes last
and not first, as it would among lists.

Nothing that is different compares as equal.  This takes a word for the numbers in build metadata,
which may have leading zeros: they are ordered by their values first and by their lengths second,
and a value and a length leave one number only.

## What is here

* instances of `TransCmp` and `LawfulEqCmp` for the pieces and for `Version.compare`.
-/

set_option autoImplicit false

open Std

namespace FeatureFlags

/-- Values are in the order of what is read off them. -/
theorem transCmp_on {α β : Type} (f : α → β) {cmp : β → β → Ordering} (h : TransCmp cmp) :
    TransCmp fun a b => cmp (f a) (f b) where
  eq_swap := h.eq_swap
  isLE_trans := h.isLE_trans

/-! ## Identifiers -/

namespace PreReleaseId

instance : TransCmp PreReleaseId.compare where
  eq_swap {a b} := by
    cases a <;> cases b
    case number.number => exact OrientedOrd.eq_swap
    case word.word => exact OrientedOrd.eq_swap
    all_goals rfl
  isLE_trans {a b c} hab hbc := by
    cases a <;> cases b <;> cases c
    case number.number.number => exact TransOrd.isLE_trans hab hbc
    case word.word.word => exact TransOrd.isLE_trans hab hbc
    all_goals first | contradiction | rfl

instance : LawfulEqCmp PreReleaseId.compare where
  compare_self {a} := by
    cases a
    case number => exact compare_self
    case word => exact compare_self
  eq_of_compare {a b} h := by
    cases a <;> cases b
    case number.number m n =>
      have h : Ord.compare m n = .eq := h
      exact congrArg number (LawfulEqCmp.eq_of_compare h)
    case word.word s t =>
      have h : Ord.compare s t = .eq := h
      exact congrArg word (LawfulEqCmp.eq_of_compare h)
    all_goals contradiction

end PreReleaseId

namespace Version

/-- Numbers are ordered by their values, and by their lengths where these agree. -/
theorem transCmp_digits : TransCmp (compareLex
    (fun s t : String => Ord.compare (Text.number s.toList) (Text.number t.toList))
    fun s t : String => Ord.compare s.length t.length) :=
  have : TransCmp fun s t : String => Ord.compare (Text.number s.toList) (Text.number t.toList) :=
    transCmp_on (fun s : String => Text.number s.toList) inferInstance
  have : TransCmp fun s t : String => Ord.compare s.length t.length :=
    transCmp_on String.length inferInstance
  inferInstance

instance : TransCmp compareBuildId where
  eq_swap {s t} := by
    simp only [compareBuildId]
    cases s.toList.all Char.isDigit <;> cases t.toList.all Char.isDigit
    case true.true => exact transCmp_digits.eq_swap
    case false.false => exact OrientedOrd.eq_swap
    all_goals rfl
  isLE_trans {s t u} hst htu := by
    simp only [compareBuildId] at hst htu ⊢
    generalize s.toList.all Char.isDigit = hs, t.toList.all Char.isDigit = ht,
      u.toList.all Char.isDigit = hu at *
    cases hs <;> cases ht <;> cases hu
    case true.true.true => exact transCmp_digits.isLE_trans hst htu
    case false.false.false => exact TransOrd.isLE_trans hst htu
    all_goals first | contradiction | rfl

instance : LawfulEqCmp compareBuildId where
  compare_self {s} := ReflCmp.compare_self
  eq_of_compare {s t} h := by
    simp only [compareBuildId] at h
    cases hs : s.toList.all Char.isDigit <;> cases ht : t.toList.all Char.isDigit <;>
      simp only [hs, ht] at h
    case false.false => exact LawfulEqCmp.eq_of_compare h
    case true.true =>
      rw [Ordering.then_eq_eq, Nat.compare_eq_eq, Nat.compare_eq_eq] at h
      rw [List.all_eq_true] at hs ht
      refine String.toList_injective (Text.number_inj hs ht ?_ h.1)
      rw [String.length_toList, String.length_toList, h.2]
    all_goals contradiction

theorem lawfulEqCmp_build : LawfulEqCmp (List.compareLex compareBuildId) := inferInstance

/-! ## Pre-releases -/

theorem transCmp_ids : TransCmp (List.compareLex PreReleaseId.compare) := inferInstance

theorem lawfulEqCmp_ids : LawfulEqCmp (List.compareLex PreReleaseId.compare) := inferInstance

instance : TransCmp comparePreRelease where
  eq_swap {as bs} := by
    cases as <;> cases bs
    case cons.cons => exact transCmp_ids.eq_swap
    all_goals rfl
  isLE_trans {as bs cs} hab hbc := by
    cases as <;> cases bs <;> cases cs
    case cons.cons.cons => exact transCmp_ids.isLE_trans hab hbc
    all_goals first | contradiction | rfl

instance : LawfulEqCmp comparePreRelease where
  compare_self {as} := by
    cases as
    case nil => rfl
    case cons => exact lawfulEqCmp_ids.compare_self
  eq_of_compare {as bs} h := by
    cases as <;> cases bs
    case nil.nil => rfl
    case cons.cons => exact lawfulEqCmp_ids.eq_of_compare h
    all_goals contradiction

/-! ## Versions -/

/-- The order of versions, piece by piece. -/
theorem compare_eq : compare =
    compareLex (fun v w => Ord.compare (major v) (major w))
      (compareLex (fun v w => Ord.compare (minor v) (minor w))
        (compareLex (fun v w => Ord.compare (patch v) (patch w))
          (compareLex (fun v w => comparePreRelease (preRelease v) (preRelease w))
            fun v w => List.compareLex compareBuildId (build v) (build w)))) :=
  rfl

instance : TransCmp compare := by
  have hnumber (number : Version → Nat) :
      TransCmp fun v w => Ord.compare (number v) (number w) := transCmp_on number inferInstance
  have hmajor := hnumber major
  have hminor := hnumber minor
  have hpatch := hnumber patch
  have hpre : TransCmp fun v w => comparePreRelease (preRelease v) (preRelease w) :=
    transCmp_on preRelease inferInstance
  have hbuild : TransCmp fun v w => List.compareLex compareBuildId (build v) (build w) :=
    transCmp_on build inferInstance
  rw [compare_eq]
  infer_instance

/-- **Versions that compare as equal are equal.** -/
instance : LawfulEqCmp compare where
  compare_self {v} := ReflCmp.compare_self
  eq_of_compare {v w} h := by
    simp only [compare, Ordering.then_eq_eq] at h
    obtain ⟨hmajor, hminor, hpatch, hpre, hbuild⟩ := h
    cases v
    cases w
    rw [mk.injEq]
    exact ⟨LawfulEqCmp.eq_of_compare hmajor, LawfulEqCmp.eq_of_compare hminor,
      LawfulEqCmp.eq_of_compare hpatch, LawfulEqCmp.eq_of_compare hpre,
      lawfulEqCmp_build.eq_of_compare hbuild⟩

end Version

end FeatureFlags
