import FeatureFlags.BigSegment.Membership

/-!
# The severity of statuses

Statuses are ordered by severity.  An evaluation starts without any status and keeps the most severe
that it hears of, so a missing status counts as the least severe.

## What is here

* `BigSegmentStatus.atMost`: it is an order, in which `worst` gives the greater of two.
* `BigSegmentStatus.join`: the more severe of two statuses that may be missing.
* `BigSegmentStatus.noWorse`: the order of statuses that may be missing.
* `BigSegmentStatus.worstOf?_eq_some_iff`: the most severe of a list.
-/

set_option autoImplicit false

namespace FeatureFlags

namespace BigSegmentStatus

/-! ## The order -/

theorem atMost_refl (s : BigSegmentStatus) : s.atMost s = true := by simp [atMost]

theorem atMost_trans {s t u : BigSegmentStatus} (hst : s.atMost t = true) (htu : t.atMost u = true) :
    s.atMost u = true := by
  rw [atMost, decide_eq_true_eq] at *
  exact Nat.le_trans hst htu

theorem atMost_antisymm {s t : BigSegmentStatus} (hst : s.atMost t = true)
    (hts : t.atMost s = true) : s = t := by
  revert hst hts
  cases s <;> cases t <;> decide

theorem worst_eq (s t : BigSegmentStatus) : s.worst t = s ∨ s.worst t = t := by
  rw [worst]
  split
  · exact Or.inr rfl
  · exact Or.inl rfl

theorem atMost_worst (s t : BigSegmentStatus) :
    s.atMost (s.worst t) = true ∧ t.atMost (s.worst t) = true := by
  cases s <;> cases t <;> decide

theorem worst_assoc (s t u : BigSegmentStatus) : (s.worst t).worst u = s.worst (t.worst u) := by
  cases s <;> cases t <;> cases u <;> rfl

theorem worst_comm (s t : BigSegmentStatus) : s.worst t = t.worst s := by
  cases s <;> cases t <;> rfl

/-! ## Statuses that may be missing -/

/-- The more severe of two statuses, either of which may be missing. -/
def join (s t : Option BigSegmentStatus) : Option BigSegmentStatus := s.merge worst t

@[simp] theorem none_join (s : Option BigSegmentStatus) : join none s = s := by
  rw [join, Option.merge_none_left]

@[simp] theorem join_none (s : Option BigSegmentStatus) : join s none = s := by
  rw [join, Option.merge_none_right]

theorem join_assoc (s t u : Option BigSegmentStatus) : join (join s t) u = join s (join t u) := by
  have : Std.Associative worst := ⟨worst_assoc⟩
  exact (Option.associative_merge worst).assoc s t u

theorem join_comm (s t : Option BigSegmentStatus) : join s t = join t s := by
  have : Std.Commutative worst := ⟨worst_comm⟩
  exact (Option.commutative_merge worst).comm s t

theorem join_self (s : Option BigSegmentStatus) : join s s = s := by
  have : Std.IdempotentOp worst := ⟨fun s => by cases s <;> rfl⟩
  exact (Option.idempotentOp_merge worst).idempotent s

/-- What is part of a status stays so. -/
theorem join_join_eq {s t : Option BigSegmentStatus} (h : join s t = s)
    (u : Option BigSegmentStatus) : join (join s u) t = join s u := by
  rw [join_assoc, join_comm u, ← join_assoc, h]

/-- Whether one status is at most as severe as another.  No status is the least severe. -/
def noWorse : Option BigSegmentStatus → Option BigSegmentStatus → Bool
  | none, _ => true
  | some _, none => false
  | some s, some t => s.atMost t

theorem noWorse_refl (s : Option BigSegmentStatus) : noWorse s s = true := by
  cases s with
  | none => rfl
  | some s => exact atMost_refl s

/-- Nothing is more severe than a provider that is not configured. -/
theorem noWorse_notConfigured (s : Option BigSegmentStatus) :
    noWorse s (some .notConfigured) = true := by
  cases s with
  | none => rfl
  | some s => cases s <;> rfl

theorem noWorse_trans {s t u : Option BigSegmentStatus} (hst : noWorse s t = true)
    (htu : noWorse t u = true) : noWorse s u = true := by
  cases s with
  | none => rfl
  | some s =>
    cases t with
    | none => cases hst
    | some t =>
      cases u with
      | none => cases htu
      | some u => exact atMost_trans hst htu

/-- A status is part of those that are no better. -/
theorem join_eq_right_iff {s t : Option BigSegmentStatus} : join s t = t ↔ noWorse s t = true := by
  cases s with
  | none => simp [noWorse]
  | some s =>
    cases t with
    | none => simp [noWorse]
    | some t => cases s <;> cases t <;> decide

theorem noWorse_join (s t : Option BigSegmentStatus) : noWorse s (join s t) = true := by
  cases s with
  | none => rfl
  | some s =>
    cases t with
    | none => exact atMost_refl s
    | some t => exact (atMost_worst s t).1

/-! ## Lists -/

theorem worstOf?_cons (s : BigSegmentStatus) (l : List BigSegmentStatus) :
    worstOf? (s :: l) = join (some s) (worstOf? l) := by
  rw [worstOf?]
  cases worstOf? l <;> rfl

theorem worstOf?_append_singleton (l : List BigSegmentStatus) (s : BigSegmentStatus) :
    worstOf? (l ++ [s]) = join (worstOf? l) (some s) := by
  induction l with
  | nil => rfl
  | cons t l ih => rw [List.cons_append, worstOf?_cons, worstOf?_cons, ih, join_assoc]

theorem worstOf?_eq_none_iff {l : List BigSegmentStatus} : worstOf? l = none ↔ l = [] := by
  cases l with
  | nil => simp [worstOf?]
  | cons s l => simp [worstOf?]

theorem mem_of_worstOf? {l : List BigSegmentStatus} {s : BigSegmentStatus}
    (h : worstOf? l = some s) : s ∈ l := by
  induction l generalizing s with
  | nil => cases h
  | cons t l ih =>
    rw [worstOf?_cons] at h
    cases hl : worstOf? l with
    | none =>
      rw [hl] at h
      cases h
      exact List.mem_cons_self
    | some w =>
      rw [hl] at h
      obtain rfl : t.worst w = s := Option.some.inj h
      rcases worst_eq t w with heq | heq
      · exact heq.symm ▸ List.mem_cons_self
      · exact heq.symm ▸ List.mem_cons_of_mem t (ih hl)

theorem noWorse_worstOf? {l : List BigSegmentStatus} {s : BigSegmentStatus} (h : s ∈ l) :
    noWorse (some s) (worstOf? l) = true := by
  induction l with
  | nil => exact absurd h List.not_mem_nil
  | cons t l ih =>
    rw [worstOf?_cons]
    rcases List.mem_cons.1 h with rfl | h
    · exact noWorse_join _ _
    · rw [join_comm]
      exact noWorse_trans (ih h) (noWorse_join _ _)

/-- **The most severe of some statuses** is one of them, and none is more severe. -/
theorem worstOf?_eq_some_iff {l : List BigSegmentStatus} {s : BigSegmentStatus} :
    worstOf? l = some s ↔ s ∈ l ∧ ∀ t ∈ l, t.atMost s = true := by
  have hmost : ∀ w, worstOf? l = some w → ∀ t ∈ l, t.atMost w = true := by
    intro w hw t ht
    have hworse := noWorse_worstOf? ht
    rwa [hw] at hworse
  refine ⟨fun h => ⟨mem_of_worstOf? h, hmost s h⟩, fun ⟨hmem, htop⟩ => ?_⟩
  cases hl : worstOf? l with
  | none => exact absurd hmem (worstOf?_eq_none_iff.1 hl ▸ List.not_mem_nil)
  | some w => rw [atMost_antisymm (htop w (mem_of_worstOf? hl)) (hmost w hl s hmem)]

end BigSegmentStatus

end FeatureFlags
