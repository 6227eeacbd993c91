import FeatureFlags.Proofs.Step.Isolation
import FeatureFlags.Proofs.Step.Nested

/-!
# What an evaluation leaves behind only grows

Records and events are added at the end, and a status only gives way to one at least as severe.  So
whatever an evaluation has left behind at some point is part of what it leaves behind in the end,
also if it fails.

## What is here

* `Scope.Grows`: what has been left behind in one scope is part of what has been in another.
* `Eval.snd_bind`: where one step and then another end.
* `Eval.Growing`: steps that lose nothing.
* `Evaluation.ofRun_records` and others: what a result takes from what has been left behind.
-/

set_option autoImplicit false

namespace FeatureFlags

open BigSegmentStatus (noWorse noWorse_refl noWorse_trans noWorse_join)

/-! ## Scopes -/

/-- What has been left behind in the first scope is part of what has been in the second. -/
structure Scope.Grows (s t : Scope) : Prop where
  /-- Records are added at the end. -/
  records : s.records <+: t.records
  /-- Events are added at the end. -/
  events : s.events <+: t.events
  /-- The status gets no better. -/
  status : noWorse s.status t.status = true

/-- Two scopes have the same left behind in them. -/
structure Scope.SameTrace (s t : Scope) : Prop where
  /-- The same records have been added. -/
  records : t.records = s.records
  /-- The same has happened. -/
  events : t.events = s.events
  /-- The same status is known. -/
  status : t.status = s.status

namespace Scope.Grows

theorem refl (s : Scope) : s.Grows s :=
  ⟨List.prefix_refl _, List.prefix_refl _, noWorse_refl _⟩

theorem trans {s t u : Scope} (hst : s.Grows t) (htu : t.Grows u) : s.Grows u :=
  ⟨hst.records.trans htu.records, hst.events.trans htu.events, noWorse_trans hst.status htu.status⟩

/-- Chains are not part of what is left behind. -/
theorem of_sameTrace {s s' t t' : Scope} (h : s.Grows t) (hs : s.SameTrace s')
    (ht : t.SameTrace t') : s'.Grows t' := by
  refine ⟨?_, ?_, ?_⟩
  · rw [hs.records, ht.records]
    exact h.records
  · rw [hs.events, ht.events]
    exact h.events
  · rw [hs.status, ht.status]
    exact h.status

/-- Queries are events. -/
theorem queries {s t : Scope} (h : s.Grows t) : s.queries <+: t.queries := h.events.filterMap _

end Scope.Grows

/-! ## Steps -/

namespace Eval

variable {α β : Type}

/-- One step and then another end where the first does, or where the other does from there. -/
theorem snd_bind (x : Eval α) (f : α → Eval β) (s : Scope) :
    ((x >>= f) s).2 = (x s).2 ∨ ∃ a, ((x >>= f) s).2 = (f a (x s).2).2 := by
  simp only [Bind.bind, Eval.bind]
  rcases x s with ⟨r, t⟩
  cases r with
  | error e => exact Or.inl rfl
  | ok a => exact Or.inr ⟨a, rfl⟩

/-- The step loses nothing that has been left behind. -/
def Growing (x : Eval α) : Prop := ∀ s : Scope, s.Grows (x s).2

namespace Growing

/-- A step that leaves the scope as it is. -/
theorem still {x : Eval α} (h : ∀ s, (x s).2 = s) : Growing x := fun s =>
  (h s).symm ▸ Scope.Grows.refl s

theorem bind {x : Eval α} {f : α → Eval β} (hx : Growing x) (hf : ∀ a, Growing (f a)) :
    Growing (x >>= f) := by
  intro s
  rcases snd_bind x f s with hend | ⟨a, hend⟩
  · rw [hend]
    exact hx s
  · rw [hend]
    exact (hx s).trans (hf a _)

theorem note (e : Event) : Growing (Eval.note e) := fun _ =>
  ⟨List.prefix_refl _, List.prefix_append _ _, noWorse_refl _⟩

theorem warn (ws : List Warning) : Growing (Eval.warn ws) := fun _ =>
  ⟨List.prefix_refl _, List.prefix_refl _, noWorse_refl _⟩

theorem record (g : Flag) (parent : String) (detail : Detail FlagValue) :
    Growing (Eval.record g parent detail) := fun _ =>
  ⟨List.prefix_append _ _, List.prefix_refl _, noWorse_refl _⟩

theorem observe (status : BigSegmentStatus) : Growing (Environment.observe status) := by
  intro s
  refine ⟨List.prefix_refl _, List.prefix_refl _, ?_⟩
  rw [Environment.observe_status]
  exact noWorse_join _ _

theorem around {before after : Scope → Scope} {x : Eval α}
    (hbefore : ∀ s : Scope, s.SameTrace (before s)) (hafter : ∀ s : Scope, s.SameTrace (after s))
    (h : Growing x) : Growing (Eval.around before after x) := by
  intro s
  have hentered : s.Grows (before s) := (Scope.Grows.refl s).of_sameTrace ⟨rfl, rfl, rfl⟩ (hbefore s)
  exact hentered.trans ((h _).of_sameTrace ⟨rfl, rfl, rfl⟩ (hafter _))

end Growing

end Eval

/-! ## Results

A result holds what has been left behind in the end, whether the evaluation has failed or not. -/

namespace Evaluation

variable (f : Flag) (r : Except EvalError (Detail FlagValue) × Scope)

theorem ofRun_records : (ofRun f r).records = r.2.records := by
  rcases r with ⟨_ | _, s⟩ <;> rfl

theorem ofRun_queries : (ofRun f r).queries = r.2.queries := by
  rcases r with ⟨_ | _, s⟩ <;> rfl

theorem ofRun_status : (ofRun f r).detail.status = r.2.status := by
  rcases r with ⟨_ | _, s⟩ <;> rfl

end Evaluation

end FeatureFlags
