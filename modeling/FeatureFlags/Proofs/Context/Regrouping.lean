import Mathlib.Logic.Relation
import FeatureFlags.Proofs.Context.WellFormed

/-!
# Contexts put together in another way

Contexts can be put together all at once or some of them first, in any order, and a context of
several entities can be taken apart again before.  None of this matters: what contexts put together
are, or why there is nothing, depends on the entities alone, and not on their order or on the
contexts they come in.

The entities are what every step of such a regrouping keeps, up to their order.

## What is here

* `Context.combine_congr`, `combine_eq_error_iff`: what the result depends on, and when it fails.
* `Context.Regroups`: one step of regrouping a list of contexts.
* `Context.combine_regrouped`: any number of them change nothing.
-/

set_option autoImplicit false

namespace FeatureFlags.Context

variable {c d : Context} {cs ds : List Context} {e : Entity}

/-! ## What the result depends on -/

theorem flatMap_kinds (cs : List Context) :
    cs.flatMap kinds = (cs.flatMap entities).map Entity.kind :=
  List.map_flatMap.symm

/-- Nothing is put together, or a kind occurs twice. -/
theorem combine_eq_error_iff {err : BuildError} :
    combine cs = .error err ↔
      err = .noMembers ∧ cs.flatMap entities = [] ∨
        err = .repeatedKind ∧ ¬ (cs.flatMap kinds).Nodup := by
  rw [flatMap_kinds]
  unfold combine
  split
  · next hnil => simp [hnil, eq_comm]
  · next e hsingle => simp [hsingle]
  · next hnil _ =>
    have hne : cs.flatMap entities ≠ [] := hnil
    split
    · next hnodup => simp only [hne, hnodup, reduceCtorEq, not_true, and_false, or_false]
    · next hrepeated =>
      simp only [hne, hrepeated, Except.error.injEq, and_false, not_false_eq_true, and_true,
        false_or, eq_comm]

/-- **What contexts put together are depends on their entities alone**, in any order. -/
theorem combine_congr (h : (cs.flatMap entities).Perm (ds.flatMap entities)) :
    combine cs = combine ds := by
  cases hcs : combine cs with
  | ok c =>
    obtain ⟨hordered, hperm⟩ := combine_eq_ok_iff.1 hcs
    exact (combine_eq_ok_iff.2 ⟨hordered, hperm.trans h⟩).symm
  | error err =>
    refine (combine_eq_error_iff.2 ((combine_eq_error_iff.1 hcs).imp ?_ ?_)).symm
    · exact fun ⟨herr, hnil⟩ => ⟨herr, List.perm_nil.1 (hnil ▸ h.symm)⟩
    · refine fun ⟨herr, hrepeated⟩ => ⟨herr, fun hnodup => hrepeated ?_⟩
      rw [flatMap_kinds] at hnodup ⊢
      exact (h.map Entity.kind).nodup_iff.2 hnodup

/-- An ordered context alone is put together to itself. -/
theorem Ordered.combine_singleton (h : c.Ordered) : combine [c] = .ok c :=
  combine_eq_ok_iff.2 ⟨h, by rw [List.flatMap_singleton]⟩

theorem flatMap_entities_eq_nil_iff (h : ∀ c ∈ cs, c.Ordered) :
    cs.flatMap entities = [] ↔ cs = [] := by
  rw [List.flatMap_eq_nil_iff]
  refine ⟨fun hnil => List.eq_nil_iff_forall_not_mem.2 fun c hc => ?_, by rintro rfl; simp⟩
  exact (h c hc).entities_ne_nil (hnil c hc)

/-- A kind occurs twice if two of the entities have it. -/
theorem not_nodup_kinds_iff :
    ¬ (cs.flatMap kinds).Nodup ↔
      ∃ d e : Entity, List.Sublist [d, e] (cs.flatMap entities) ∧ d.kind = e.kind := by
  rw [flatMap_kinds, List.Nodup, List.pairwise_map, List.pairwise_iff_forall_sublist]
  simp

/-! ## Regrouping -/

/-- One step of regrouping a list of contexts: put them in another order, replace one of them by
its entities, or put some of them together first. -/
inductive Regroups : List Context → List Context → Prop
  | permute {cs ds : List Context} : ds.Perm cs → Regroups cs ds
  | flatten (before after : List Context) {c : Context} {es : List Entity} : es.Perm c.entities →
      Regroups (before ++ c :: after) (before ++ es.map single ++ after)
  | group {cs group rest : List Context} {d : Context} : (group ++ rest).Perm cs →
      combine group = .ok d → Regroups cs (d :: rest)

theorem Obtainable.of_mem (h : c.Obtainable) (he : e ∈ c.entities) : (single e).Obtainable :=
  .select h (h.ordered.entity?_eq_some_iff.2 ⟨he, rfl⟩)

namespace Regroups

/-- A step keeps the entities. -/
theorem perm_entities (h : Regroups cs ds) :
    (ds.flatMap entities).Perm (cs.flatMap entities) := by
  cases h with
  | permute hperm => exact hperm.flatMap_right entities
  | flatten before after hes =>
    simp only [List.flatMap_append, List.flatMap_cons, flatMap_entities_single, List.append_assoc]
    exact (hes.append_right _).append_left _
  | group hperm hd =>
    have hall := hperm.flatMap_right entities
    rw [List.flatMap_append] at hall
    rw [List.flatMap_cons]
    exact ((combine_eq_ok_iff.1 hd).2.append_right _).trans hall

/-- A step leads from contexts that can be made to such contexts. -/
theorem obtainable (h : Regroups cs ds) (hcs : ∀ c ∈ cs, c.Obtainable) :
    ∀ d ∈ ds, d.Obtainable := by
  cases h with
  | permute hperm => exact fun d hd => hcs d (hperm.mem_iff.1 hd)
  | flatten before after hes =>
    simp only [List.mem_append, List.mem_cons, List.mem_map] at hcs ⊢
    rintro d ((hd | ⟨e, he, rfl⟩) | hd)
    · exact hcs d (Or.inl hd)
    · exact (hcs _ (Or.inr (Or.inl rfl))).of_mem (hes.mem_iff.1 he)
    · exact hcs d (Or.inr (Or.inr hd))
  | group hperm hd =>
    have hall := fun c hc => hcs c (hperm.mem_iff.1 hc)
    refine List.forall_mem_cons.2 ⟨.combine (fun c hc => ?_) hd, fun c hc => ?_⟩
    · exact hall c (List.mem_append_left _ hc)
    · exact hall c (List.mem_append_right _ hc)

end Regroups

/-- What every step keeps, any number of steps keep. -/
theorem perm_entities_of_regroups (h : Relation.ReflTransGen Regroups cs ds) :
    (ds.flatMap entities).Perm (cs.flatMap entities) := by
  induction h with
  | refl => exact List.Perm.refl _
  | tail _ hstep ih => exact hstep.perm_entities.trans ih

theorem obtainable_of_regroups (h : Relation.ReflTransGen Regroups cs ds)
    (hcs : ∀ c ∈ cs, c.Obtainable) : ∀ d ∈ ds, d.Obtainable := by
  induction h with
  | refl => exact hcs
  | tail _ hstep ih => exact hstep.obtainable ih

/-- **Contexts are put together in any order and grouping.**  Regroup contexts in any number of
steps, and the result is the very same context, or the same error; some of the contexts can be put
together first whenever there are any and no kind occurs twice among them; one context alone is put
together to itself; and there is an error only if there is no context, or if two of the entities are
of one kind. -/
theorem combine_regrouped (hcs : ∀ c ∈ cs, c.Obtainable) :
    (∀ ds, Relation.ReflTransGen Regroups cs ds →
      (∀ d ∈ ds, d.Obtainable) ∧ combine ds = combine cs) ∧
    (∀ group rest : List Context, (group ++ rest).Perm cs → group ≠ [] →
      (group.flatMap kinds).Nodup → ∃ d, combine group = .ok d ∧ Regroups cs (d :: rest)) ∧
    (∀ c : Context, c.Obtainable → combine [c] = .ok c) ∧
    (∀ err, combine cs = .error err ↔
      err = .noMembers ∧ cs = [] ∨
        err = .repeatedKind ∧
          ∃ d e : Entity, List.Sublist [d, e] (cs.flatMap entities) ∧ d.kind = e.kind) := by
  refine ⟨fun ds h => ⟨obtainable_of_regroups h hcs, combine_congr (perm_entities_of_regroups h)⟩,
    fun group rest hperm hne hnodup => ?_, fun c hc => hc.ordered.combine_singleton, fun err => ?_⟩
  · have hordered : ∀ c ∈ group, c.Ordered := fun c hc =>
      (hcs c (hperm.mem_iff.1 (List.mem_append_left rest hc))).ordered
    obtain ⟨d, hd⟩ := exists_combine_eq_ok (mt (flatMap_entities_eq_nil_iff hordered).1 hne)
      (flatMap_kinds group ▸ hnodup)
    exact ⟨d, hd, .group hperm hd⟩
  · rw [combine_eq_error_iff, not_nodup_kinds_iff,
      flatMap_entities_eq_nil_iff fun c hc => (hcs c hc).ordered]

/-- A device and a user put together are taken apart and put together to the same context, but not
with the device once more. -/
theorem combine_regrouped_deviceAndSubscriber :
    combine [single subscriber, single device] = combine [deviceAndSubscriber] ∧
      combine [deviceAndSubscriber] = .ok deviceAndSubscriber ∧
      combine [deviceAndSubscriber, single device] = .error .repeatedKind := by
  obtain ⟨hsame, -, hself, -⟩ := combine_regrouped
    (List.forall_mem_singleton.2 obtainable_deviceAndSubscriber)
  obtain ⟨-, -, -, herror⟩ := combine_regrouped (List.forall_mem_cons.2
    ⟨obtainable_deviceAndSubscriber, List.forall_mem_singleton.2 obtainable_device⟩)
  have hswap : [subscriber, device].Perm deviceAndSubscriber.entities := .swap device subscriber []
  have htwice : List.Sublist [device, device]
      ([deviceAndSubscriber, single device].flatMap entities) :=
    .cons_cons device (.cons subscriber (.refl [device]))
  refine ⟨(hsame _ (.single (.flatten [] [] hswap))).2, hself _ obtainable_deviceAndSubscriber, ?_⟩
  exact (herror .repeatedKind).2 (Or.inr ⟨rfl, device, device, htwice, rfl⟩)

end FeatureFlags.Context
