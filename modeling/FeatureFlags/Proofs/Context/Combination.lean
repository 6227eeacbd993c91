import Mathlib.Data.List.Nodup
import FeatureFlags.Context.Builder

/-!
# Contexts of several entities

The entities of a context stand in the order of their kinds, so no kind occurs twice, and a context
is known once its entities are known in any order.  Putting contexts together gives the context of
all their entities, if there is one.

## What is here

* `Context.Ordered`: one entity, or several in the order of their kinds.
* `Context.combine_eq_ok_iff`: what contexts put together are.
* `Context.Ordered.entity?_eq_some_iff`, `entries_keys`: what an ordered context says of a kind.
-/

set_option autoImplicit false

namespace FeatureFlags

/-- The order of entities in a context: the names of their kinds strictly increase. -/
def Entity.KindOrder (d e : Entity) : Prop := d.kind.name < e.kind.name

theorem Entity.KindOrder.asymm {d e : Entity} (h : d.KindOrder e) : ¬ e.KindOrder d := fun h' =>
  String.lt_irrefl _ (String.lt_trans h h')

namespace Context

/-- One entity, or at least two in the order of their kinds. -/
def Ordered : Context → Prop
  | single _ => True
  | multi members => 2 ≤ members.length ∧ members.Pairwise Entity.KindOrder

variable {c d : Context} {cs : List Context} {e : Entity} {kind : Kind}

namespace Ordered

theorem pairwise (h : c.Ordered) : c.entities.Pairwise Entity.KindOrder := by
  cases c with
  | single e => exact List.pairwise_singleton _ e
  | multi members => exact h.2

theorem nodup_kinds (h : c.Ordered) : c.kinds.Nodup := by
  refine List.pairwise_map.2 (h.pairwise.imp fun {d e} hlt heq => ?_)
  rw [Entity.KindOrder, heq] at hlt
  exact String.lt_irrefl _ hlt

theorem entities_ne_nil (h : c.Ordered) : c.entities ≠ [] := by
  cases c with
  | single e => exact List.cons_ne_nil e []
  | multi members =>
    intro heq
    have hlength : 2 ≤ members.length := h.1
    rw [show members = [] from heq] at hlength
    cases hlength

/-- **An ordered context is known by its entities.** -/
theorem eq_of_perm (hc : c.Ordered) (hd : d.Ordered) (h : c.entities.Perm d.entities) : c = d := by
  have heq : c.entities = d.entities :=
    h.eq_of_pairwise (fun a b _ _ hab hba => absurd hba hab.asymm) hc.pairwise hd.pairwise
  -- one entity alone is never a context of several
  have hsingle : ∀ e members, (multi members).Ordered → members ≠ [e] := fun e members h heq =>
    absurd h.1 (by rw [heq]; exact Nat.lt_irrefl 1)
  cases c with
  | single e =>
    cases d with
    | single e' =>
      cases heq
      rfl
    | multi members => exact absurd heq.symm (hsingle e members hd)
  | multi members =>
    cases d with
    | single e => exact absurd heq (hsingle e members hc)
    | multi members' => exact congrArg multi heq

/-- Looking up a kind finds the only entity that has it. -/
theorem entity?_eq_some_iff (h : c.Ordered) :
    c.entity? kind = some e ↔ e ∈ c.entities ∧ e.kind = kind := by
  constructor
  · intro he
    exact ⟨List.mem_of_find?_eq_some he, by simpa using List.find?_some he⟩
  · rintro ⟨hmem, rfl⟩
    cases hfind : c.entity? e.kind with
    | none => exact absurd (List.find?_eq_none.1 hfind e hmem) (by simp)
    | some d =>
      have hd : d ∈ c.entities := List.mem_of_find?_eq_some hfind
      have hkind : d.kind = e.kind := by simpa using List.find?_some hfind
      exact congrArg some (List.inj_on_of_nodup_map h.nodup_kinds hd hmem hkind)

theorem isSome_entity?_iff (h : c.Ordered) : (c.entity? kind).isSome = true ↔ kind ∈ c.kinds := by
  simp only [Option.isSome_iff_exists, h.entity?_eq_some_iff, kinds, List.mem_map]

/-- There is one key for each kind, in the order of the kinds. -/
theorem entries_keys (h : c.Ordered) :
    c.keys.entries = c.entities.map fun e => (e.kind.name, e.key) :=
  SortedMap.entries_ofList (List.pairwise_map.2 h.pairwise)

end Ordered

/-! ## Putting contexts together -/

/-- Entities of different kinds, sorted, stand in the order of their kinds. -/
theorem pairwise_mergeSort {es : List Entity} (hnodup : (es.map Entity.kind).Nodup) :
    (es.mergeSort fun d e => decide (d.kind.name ≤ e.kind.name)).Pairwise Entity.KindOrder := by
  let sorted := es.mergeSort fun d e => decide (d.kind.name ≤ e.kind.name)
  have hle : sorted.Pairwise fun d e => decide (d.kind.name ≤ e.kind.name) = true := by
    refine List.pairwise_mergeSort (fun a b c hab hbc => ?_) (fun a b => ?_) es
    · exact decide_eq_true (String.le_trans (of_decide_eq_true hab) (of_decide_eq_true hbc))
    · simpa using String.le_total a.kind.name b.kind.name
  have hne : sorted.Pairwise fun d e => d.kind ≠ e.kind :=
    List.pairwise_map.1 (((List.mergeSort_perm es _).map Entity.kind).nodup_iff.2 hnodup)
  refine (hle.and hne).imp fun {d e} ⟨hde, hkind⟩ => ?_
  -- names that are ordered and different are strictly ordered
  refine (Decidable.byContradiction fun hlt => hkind (Kind.eq_of_name_eq ?_) :
    d.kind.name < e.kind.name)
  exact String.le_antisymm (of_decide_eq_true hde) (String.not_lt.1 hlt)

theorem ordered_of_combine_eq_ok (h : combine cs = .ok c) :
    c.Ordered ∧ c.entities.Perm (cs.flatMap entities) := by
  unfold combine at h
  split at h
  · cases h
  · next e heq =>
    cases h
    rw [heq]
    exact ⟨trivial, List.Perm.refl _⟩
  · next hnil hsingle =>
    split at h
    · next hnodup =>
      cases h
      refine ⟨⟨?_, ?_⟩, List.mergeSort_perm _ _⟩
      · rw [List.length_mergeSort]
        match hes : cs.flatMap entities with
        | [] => exact absurd hes hnil
        | [e] => exact absurd hes (hsingle e)
        | _ :: _ :: _ => exact Nat.le_add_left 2 _
      · exact pairwise_mergeSort hnodup
    · cases h

theorem exists_combine_eq_ok (hne : cs.flatMap entities ≠ [])
    (hnodup : ((cs.flatMap entities).map Entity.kind).Nodup) : ∃ c, combine cs = .ok c := by
  unfold combine
  split
  · next heq => exact absurd heq hne
  · exact ⟨_, rfl⟩
  · rw [if_pos hnodup]
    exact ⟨_, rfl⟩

/-- **Contexts put together** are the ordered context of all their entities. -/
theorem combine_eq_ok_iff :
    combine cs = .ok c ↔ c.Ordered ∧ c.entities.Perm (cs.flatMap entities) := by
  refine ⟨ordered_of_combine_eq_ok, fun ⟨hordered, hperm⟩ => ?_⟩
  obtain ⟨d, hd⟩ : ∃ d, combine cs = .ok d := exists_combine_eq_ok
    (fun hnil => hordered.entities_ne_nil (List.perm_nil.1 (hnil ▸ hperm)))
    ((hperm.map Entity.kind).nodup_iff.1 hordered.nodup_kinds)
  obtain ⟨hordered', hperm'⟩ := ordered_of_combine_eq_ok hd
  rw [hd, hordered.eq_of_perm hordered' (hperm.trans hperm'.symm)]

end Context

end FeatureFlags
