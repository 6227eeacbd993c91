import Mathlib.Data.List.Forall2
import FeatureFlags.Proofs.Context.Combination
import FeatureFlags.Proofs.Context.Reading

/-!
# The forms of a context

An object without a kind is a user in the older form, one of the kind `multi` holds several bodies
under their kinds, and one of any other kind is a body itself.  For each form there is one statement
of what reading an object gives, in terms of the readers of entities.

## What is here

* `Context.ofJson_user_iff`, `ofJson_multi_iff`, `ofJson_single_iff`: reading, one form at a time.
* `Context.membersOfJson_eq_ok_iff`: the bodies of several kinds, each read under its own.
-/

set_option autoImplicit false

namespace FeatureFlags

/-- The members of an object other than its kind. -/
def withoutKind (ms : List (String × Json)) : List (String × Json) :=
  ms.filter fun m => m.1 ≠ "kind"

theorem lookup_withoutKind (name : String) (ms : List (String × Json)) :
    SortedMap.lookup name (withoutKind ms) =
      if name = "kind" then none else SortedMap.lookup name ms := by
  rw [withoutKind, SortedMap.lookup_filter_ne]
  simp only [eq_comm]

theorem nodup_withoutKind {ms : List (String × Json)} (h : (ms.map Prod.fst).Nodup) :
    ((withoutKind ms).map Prod.fst).Nodup :=
  h.sublist (List.filter_sublist.map _)

/-! ## One form at a time -/

theorem Entity.kind_of_ofBody_eq_ok {kind : Kind} {j : Json} {e : Entity}
    (h : Entity.ofBody kind j = .ok e) : e.kind = kind := by
  obtain ⟨ms, -, -, -, rfl⟩ := Entity.ofBody_eq_ok_iff.1 h
  rfl

/-- An entity is what the body under its kind is read as. -/
def Entity.IsReadFrom (m : String × Json) (e : Entity) : Prop :=
  e.kind.name = m.1 ∧ Entity.ofBody e.kind m.2 = .ok e

namespace Context

variable {ms : List (String × Json)} {c : Context}

/-- The members of a context of several kinds are read if each of them is. -/
theorem membersOfJson_eq_ok_iff {l : List (String × Json)} {cs : List Context} :
    membersOfJson l = .ok cs ↔
      ∃ es : List Entity, cs = es.map single ∧ List.Forall₂ Entity.IsReadFrom l es := by
  induction l generalizing cs with
  | nil =>
    simp only [membersOfJson, List.forall₂_nil_left_iff]
    constructor
    · rintro ⟨⟩
      exact ⟨[], rfl, rfl⟩
    · rintro ⟨es, rfl, rfl⟩
      rfl
  | cons m l ih =>
    obtain ⟨name, body⟩ := m
    rw [membersOfJson]
    simp only [List.forall₂_cons_left_iff]
    cases hkind : Kind.ofString name with
    | error e =>
      constructor
      · rintro ⟨⟩
      · rintro ⟨es, -, e', es', ⟨hname, -⟩, -, -⟩
        rw [Kind.ofString_eq_ok_iff.2 hname] at hkind
        cases hkind
    | ok kind =>
      have hname : kind.name = name := Kind.ofString_eq_ok_iff.1 hkind
      simp only [Decode.bind_eq_ok_iff, ih]
      constructor
      · rintro ⟨e, he, _, ⟨es, rfl, hes⟩, ⟨⟩⟩
        obtain rfl : e.kind = kind := Entity.kind_of_ofBody_eq_ok he
        exact ⟨e :: es, rfl, e, es, ⟨hname, he⟩, hes, rfl⟩
      · rintro ⟨_, rfl, e, es, ⟨hname', he⟩, hes, rfl⟩
        obtain rfl : e.kind = kind := Kind.eq_of_name_eq (hname'.trans hname.symm)
        exact ⟨e, he, _, ⟨es, rfl, hes⟩, rfl⟩

/-- Each of several entities that are read has been read from some body. -/
theorem exists_ofBody_of_mem {l : List (String × Json)} {es : List Entity}
    (hes : List.Forall₂ Entity.IsReadFrom l es) :
    ∀ e ∈ es, ∃ j, Entity.ofBody e.kind j = .ok e := by
  induction hes with
  | nil => exact fun e he => absurd he List.not_mem_nil
  | cons h _ ih => exact List.forall_mem_cons.2 ⟨⟨_, h.2⟩, ih⟩

theorem flatMap_entities_single (es : List Entity) : (es.map single).flatMap entities = es := by
  rw [List.flatMap_map]
  exact List.flatMap_singleton' es

/-- Which form an object has is seen from its kind. -/
theorem ofJson_object_eq (ms : List (String × Json)) :
    ofJson (.object ms) =
      match SortedMap.lookup "kind" ms with
      | none => do return .single (← Entity.ofUser (.object ms))
      | some (.string "multi") => do
        match combine (← membersOfJson (withoutKind ms)) with
        | .ok c => return c
        | .error e => throw (.build e)
      | some kind => do
        return .single (← Entity.ofBody (← Decode.kind kind) (.object (withoutKind ms))) :=
  rfl

/-- An object without a kind is read as a user. -/
theorem ofJson_user_iff (h : SortedMap.lookup "kind" ms = none) :
    ofJson (.object ms) = .ok c ↔ ∃ e, Entity.ofUser (.object ms) = .ok e ∧ c = .single e := by
  simp only [ofJson_object_eq, h, Decode.bind_eq_ok_iff]
  refine exists_congr fun e => and_congr_right fun _ => ⟨?_, ?_⟩
  · rintro ⟨⟩
    rfl
  · rintro rfl
    rfl

/-- An object of the kind `multi` is read as the context of its other members. -/
theorem ofJson_multi_iff (h : SortedMap.lookup "kind" ms = some (.string multiKindName)) :
    ofJson (.object ms) = .ok c ↔
      ∃ es, List.Forall₂ Entity.IsReadFrom (withoutKind ms) es ∧ c.Ordered ∧
        c.entities.Perm es := by
  simp only [ofJson_object_eq, h, multiKindName, Decode.bind_eq_ok_iff, membersOfJson_eq_ok_iff]
  constructor
  · rintro ⟨_, ⟨es, rfl, hes⟩, hc⟩
    split at hc
    · next heq =>
      cases hc
      obtain ⟨hordered, hperm⟩ := combine_eq_ok_iff.1 heq
      exact ⟨es, hes, hordered, flatMap_entities_single es ▸ hperm⟩
    · cases hc
  · rintro ⟨es, hes, hordered, hperm⟩
    refine ⟨_, ⟨es, rfl, hes⟩, ?_⟩
    rw [combine_eq_ok_iff.2 ⟨hordered, (flatMap_entities_single es).symm ▸ hperm⟩]
    rfl

/-- An object of any other kind is read as a body of that kind. -/
theorem ofJson_single_iff {j : Json} (h : SortedMap.lookup "kind" ms = some j)
    (hj : j ≠ .string multiKindName) :
    ofJson (.object ms) = .ok c ↔ ∃ e : Entity, j = .string e.kind.name ∧
      Entity.ofBody e.kind (.object (withoutKind ms)) = .ok e ∧ c = .single e := by
  have hread : ofJson (.object ms) = (do
      return .single (← Entity.ofBody (← Decode.kind j) (.object (withoutKind ms)))) := by
    rw [ofJson_object_eq, h]
    split
    · next heq => cases heq
    · next heq => exact absurd (Option.some.inj heq) hj
    · next heq =>
      cases heq
      rfl
  simp only [hread, Decode.bind_eq_ok_iff, Decode.kind_eq_ok_iff]
  constructor
  · rintro ⟨kind, hkind, e, he, ⟨⟩⟩
    obtain rfl : e.kind = kind := Entity.kind_of_ofBody_eq_ok he
    exact ⟨e, hkind, he, rfl⟩
  · rintro ⟨e, hkind, he, rfl⟩
    exact ⟨e.kind, hkind, e, he, rfl⟩

end Context

end FeatureFlags
