import FeatureFlags.Flag.Basic
import Mathlib.Data.List.Basic
import Mathlib.Data.List.Find

/-!
# Targets of two ages

A flag may have two lists of targets.  The older ones are looked at alone only if there are no
others.  Otherwise the newer ones are looked at, and the older ones have to wait for their turn: it
comes where a newer target for users has no keys.  Such a target is a placeholder, and stands for
all older ones with its variation.

The search goes through the newer targets and searches the older ones again at every placeholder.
It never holds a list of what it looks at in all.  There is such a list though: the newer targets
with every placeholder replaced in its place.  Searching it in one go comes to the same, and that
tells what the search is bound to do with keys that are listed more than once.

Nothing else of the older targets is ever looked at.  So they may be replaced by any others which
agree on the variations that placeholders name, and the merged list will be the same.

## What is here

* `Target.Lists`, `Target.IsFirstListed`: what a target lists, and the first that does.
* `Target.Merges`, `Flag.IsEffective`: the list of targets that are looked at.
* `Flag.effectiveTargets`: that list, computed.
* `Flag.targetVariation?_eq`: the search is one through this list.
-/

set_option autoImplicit false

namespace FeatureFlags

/-! ## Targets -/

namespace Target

variable {c d : Context} {t : Target} {older newer merged effective : List Target}

/-- The context has the kind of the target, and the key of its entity of that kind is among the
values of the target. -/
def Lists (t : Target) (c : Context) : Prop :=
  ∃ e, c.entity? t.contextKind = some e ∧ e.key ∈ t.values

/-- The target lists the context, and none before it in the list does. -/
def IsFirstListed (effective : List Target) (c : Context) (t : Target) : Prop :=
  ∃ before after, effective = before ++ t :: after ∧ (∀ u ∈ before, ¬ u.Lists c) ∧ t.Lists c

theorem lists_eq_true_iff : t.lists c = true ↔ t.Lists c := by
  simp [lists, Lists, Option.any_eq_true]

instance (t : Target) (c : Context) : Decidable (t.Lists c) := decidable_of_iff _ lists_eq_true_iff

/-- Only the key of the entity of its kind matters to a target. -/
theorem lists_congr
    (h : (c.entity? t.contextKind).map Entity.key = (d.entity? t.contextKind).map Entity.key) :
    t.lists c = t.lists d := by
  have hkey (c : Context) : t.lists c = ((c.entity? t.contextKind).map Entity.key).any
      fun key => t.values.contains key := by
    rw [lists, Option.any_map]
  rw [hkey, hkey, h]

theorem isPlaceholder_iff : t.isPlaceholder = true ↔ t.contextKind = .user ∧ t.values = [] := by
  simp [isPlaceholder, Kind.isUser]

theorem find?_eq_some_iff : effective.find? (fun t => t.lists c) = some t ↔
    IsFirstListed effective c t := by
  simp only [List.find?_eq_some_iff_append, IsFirstListed, lists_eq_true_iff, Bool.not_eq_true',
    ← Bool.not_eq_true]
  constructor
  · rintro ⟨ht, before, after, heq, hbefore⟩
    exact ⟨before, after, heq, hbefore, ht⟩
  · rintro ⟨before, after, heq, hbefore, ht⟩
    exact ⟨ht, before, after, heq, hbefore⟩

theorem find?_eq_none_iff : effective.find? (fun t => t.lists c) = none ↔
    ∀ t ∈ effective, ¬ t.Lists c := by
  simp only [List.find?_eq_none, lists_eq_true_iff]

/-- A search for the variation that a target serves is one for the target. -/
theorem findSome?_serve? (l : List Target) (c : Context) :
    l.findSome? (fun t => t.serve? c) = (l.find? fun t => t.lists c).map variation := by
  induction l with
  | nil => rfl
  | cons t l ih => by_cases h : t.lists c = true <;> simp_all [serve?]

/-! ## Merging -/

/-- The newer targets in their order, but with the older ones of the same variation in the place of
every placeholder, in their own order. -/
inductive Merges (older : List Target) : List Target → List Target → Prop where
  | nil : Merges older [] []
  | placeholder {t : Target} {newer merged : List Target} (hkind : t.contextKind = .user)
      (hvalues : t.values = []) (h : Merges older newer merged) :
      Merges older (t :: newer) (older.filter (fun o => o.variation = t.variation) ++ merged)
  | target {t : Target} {newer merged : List Target} (ht : t.contextKind = .user → t.values ≠ [])
      (h : Merges older newer merged) : Merges older (t :: newer) (t :: merged)

/-- What comes of one of the newer targets. -/
def expand (older : List Target) (t : Target) : List Target :=
  if t.isPlaceholder then older.filter fun o => o.variation == t.variation else [t]

theorem merges_iff : Merges older newer merged ↔ merged = newer.flatMap (expand older) := by
  constructor
  · intro h
    induction h with
    | nil => rfl
    | @placeholder t newer merged hkind hvalues _ ih =>
      rw [List.flatMap_cons, expand, if_pos (isPlaceholder_iff.2 ⟨hkind, hvalues⟩), ← ih]
      rfl
    | @target t newer merged ht _ ih =>
      have hno : ¬ t.isPlaceholder = true := fun h =>
        ht (isPlaceholder_iff.1 h).1 (isPlaceholder_iff.1 h).2
      rw [List.flatMap_cons, expand, if_neg hno, ← ih]
      rfl
  · rintro rfl
    induction newer with
    | nil => exact .nil
    | cons t newer ih =>
      rw [List.flatMap_cons, expand]
      split
      · next hplaceholder =>
        obtain ⟨hkind, hvalues⟩ := isPlaceholder_iff.1 hplaceholder
        exact .placeholder hkind hvalues ih
      · next hno =>
        exact .target (fun hkind hvalues => hno (isPlaceholder_iff.2 ⟨hkind, hvalues⟩)) ih

/-- Searching what comes of one of the newer targets is searching in its place. -/
theorem map_find?_expand (older : List Target) (t : Target) (c : Context) :
    ((expand older t).find? fun u => u.lists c).map variation =
      if t.isPlaceholder then
        (older.filter fun o => o.variation == t.variation).findSome? fun o => o.serve? c
      else t.serve? c := by
  rw [← findSome?_serve?, expand]
  split
  · rfl
  · rw [List.findSome?_singleton]

end Target

/-! ## Flags -/

namespace Flag

variable {f : Flag} {c d : Context} {t : Target} {l : List Target} {index : Nat}

/-- The list of the targets that a flag looks at: the older ones if there are no others, and the
newer ones with the placeholders replaced otherwise. -/
def IsEffective (f : Flag) (l : List Target) : Prop :=
  (f.contextTargets = [] ∧ l = f.targets) ∨
    (f.contextTargets ≠ [] ∧ Target.Merges f.targets f.contextTargets l)

/-- The targets of a flag in the order in which they are looked at. -/
def effectiveTargets (f : Flag) : List Target :=
  if f.contextTargets.isEmpty then f.targets
  else f.contextTargets.flatMap (Target.expand f.targets)

theorem isEffective_iff : f.IsEffective l ↔ l = f.effectiveTargets := by
  rw [IsEffective, effectiveTargets]
  by_cases h : f.contextTargets = []
  · simp [h]
  · simp only [h, List.isEmpty_iff, if_false, false_and, ne_eq, not_false_eq_true, true_and,
      false_or]
    exact Target.merges_iff

/-- Targets that stand for older ones are replaced by these, so all that are looked at are targets
of the flag. -/
theorem mem_of_mem_effectiveTargets (h : t ∈ f.effectiveTargets) :
    t ∈ f.targets ++ f.contextTargets := by
  rw [effectiveTargets] at h
  split at h
  · exact List.mem_append_left _ h
  · obtain ⟨u, hu, ht⟩ := List.mem_flatMap.1 h
    rw [Target.expand] at ht
    split at ht
    · exact List.mem_append_left _ (List.mem_of_mem_filter ht)
    · exact List.mem_append_right _ (List.mem_singleton.1 ht ▸ hu)

/-- **The search is one through the merged list.** -/
theorem targetVariation?_eq (f : Flag) (c : Context) :
    f.targetVariation? c = (f.effectiveTargets.find? fun t => t.lists c).map Target.variation := by
  rw [targetVariation?, effectiveTargets]
  split
  · exact Target.findSome?_serve? f.targets c
  · rw [List.find?_flatMap, List.map_findSome?]
    simp only [Function.comp_def, Target.map_find?_expand]

/-- The variation found is that of the first target that lists the context. -/
theorem targetVariation?_eq_some_iff : f.targetVariation? c = some index ↔
    ∃ t, Target.IsFirstListed f.effectiveTargets c t ∧ t.variation = index := by
  simp only [targetVariation?_eq, Option.map_eq_some_iff, Target.find?_eq_some_iff]

/-- No variation is found just if no target lists the context. -/
theorem targetVariation?_eq_none_iff : f.targetVariation? c = none ↔
    ∀ t ∈ f.effectiveTargets, ¬ t.Lists c := by
  rw [targetVariation?_eq, Option.map_eq_none_iff, Target.find?_eq_none_iff]

/-- Contexts that the targets list alike are found alike. -/
theorem targetVariation?_congr (h : ∀ t ∈ f.effectiveTargets, t.lists c = t.lists d) :
    f.targetVariation? c = f.targetVariation? d := by
  rw [targetVariation?_eq, targetVariation?_eq, List.find?_congr h]

/-- The older targets may be any that agree on the variations which placeholders name. -/
theorem effectiveTargets_withTargets (hnewer : f.contextTargets ≠ []) {targets : List Target}
    (h : ∀ t ∈ f.contextTargets, t.contextKind = .user → t.values = [] →
      targets.filter (fun o => o.variation = t.variation) =
        f.targets.filter fun o => o.variation = t.variation) :
    { f with targets }.effectiveTargets = f.effectiveTargets := by
  have hexpand : ∀ t ∈ f.contextTargets, Target.expand targets t = Target.expand f.targets t := by
    intro t ht
    rw [Target.expand, Target.expand]
    split
    · next hplaceholder =>
      obtain ⟨hkind, hvalues⟩ := Target.isPlaceholder_iff.1 hplaceholder
      exact h t ht hkind hvalues
    · rfl
  rw [effectiveTargets, effectiveTargets, if_neg (by simpa using hnewer),
    if_neg (by simpa using hnewer)]
  exact List.flatMap_congr hexpand

end Flag

end FeatureFlags
