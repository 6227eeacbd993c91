import FeatureFlags.Context.Json

/-!
# Attributes of a builder

Setting an attribute that is not built in touches the custom attributes alone: null takes the one
of that name away, and any other value is filed under the name.  So setting several of them one
after the other is an operation on maps, and what is found in the map at the end is what was given
last under each name.

## What is here

* `SortedMap.assign`, `SortedMap.assignAll`: the operation on maps.
* `ContextBuilder.set?_of_custom`, `setAll_eq_ok_iff`, `foldl_set`: builders in terms of it.
* `SortedMap.HoldsCustom`: maps of custom attributes, as builders make them.
-/

set_option autoImplicit false

namespace FeatureFlags

/-- A value, unless it is null. -/
def AttributeValue.nonNull? : AttributeValue → Option AttributeValue
  | null => none
  | v => some v

theorem AttributeValue.nonNull?_eq_some_iff {v w : AttributeValue} :
    v.nonNull? = some w ↔ v = w ∧ w ≠ null := by
  cases v <;> simp only [nonNull?, Option.some.injEq, reduceCtorEq, false_iff, not_and] <;> grind

/-! ## Maps of attributes -/

namespace SortedMap

/-- The map with an attribute set.  Null removes it. -/
def assign (m : SortedMap AttributeValue) (name : String) : AttributeValue →
    SortedMap AttributeValue
  | .null => m.erase name
  | value => m.insert name value

/-- The map with attributes set one after the other. -/
def assignAll (m : SortedMap AttributeValue) (l : List (String × AttributeValue)) :
    SortedMap AttributeValue :=
  l.foldl (fun m a => m.assign a.1 a.2) m

variable {m : SortedMap AttributeValue} {name key : String} {value : AttributeValue}
  {l : List (String × AttributeValue)}

theorem find?_assign :
    (m.assign name value).find? key = if name = key then value.nonNull? else m.find? key := by
  cases value <;> simp [assign, AttributeValue.nonNull?]

theorem find?_assignAll (h : (l.map Prod.fst).Nodup) :
    (m.assignAll l).find? key = (lookup key l).elim (m.find? key) AttributeValue.nonNull? := by
  induction l generalizing m with
  | nil => rfl
  | cons a l ih =>
    obtain ⟨ha, hl⟩ := List.nodup_cons.1 h
    rw [assignAll, List.foldl_cons, ← assignAll, ih hl, find?_assign, lookup]
    split
    · next heq =>
      have hnone : lookup key l = none := lookup_eq_none_iff.2 fun e he hkey =>
        ha (heq ▸ hkey ▸ List.mem_map_of_mem he)
      rw [hnone]
      rfl
    · rfl

/-- The names are those of custom attributes, and no value is null. -/
def HoldsCustom (m : SortedMap AttributeValue) : Prop :=
  ∀ name value, m.find? name = some value →
    name ≠ "" ∧ ContextBuilder.isReserved name = false ∧ value ≠ .null

theorem holdsCustom_empty : (empty : SortedMap AttributeValue).HoldsCustom := by
  intro name value h
  cases h

theorem HoldsCustom.assign (h : m.HoldsCustom) (hne : name ≠ "")
    (hcustom : ContextBuilder.isReserved name = false) : (m.assign name value).HoldsCustom := by
  intro key v hv
  rw [find?_assign] at hv
  split at hv
  · next heq => exact heq ▸ ⟨hne, hcustom, (AttributeValue.nonNull?_eq_some_iff.1 hv).2⟩
  · exact h key v hv

theorem HoldsCustom.assignAll (h : m.HoldsCustom)
    (hl : ∀ a ∈ l, a.1 ≠ "" ∧ ContextBuilder.isReserved a.1 = false) :
    (m.assignAll l).HoldsCustom := by
  induction l generalizing m with
  | nil => exact h
  | cons a l ih =>
    obtain ⟨ha, hl⟩ := List.forall_mem_cons.1 hl
    exact ih (h.assign ha.1 ha.2) hl

end SortedMap

/-! ## Builders -/

namespace ContextBuilder

variable {b b' : ContextBuilder} {name : String} {value : AttributeValue}

/-- The builder with custom attributes set one after the other. -/
def assignAll (b : ContextBuilder) (l : List (String × AttributeValue)) : ContextBuilder :=
  { b with attributes := b.attributes.assignAll l }

theorem set?_of_custom (hne : name ≠ "") (hcustom : isReserved name = false) :
    b.set? name value = some (b.assignAll [(name, value)]) := by
  have hreserved := hcustom
  simp only [isReserved, Bool.or_eq_false_iff, beq_eq_false_iff_ne] at hreserved
  unfold set?
  split
  case h_7 =>
    rw [if_neg (by simp [hcustom])]
    split
    · rfl
    · next hnull => cases value <;> first | rfl | exact absurd rfl hnull
  all_goals simp_all

/-- What is accepted sets a built-in attribute, or else a custom one. -/
theorem set?_eq_some (h : b.set? name value = some b') :
    b'.allowsEmptyKey = b.allowsEmptyKey ∧
      (b'.attributes = b.attributes ∨
        name ≠ "" ∧ isReserved name = false ∧ b' = b.assignAll [(name, value)]) := by
  by_cases hcustom : name ≠ "" ∧ isReserved name = false
  · rw [set?_of_custom hcustom.1 hcustom.2] at h
    cases h
    exact ⟨rfl, Or.inr ⟨hcustom.1, hcustom.2, rfl⟩⟩
  · unfold set? at h
    split at h
    case h_1 => cases h
    case h_7 hne _ _ _ _ _ =>
      have hreserved : isReserved name = true :=
        eq_true_of_ne_false fun hn => hcustom ⟨hne, hn⟩
      rw [if_pos hreserved] at h
      cases h
    all_goals
      cases h
      exact ⟨rfl, Or.inl rfl⟩

theorem set_empty : b.set "" value = b := rfl

theorem set_meta : b.set "_meta" value = b := by
  cases value <;> rfl

/-- **Setting what a body holds beside its fields** fails just on an empty name. -/
theorem setAll_eq_ok_iff {l : List (String × Json)} (h : ∀ a ∈ l, isReserved a.1 = false) :
    b.setAll l = .ok b' ↔
      (∀ a ∈ l, a.1 ≠ "") ∧ b' = b.assignAll (l.map fun a => (a.1, .ofJson a.2)) := by
  induction l generalizing b with
  | nil =>
    constructor
    · rintro ⟨⟩
      exact ⟨fun a ha => absurd ha List.not_mem_nil, rfl⟩
    · rintro ⟨-, rfl⟩
      rfl
  | cons a l ih =>
    obtain ⟨ha, hl⟩ := List.forall_mem_cons.1 h
    obtain ⟨name, j⟩ := a
    rw [setAll, List.forall_mem_cons]
    by_cases hne : name = ""
    · subst hne
      constructor
      · rintro ⟨⟩
      · rintro ⟨⟨hne, -⟩, -⟩
        exact absurd rfl hne
    · rw [set?_of_custom hne ha]
      show setAll _ l = _ ↔ _
      rw [ih hl]
      constructor
      · rintro ⟨hnames, rfl⟩
        exact ⟨⟨hne, hnames⟩, rfl⟩
      · rintro ⟨⟨-, hnames⟩, rfl⟩
        exact ⟨hnames, rfl⟩

/-- Setting custom attributes that may have any other name ignores the names that are refused. -/
theorem foldl_set {l : List (String × AttributeValue)}
    (h : ∀ a ∈ l, a.1 ∉ ["kind", "key", "name", "anonymous"]) :
    l.foldl (fun b a => b.set a.1 a.2) b =
      b.assignAll (l.filter fun a => a.1 ≠ "" && a.1 ≠ "_meta") := by
  induction l generalizing b with
  | nil => rfl
  | cons a l ih =>
    obtain ⟨ha, hl⟩ := List.forall_mem_cons.1 h
    obtain ⟨name, value⟩ := a
    rw [List.foldl_cons, ih hl]
    by_cases hempty : name = ""
    · subst hempty
      simp [set_empty]
    · by_cases hmeta : name = "_meta"
      · subst hmeta
        simp [set_meta]
      · have hcustom : isReserved name = false := by
          simp only [List.mem_cons, List.not_mem_nil, or_false, not_or] at ha
          simp [isReserved, ha, hmeta]
        rw [set, set?_of_custom hempty hcustom, List.filter_cons_of_pos (by simp [hempty, hmeta])]
        rfl

/-- A builder gives an entity if its kind is valid and its key is not empty, or may be. -/
theorem entity_eq_ok_iff {e : Entity} :
    b.entity = .ok e ↔ ∃ kind : Kind, kind.name = b.kind ∧
      (b.key ≠ "" ∨ b.allowsEmptyKey = true) ∧
      e = ⟨kind, b.key, b.name, b.anonymous, b.secondary, b.attributes⟩ := by
  unfold entity
  cases hkind : Kind.ofString b.kind with
  | error err =>
    constructor
    · rintro ⟨⟩
    · rintro ⟨kind, hname, -⟩
      rw [Kind.ofString_eq_ok_iff.2 hname] at hkind
      cases hkind
  | ok kind =>
    have hname := Kind.ofString_eq_ok_iff.1 hkind
    by_cases hkey : b.key = "" ∧ b.allowsEmptyKey = false
    · simp [hkey, throw, throwThe, MonadExceptOf.throw, Bind.bind, Except.bind]
    · have hcond : (decide (b.key = "") && !b.allowsEmptyKey) = false := by simpa using hkey
      have hfine : b.key ≠ "" ∨ b.allowsEmptyKey = true :=
        (Decidable.not_and_iff_or_not.1 hkey).imp id eq_true_of_ne_false
      simp only [hcond]
      constructor
      · rintro ⟨⟩
        exact ⟨kind, hname, hfine, rfl⟩
      · rintro ⟨kind', hname', -, rfl⟩
        rw [Kind.eq_of_name_eq (hname'.trans hname.symm)]
        rfl

theorem entity_of_kind {kind : Kind} (hkind : kind.name = b.kind)
    (hkey : b.key ≠ "" ∨ b.allowsEmptyKey = true) :
    b.entity = .ok ⟨kind, b.key, b.name, b.anonymous, b.secondary, b.attributes⟩ :=
  entity_eq_ok_iff.2 ⟨kind, hkind, hkey, rfl⟩

end ContextBuilder

end FeatureFlags
