import FeatureFlags.Attribute.Value

/-!
# Values as JSON and back

JSON has no number that is infinite, nor one that is not a number; a value that holds one somewhere
is written with null in its place.  Every other value is read back as it was.  So a value comes back
equal to what it was exactly when all numbers in it are finite.

## What is here

* `AttributeValue.isFinite`: whether all numbers in a value are finite.
* `ofJson_toJson`: such a value is read back as it was.
* `isFinite_of_equal`: a value that is read back as an equal one is such a value.
-/

set_option autoImplicit false

namespace FeatureFlags

theorem Binary.equal_self {f : BinaryFormat} {x : Binary f} (h : x.isFinite = true) :
    x.equal x = true := by
  simp [equal, isNaN_of_isFinite h]

namespace AttributeValue

mutual

/-- Whether all numbers in a value, at any depth, are finite. -/
def isFinite : AttributeValue → Bool
  | null => true
  | bool _ => true
  | number x => x.isFinite
  | string _ => true
  | array items => isFiniteItems items
  | object members => isFiniteMembers members

/-- Whether all numbers in the values of a list are finite. -/
def isFiniteItems : List AttributeValue → Bool
  | [] => true
  | v :: rest => isFinite v && isFiniteItems rest

/-- Whether all numbers in the values of members are finite. -/
def isFiniteMembers : List (String × AttributeValue) → Bool
  | [] => true
  | (_, v) :: rest => isFinite v && isFiniteMembers rest

end

/-! ## Reading back -/

mutual

/-- **A value without infinite numbers is read back as it was.** -/
theorem ofJson_toJson (v : AttributeValue) (h : v.isFinite = true) : ofJson v.toJson = v := by
  cases v with
  | null => rfl
  | bool b => rfl
  | number x =>
    rw [isFinite] at h
    rw [toJson, Json.ofDouble, if_pos h]
    rfl
  | string s => rfl
  | array items =>
    rw [isFinite] at h
    rw [toJson, ofJson, ofItems_toItems items h]
  | object members =>
    rw [isFinite] at h
    rw [toJson, ofJson, ofMembers_toMembers members h]

theorem ofItems_toItems (items : List AttributeValue) (h : isFiniteItems items = true) :
    ofItems (toItems items) = items := by
  cases items with
  | nil => rfl
  | cons v rest =>
    rw [isFiniteItems, Bool.and_eq_true] at h
    rw [toItems, ofItems, ofJson_toJson v h.1, ofItems_toItems rest h.2]

theorem ofMembers_toMembers (members : List (String × AttributeValue))
    (h : isFiniteMembers members = true) : ofMembers (toMembers members) = members := by
  cases members with
  | nil => rfl
  | cons m rest =>
    obtain ⟨name, v⟩ := m
    rw [isFiniteMembers, Bool.and_eq_true] at h
    rw [toMembers, ofMembers, ofJson_toJson v h.1, ofMembers_toMembers rest h.2]

end

/-! ## Equality with what is read back -/

mutual

/-- A value without infinite numbers equals itself. -/
theorem equal_self (v : AttributeValue) (h : v.isFinite = true) : v.equal v = true := by
  cases v with
  | null => rfl
  | bool b => exact beq_self_eq_true b
  | number x => exact Binary.equal_self h
  | string s => exact beq_self_eq_true s
  | array items => exact equalItems_self items h
  | object members => exact equalMembers_self members h

theorem equalItems_self (items : List AttributeValue) (h : isFiniteItems items = true) :
    equalItems items items = true := by
  cases items with
  | nil => rfl
  | cons v rest =>
    rw [isFiniteItems, Bool.and_eq_true] at h
    rw [equalItems, equal_self v h.1, equalItems_self rest h.2]
    rfl

theorem equalMembers_self (members : List (String × AttributeValue))
    (h : isFiniteMembers members = true) : equalMembers members members = true := by
  cases members with
  | nil => rfl
  | cons m rest =>
    obtain ⟨name, v⟩ := m
    rw [isFiniteMembers, Bool.and_eq_true] at h
    rw [equalMembers, equal_self v h.1, equalMembers_self rest h.2, beq_self_eq_true]
    rfl

end

mutual

/-- What is not finite comes back as null, and null equals no number. -/
theorem isFinite_of_equal (v : AttributeValue) (h : (ofJson v.toJson).equal v = true) :
    v.isFinite = true := by
  cases v with
  | null => rfl
  | bool b => rfl
  | number x =>
    refine eq_true_of_ne_false fun hfinite => ?_
    rw [isFinite] at hfinite
    rw [toJson, Json.ofDouble, hfinite] at h
    cases h
  | string s => rfl
  | array items => exact isFiniteItems_of_equalItems items h
  | object members => exact isFiniteMembers_of_equalMembers members h

theorem isFiniteItems_of_equalItems (items : List AttributeValue)
    (h : equalItems (ofItems (toItems items)) items = true) : isFiniteItems items = true := by
  cases items with
  | nil => rfl
  | cons v rest =>
    rw [toItems, ofItems, equalItems, Bool.and_eq_true] at h
    rw [isFiniteItems, isFinite_of_equal v h.1, isFiniteItems_of_equalItems rest h.2]
    rfl

theorem isFiniteMembers_of_equalMembers (members : List (String × AttributeValue))
    (h : equalMembers (ofMembers (toMembers members)) members = true) :
    isFiniteMembers members = true := by
  cases members with
  | nil => rfl
  | cons m rest =>
    obtain ⟨name, v⟩ := m
    rw [toMembers, ofMembers, equalMembers, Bool.and_eq_true, Bool.and_eq_true] at h
    rw [isFiniteMembers, isFinite_of_equal v h.1.2, isFiniteMembers_of_equalMembers rest h.2]
    rfl

end

/-! ## Members -/

theorem isFiniteMembers_iff {members : List (String × AttributeValue)} :
    isFiniteMembers members = true ↔ ∀ m ∈ members, m.2.isFinite = true := by
  induction members with
  | nil => simp [isFiniteMembers]
  | cons m rest ih => simp [isFiniteMembers, ih]

/-- Equal members are equal name by name. -/
theorem exists_equal_of_equalMembers {xs ys : List (String × AttributeValue)}
    (h : equalMembers xs ys = true) {name : String} {v : AttributeValue}
    (hv : SortedMap.lookup name ys = some v) :
    ∃ w, SortedMap.lookup name xs = some w ∧ w.equal v = true := by
  induction xs generalizing ys with
  | nil =>
    cases ys with
    | nil => cases hv
    | cons y ys => cases h
  | cons x xs ih =>
    cases ys with
    | nil => cases h
    | cons y ys =>
      rw [equalMembers, Bool.and_eq_true, Bool.and_eq_true, beq_iff_eq] at h
      obtain ⟨⟨hname, hequal⟩, hrest⟩ := h
      rw [SortedMap.lookup] at hv ⊢
      rw [hname]
      split at hv
      · next heq =>
        cases hv
        exact ⟨x.2, if_pos heq, hequal⟩
      · next hne =>
        rw [if_neg hne]
        exact ih hrest hv

end AttributeValue

end FeatureFlags
