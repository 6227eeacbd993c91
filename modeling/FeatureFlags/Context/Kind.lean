/-!
# Context kinds

The kind of a context says what the context is: a user, a device, an organisation.  A kind is a
name made of ASCII letters, digits, `-`, `.` and `_`; the names `kind` and `multi` are reserved.

## What is here

* `Kind`: a valid name, and `Kind.ofString`, which checks one.
* `KindError`: why a name is no kind.
-/

set_option autoImplicit false

namespace FeatureFlags

/-- Why a name is no kind. -/
inductive KindError where
  | empty
  | reserved (name : String)
  | disallowed (c : Char)
  deriving DecidableEq

/-- The text of a kind error. -/
def KindError.message : KindError → String
  | empty => "context kind cannot be empty"
  | reserved name => "context kind cannot be '" ++ name ++ "'"
  | disallowed c => "context kind contains disallowed character '" ++ String.singleton c ++ "'"

namespace Kind

/-- The characters of which kinds are made. -/
def allowedChar (c : Char) : Bool := c.isAlphanum || c == '-' || c == '.' || c == '_'

/-- The names with a meaning of their own. -/
def reservedNames : List String := ["kind", "multi"]

/-- A name is a kind if it is not empty, not reserved and has allowed characters only. -/
def Valid (name : String) : Prop :=
  name ≠ "" ∧ name ∉ reservedNames ∧ name.toList.all allowedChar = true

instance (name : String) : Decidable (Valid name) := by unfold Valid; infer_instance

end Kind

/-- A context kind. -/
structure Kind where
  name : String
  valid : Kind.Valid name
  deriving DecidableEq

namespace Kind

/-- The kind of a name, or the first reason against it. -/
def ofString (name : String) : Except KindError Kind :=
  if h₁ : name = "" then .error .empty
  else if h₂ : name ∈ reservedNames then .error (.reserved name)
  else
    match h₃ : name.toList.find? (fun c => !allowedChar c) with
    | some c => .error (.disallowed c)
    | none => .ok ⟨name, h₁, h₂, by simpa using h₃⟩

/-- **A name is accepted exactly when it is valid.** -/
theorem ofString_eq_ok_iff {name : String} {k : Kind} : ofString name = .ok k ↔ k.name = name := by
  constructor
  · intro h
    unfold ofString at h
    split at h
    · cases h
    · split at h
      · cases h
      · split at h
        · cases h
        · cases h; rfl
  · rintro rfl
    obtain ⟨h₁, h₂, h₃⟩ := k.valid
    unfold ofString
    rw [dif_neg h₁, dif_neg h₂]
    split
    · next c hc =>
      have := List.find?_some hc
      have := List.all_eq_true.1 h₃ c (List.mem_of_find?_eq_some hc)
      simp_all
    · rfl

/-- A kind is its name. -/
theorem eq_of_name_eq {k l : Kind} (h : k.name = l.name) : k = l := by
  cases k
  cases l
  cases h
  rfl

/-- The kind of contexts that name none. -/
def user : Kind := ⟨"user", by decide⟩

instance : Inhabited Kind := ⟨user⟩

/-- Whether the kind is the default one. -/
def isUser (k : Kind) : Bool := k == user

end Kind

end FeatureFlags
