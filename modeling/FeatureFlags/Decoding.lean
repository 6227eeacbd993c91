import FeatureFlags.Context.Builder

/-!
# Reading from JSON

Readers take a JSON value to what it stands for.  A structure is read field by field in the order
of the field names, and only then are missing fields looked for, so of two faults the same one is
always reported.

## What is here

* `DecodeError`: why a JSON value does not stand for what is asked.
* `Decoder` and the readers of simple values, lists, maps and fields.
-/

set_option autoImplicit false

namespace FeatureFlags

/-- Why a JSON value does not stand for what is asked. -/
inductive DecodeError where
  | mismatch
  | missing (field : String)
  | kind (e : KindError)
  | build (e : BuildError)
  | redefinesKind (kind : Kind)
  | rejectedAttribute (name : String)
  deriving DecidableEq

/-- The text of a decode error. -/
def DecodeError.message : DecodeError → String
  | mismatch => "unexpected form of value"
  | missing field => "missing field " ++ field
  | kind e => e.message
  | build e => e.message
  | redefinesKind k => "context of kind '" ++ k.name ++ "' redefines its kind"
  | rejectedAttribute name => "attribute '" ++ name ++ "' has an invalid value"

/-- A reader of values of some type. -/
abbrev Decoder (α : Type) := Json → Except DecodeError α

namespace Decode

/-! ## Simple values -/

/-- Reads a text. -/
def string : Decoder String
  | .string s => .ok s
  | _ => .error .mismatch

/-- Reads a truth value. -/
def bool : Decoder Bool
  | .bool b => .ok b
  | _ => .error .mismatch

/-- Reads a whole number of 64 bits without sign. -/
def natural : Decoder Nat
  | .number (.integer n) => if 0 ≤ n ∧ n < Json.naturalBound then .ok n.toNat else .error .mismatch
  | _ => .error .mismatch

/-- Reads a whole number of 64 bits with sign. -/
def integer : Decoder Int
  | .number (.integer n) =>
    if -Json.integerBound ≤ n ∧ n < Json.integerBound then .ok n else .error .mismatch
  | _ => .error .mismatch

/-- Reads a number as the nearest `Single`. -/
def single : Decoder Single
  | .number (.integer n) => .ok (Binary.ofInt n)
  | .number (.float x) => .ok x.convert
  | _ => .error .mismatch

/-- Reads a context kind. -/
def kind : Decoder Kind := fun j => do
  match Kind.ofString (← string j) with
  | .ok k => return k
  | .error e => throw (.kind e)

/-- Reads a value of an enumeration: its name, or an object with its name as the name of the only
member, which is null. -/
def named {α : Type} (ofName? : String → Option α) : Decoder α
  | .string name => (ofName? name).elim (.error .mismatch) .ok
  | .object [(name, .null)] => (ofName? name).elim (.error .mismatch) .ok
  | _ => .error .mismatch

/-! ## Containers -/

/-- Reads a value or null. -/
def nullable {α : Type} (d : Decoder α) : Decoder (Option α)
  | .null => .ok none
  | j => some <$> d j

/-- Reads a list. -/
def list {α : Type} (d : Decoder α) : Decoder (List α)
  | .array items => items.mapM d
  | _ => .error .mismatch

/-- Reads the members of an object. -/
def members : Decoder (List (String × Json))
  | .object members => .ok members
  | _ => .error .mismatch

/-- Reads the fields of a structure, given as an object, or as a list of their values in order.  A
list may end early, but not before the field at position `least`. -/
def fields (names : List String) (least : Nat) : Decoder (List (String × Json))
  | .object members => .ok members
  | .array items =>
    if least ≤ items.length ∧ items.length ≤ names.length then .ok (names.zip items)
    else .error .mismatch
  | _ => .error .mismatch

/-- Reads an object as a map. -/
def map {α : Type} (d : Decoder α) : Decoder (SortedMap α) := fun j => do
  let entries ← (← members j).mapM fun (k, v) => (k, ·) <$> d v
  return .ofList entries

/-! ## Fields -/

/-- Reads a field that may be missing. -/
def field {α : Type} (ms : List (String × Json)) (name : String) (d : Decoder α) :
    Except DecodeError (Option α) :=
  match SortedMap.lookup name ms with
  | some j => some <$> d j
  | none => .ok none

/-- Reads a field that stands for `default` if it is missing. -/
def fieldOr {α : Type} (ms : List (String × Json)) (name : String) (default : α) (d : Decoder α) :
    Except DecodeError α :=
  return (← field ms name d).getD default

/-- Reads a field for which missing and null are alike. -/
def optionalField {α : Type} (ms : List (String × Json)) (name : String) (d : Decoder α) :
    Except DecodeError (Option α) :=
  return (← field ms name (nullable d)).join

/-- Reads a list field for which missing, null and empty are alike. -/
def listField {α : Type} (ms : List (String × Json)) (name : String) (d : Decoder α) :
    Except DecodeError (List α) :=
  return (← optionalField ms name (list d)).getD []

/-- The value of a field that has to be there. -/
def require {α : Type} (name : String) (value : Option α) : Except DecodeError α :=
  value.elim (.error (.missing name)) .ok

end Decode

end FeatureFlags
