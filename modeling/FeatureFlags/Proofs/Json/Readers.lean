import FeatureFlags.Flag.Value
import FeatureFlags.Proofs.Attribute.Finite

/-!
# Two ways to read values from JSON

Attribute values and flag values are both read in two ways: by looking at what the JSON value is,
and by trying one form after the other until one is accepted.  The second way depends on the order
of the forms wherever two of them accept the same.  Forms of attribute values never do.  Among forms
of flag values there are two for numbers, and one that accepts anything, so it matters that floats
come before whole numbers and that the last form is the last.

## What is here

* `AttributeValue.ofJson?_eq`, `FlagValue.ofJson?_eq`: both ways lead to the same value.
* `Json.numbers`, `AttributeValue.numbers_ofJson`: the numbers in a value, at any depth.
* `readers_agree`: the theorem.
-/

set_option autoImplicit false

namespace FeatureFlags

/-! ## Attribute values -/

namespace AttributeValue

mutual

/-- **Trying the forms leads to the value of what the JSON is.** -/
theorem ofJson?_eq (j : Json) : ofJson? j = some (ofJson j) := by
  cases j with
  | array items =>
    rw [ofJson?, ofJson]
    simp only [ofItems?_eq items]
    rfl
  | object members =>
    rw [ofJson?, ofJson]
    simp only [ofMembers?_eq members]
    rfl
  | _ =>
    rw [ofJson?, ofJson]
    rfl

theorem ofItems?_eq (items : List Json) : ofItems? items = some (ofItems items) := by
  cases items with
  | nil => rfl
  | cons j rest =>
    rw [ofItems?, ofItems, ofJson?_eq j, ofItems?_eq rest]
    rfl

theorem ofMembers?_eq (members : List (String × Json)) :
    ofMembers? members = some (ofMembers members) := by
  cases members with
  | nil => rfl
  | cons m rest =>
    obtain ⟨name, j⟩ := m
    rw [ofMembers?, ofMembers, ofJson?_eq j, ofMembers?_eq rest]
    rfl

end

end AttributeValue

/-! ## Numbers at any depth -/

namespace Json

mutual

/-- The numbers in a JSON value, from left to right. -/
def numbers : Json → List Number
  | number n => [n]
  | array items => numbersOfItems items
  | object members => numbersOfMembers members
  | _ => []

/-- The numbers in a list of JSON values. -/
def numbersOfItems : List Json → List Number
  | [] => []
  | j :: rest => numbers j ++ numbersOfItems rest

/-- The numbers in the values of members. -/
def numbersOfMembers : List (String × Json) → List Number
  | [] => []
  | (_, j) :: rest => numbers j ++ numbersOfMembers rest

end

end Json

namespace AttributeValue

mutual

/-- The numbers in a value, from left to right. -/
def numbers : AttributeValue → List Double
  | number x => [x]
  | array items => numbersOfItems items
  | object members => numbersOfMembers members
  | _ => []

/-- The numbers in a list of values. -/
def numbersOfItems : List AttributeValue → List Double
  | [] => []
  | v :: rest => numbers v ++ numbersOfItems rest

/-- The numbers in the values of members. -/
def numbersOfMembers : List (String × AttributeValue) → List Double
  | [] => []
  | (_, v) :: rest => numbers v ++ numbersOfMembers rest

end

mutual

/-- **Each number becomes one `Double`, and nothing else becomes a number.** -/
theorem numbers_ofJson (j : Json) : (ofJson j).numbers = j.numbers.map Json.Number.toDouble := by
  cases j with
  | array items =>
    rw [ofJson, numbers, Json.numbers, numbersOfItems_ofItems items]
  | object members =>
    rw [ofJson, numbers, Json.numbers, numbersOfMembers_ofMembers members]
  | _ => simp [ofJson, numbers, Json.numbers]

theorem numbersOfItems_ofItems (items : List Json) :
    numbersOfItems (ofItems items) = (Json.numbersOfItems items).map Json.Number.toDouble := by
  cases items with
  | nil => simp [ofItems, numbersOfItems, Json.numbersOfItems]
  | cons j rest =>
    rw [ofItems, numbersOfItems, Json.numbersOfItems, List.map_append, numbers_ofJson j,
      numbersOfItems_ofItems rest]

theorem numbersOfMembers_ofMembers (members : List (String × Json)) :
    numbersOfMembers (ofMembers members) =
      (Json.numbersOfMembers members).map Json.Number.toDouble := by
  cases members with
  | nil => simp [ofMembers, numbersOfMembers, Json.numbersOfMembers]
  | cons m rest =>
    obtain ⟨name, j⟩ := m
    rw [ofMembers, numbersOfMembers, Json.numbersOfMembers, List.map_append, numbers_ofJson j,
      numbersOfMembers_ofMembers rest]

end

end AttributeValue

/-! ## Flag values -/

namespace FlagValue

/-- **Trying the forms leads to the value of what the JSON is.**  A number is accepted as a float
before it is tried as a whole number. -/
theorem ofJson?_eq (j : Json) : ofJson? j = some (ofJson j) := by
  cases j <;> rfl

/-- Null, arrays and objects are values as they are. -/
theorem ofJson_eq_json_iff {j k : Json} :
    ofJson j = json k ↔ k = j ∧
      (j = .null ∨ (∃ items, j = .array items) ∨ ∃ members, j = .object members) := by
  cases j <;> simp [ofJson, eq_comm]

/-- No value is read as a whole number. -/
theorem ofJson_ne_integer (j : Json) (n : Int) : ofJson j ≠ integer n := by
  cases j <;> nofun

end FlagValue

/-! ## Both -/

/-- **Both ways to read values lead to the same values.**  No JSON value is refused.  In an
attribute value all numbers, at any depth, are those of the JSON value as `Double`s; a flag value
has its number as a float and never as a whole number, and consists of null, an array or an object
unchanged.  An attribute value in which all numbers are finite is read from what it is written
as. -/
theorem readers_agree :
    (∀ j, AttributeValue.ofJson? j = some (AttributeValue.ofJson j)) ∧
    (∀ j, FlagValue.ofJson? j = some (FlagValue.ofJson j)) ∧
    (∀ j, (AttributeValue.ofJson j).numbers = j.numbers.map Json.Number.toDouble) ∧
    (∀ n, AttributeValue.ofJson (.number n) = .number n.toDouble ∧
      FlagValue.ofJson (.number n) = .float n.toDouble) ∧
    (∀ j n, FlagValue.ofJson j ≠ .integer n) ∧
    (∀ j k, FlagValue.ofJson j = .json k ↔ k = j ∧
      (j = .null ∨ (∃ items, j = .array items) ∨ ∃ members, j = .object members)) ∧
    ∀ v : AttributeValue, v.isFinite = true → AttributeValue.ofJson? v.toJson = some v := by
  refine ⟨AttributeValue.ofJson?_eq, FlagValue.ofJson?_eq, AttributeValue.numbers_ofJson,
    fun n => ⟨by rw [AttributeValue.ofJson], rfl⟩, FlagValue.ofJson_ne_integer,
    fun j k => FlagValue.ofJson_eq_json_iff, fun v hv => ?_⟩
  rw [AttributeValue.ofJson?_eq, AttributeValue.ofJson_toJson v hv]

/-- A whole number in an array in an object, read and written and read again. -/
theorem readers_agree_nested :
    let j : Json := .object [("counts", .array [.integer 3, .null])]
    let v : AttributeValue := .object [("counts", .array [.number (Binary.ofNat 3), .null])]
    AttributeValue.ofJson? j = some v ∧ AttributeValue.ofJson? v.toJson = some v ∧
      FlagValue.ofJson? j = some (.json j) ∧
      FlagValue.ofJson? (.integer 3) = some (.float (Binary.ofNat 3)) := by
  intro j v
  obtain ⟨hattribute, hflag, -, hnumber, -, hjson, hback⟩ := readers_agree
  have hthree : Json.Number.toDouble (.integer 3) = Binary.ofNat 3 := by decide +kernel
  have hvalue : AttributeValue.ofJson j = v := by
    simp only [j, v, AttributeValue.ofJson, AttributeValue.ofMembers, AttributeValue.ofItems,
      Json.integer, hthree]
  refine ⟨hvalue ▸ hattribute j, hback v (by decide +kernel), ?_, ?_⟩
  · rw [hflag, (hjson j j).2 ⟨rfl, .inr (.inr ⟨_, rfl⟩)⟩]
  · rw [hflag, Json.integer, (hnumber _).2, hthree]

end FeatureFlags
