import FeatureFlags.Json.Basic
import FeatureFlags.Instant
import FeatureFlags.Version

/-!
# Attribute values

The values of context attributes, and those that rules compare them with.  They are JSON values
with a single type of number: `1` and `1.0` are the same value, `1` and `"1"` are not.

## What is here

* `AttributeValue`, `AttributeValue.equal`: the values and their equality.
* `ofJson`, `toJson`: the values as JSON; `ofJson?` reads the same form by trial.
* `toInstant?`, `toVersion?`, `bucketText?`: readings of a value.
* `any`: whether a value or an element of it passes a test.
-/

set_option autoImplicit false

namespace FeatureFlags

/-- A value.  The members of an object stand in key order. -/
inductive AttributeValue where
  | null
  | bool (b : Bool)
  | number (x : Double)
  | string (s : String)
  | array (items : List AttributeValue)
  | object (members : List (String × AttributeValue))

namespace AttributeValue

instance : Inhabited AttributeValue := ⟨null⟩

/-! ## Equality -/

mutual

/-- Whether two values are equal, numbers numerically. -/
def equal : AttributeValue → AttributeValue → Bool
  | null, null => true
  | bool a, bool b => a == b
  | number x, number y => x.equal y
  | string s, string t => s == t
  | array xs, array ys => equalItems xs ys
  | object xs, object ys => equalMembers xs ys
  | _, _ => false

/-- Whether two lists of values are equal. -/
def equalItems : List AttributeValue → List AttributeValue → Bool
  | [], [] => true
  | x :: xs, y :: ys => equal x y && equalItems xs ys
  | _, _ => false

/-- Whether two lists of members are equal. -/
def equalMembers : List (String × AttributeValue) → List (String × AttributeValue) → Bool
  | [], [] => true
  | (k, x) :: xs, (l, y) :: ys => k == l && equal x y && equalMembers xs ys
  | _, _ => false

end

/-! ## JSON -/

mutual

/-- The value that a JSON value stands for. -/
def ofJson : Json → AttributeValue
  | .null => null
  | .bool b => bool b
  | .number n => number n.toDouble
  | .string s => string s
  | .array items => array (ofItems items)
  | .object members => object (ofMembers members)

/-- The values of JSON values. -/
def ofItems : List Json → List AttributeValue
  | [] => []
  | j :: rest => ofJson j :: ofItems rest

/-- The members of JSON members. -/
def ofMembers : List (String × Json) → List (String × AttributeValue)
  | [] => []
  | (k, j) :: rest => (k, ofJson j) :: ofMembers rest

end

mutual

/-- Reads a value by trying the forms one after the other: a text, an array, a number, a truth
value, an object, null. -/
def ofJson? (j : Json) : Option AttributeValue :=
  (match j with
    | .string s => some (string s)
    | _ => none) <|>
  (match j with
    | .array items => array <$> ofItems? items
    | _ => none) <|>
  (match j with
    | .number n => some (number n.toDouble)
    | _ => none) <|>
  (match j with
    | .bool b => some (bool b)
    | _ => none) <|>
  (match j with
    | .object members => object <$> ofMembers? members
    | _ => none) <|>
  (match j with
    | .null => some null
    | _ => none)

/-- Reads the values of an array. -/
def ofItems? : List Json → Option (List AttributeValue)
  | [] => some []
  | j :: rest => do return (← ofJson? j) :: (← ofItems? rest)

/-- Reads the members of an object. -/
def ofMembers? : List (String × Json) → Option (List (String × AttributeValue))
  | [] => some []
  | (k, j) :: rest => do return (k, ← ofJson? j) :: (← ofMembers? rest)

end

mutual

/-- A value as JSON; numbers that are not finite become null. -/
def toJson : AttributeValue → Json
  | null => .null
  | bool b => .bool b
  | number x => .ofDouble x
  | string s => .string s
  | array items => .array (toItems items)
  | object members => .object (toMembers members)

/-- Values as JSON. -/
def toItems : List AttributeValue → List Json
  | [] => []
  | v :: rest => toJson v :: toItems rest

/-- Members as JSON. -/
def toMembers : List (String × AttributeValue) → List (String × Json)
  | [] => []
  | (k, v) :: rest => (k, toJson v) :: toMembers rest

end

/-! ## Readings -/

/-- The text of a text value. -/
def asString? : AttributeValue → Option String
  | string s => some s
  | _ => none

/-- The number of a numeric value. -/
def asNumber? : AttributeValue → Option Double
  | number x => some x
  | _ => none

/-- The truth value of a value that is one. -/
def asBool? : AttributeValue → Option Bool
  | bool b => some b
  | _ => none

/-- The instant that a value gives, as milliseconds since the epoch or as an RFC 3339 text.  A
fraction of a millisecond is dropped. -/
def toInstant? : AttributeValue → Option Instant
  | number x => x.toExactInteger?.bind Instant.ofMillis?
  | string s => Instant.ofText? s
  | _ => none

/-- The version that a text value gives. -/
def toVersion? : AttributeValue → Option Version
  | string s => Version.ofString? s
  | _ => none

/-- The text by which a value is put into a bucket: a text itself, a whole number in decimal. -/
def bucketText? : AttributeValue → Option String
  | string s => some s
  | number x => if x.isIntegral then x.toExactInteger?.map toString else none
  | _ => none

/-- Whether a value passes a test, or for an array any of its elements.  Null passes none. -/
def any (p : AttributeValue → Bool) : AttributeValue → Bool
  | null => false
  | array items => items.any p
  | v => p v

/-- The member of an object. -/
def find? (name : String) : AttributeValue → Option AttributeValue
  | object members => SortedMap.lookup name members
  | _ => none

end AttributeValue

end FeatureFlags
