import FeatureFlags.Json.Text
import FeatureFlags.Warning

/-!
# Flag values

The values that a flag can serve.  Any JSON value is one; truth values, texts and numbers are told
apart so that they can be read with their type.

## What is here

* `FlagValue`, `FlagValue.ofJson`, `FlagValue.toJson`: the values and their JSON; `ofJson?` reads
  the same form by trial.
* `asBool?`, `asString?`, `asFloat?`, `asInteger?`, `asJson`: typed readings, with
  `readingWarning?` for a reading that fails.
* `FlagValue.display`: a value as plain text.
-/

set_option autoImplicit false

namespace FeatureFlags

/-- A value that a flag can serve. -/
inductive FlagValue where
  | bool (b : Bool)
  | string (s : String)
  | float (x : Double)
  | integer (n : Int)
  | json (j : Json)

/-- The types with which a flag value can be read. -/
inductive ReadingType where
  | bool
  | string
  | float
  | integer
  | json
  deriving DecidableEq

namespace FlagValue

/-! ## JSON -/

/-- The value that a JSON value stands for.  Every number becomes a float. -/
def ofJson : Json → FlagValue
  | .bool b => bool b
  | .string s => string s
  | .number n => float n.toDouble
  | j => json j

/-- Reads a whole number of 64 bits. -/
def integerOfJson? : Json → Option Int
  | .number (.integer n) => if -Json.integerBound ≤ n ∧ n < Json.integerBound then some n else none
  | _ => none

/-- Reads a value by trying the forms one after the other: a truth value, a text, a float, a whole
number, any JSON. -/
def ofJson? (j : Json) : Option FlagValue :=
  (match j with
    | .bool b => some (bool b)
    | _ => none) <|>
  (match j with
    | .string s => some (string s)
    | _ => none) <|>
  (match j with
    | .number n => some (float n.toDouble)
    | _ => none) <|>
  (integerOfJson? j).map integer <|>
  some (json j)

/-- A value as JSON; a float that is not finite becomes null. -/
def toJson : FlagValue → Json
  | bool b => .bool b
  | string s => .string s
  | float x => .ofDouble x
  | integer n => .integer n
  | json j => j

/-! ## Readings -/

/-- The truth value of a value that is one. -/
def asBool? : FlagValue → Option Bool
  | bool b => some b
  | _ => none

/-- The text of a value that is one. -/
def asString? : FlagValue → Option String
  | string s => some s
  | _ => none

/-- The number of a numeric value; whole numbers are rounded to floats. -/
def asFloat? : FlagValue → Option Double
  | float x => some x
  | integer n => some (Binary.ofInt n)
  | _ => none

/-- The whole number of a numeric value.  The fraction of a float is dropped, and floats so large
that not every whole number is one cannot be read. -/
def asInteger? : FlagValue → Option Int
  | integer n => some n
  | float x => x.toExactInteger?
  | _ => none

/-- The value as JSON, which every value has. -/
def asJson (v : FlagValue) : Json := v.toJson

/-- Whether a value is numeric. -/
def isNumeric : FlagValue → Bool
  | float _ | integer _ => true
  | _ => false

/-- What there is to remark about reading a value with a type. -/
def readingWarning? (v : FlagValue) : ReadingType → Option Warning
  | .bool => if v.asBool?.isSome then none else some (.variationIsNot "a bool")
  | .string => if v.asString?.isSome then none else some (.variationIsNot "a string")
  | .float | .integer => if v.isNumeric then none else some (.variationIsNot "numeric")
  | .json => none

/-- The value read with a type, as a value of that type. -/
def read? (v : FlagValue) : ReadingType → Option FlagValue
  | .bool => v.asBool?.map bool
  | .string => v.asString?.map string
  | .float => v.asFloat?.map float
  | .integer => v.asInteger?.map integer
  | .json => some (json v.asJson)

/-! ## Text -/

/-- A value as plain text: a text as it is, a number in full, anything else as JSON. -/
def display : FlagValue → String
  | bool b => if b then "true" else "false"
  | string s => s
  | float x => NumberStyle.plain.write x
  | integer n => toString n
  | json j => j.text

end FlagValue

end FeatureFlags
