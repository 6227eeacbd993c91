import FeatureFlags.SortedMap
import FeatureFlags.Number.Binary

/-!
# JSON values

The data in which flags, segments and contexts arrive.  A number keeps whether it was written as
a whole number: a field that holds an index or a version takes whole numbers only, and `1.0` is
not one of them.

## What is here

* `Json`, `Json.Number`: the values.  An object is a list of members; `Json.ofMembers` puts them
  into key order, which is the form every reader and writer of this library produces.
* `Json.equal`: equality, with floating point numbers compared numerically.
* `Json.find?`: the member of a name.
-/

set_option autoImplicit false

namespace FeatureFlags

namespace Json

/-- A number, as a whole number of at most 64 bits or as a `Double`. -/
inductive Number where
  | integer (n : Int)
  | float (x : Double)
  deriving DecidableEq

/-- Natural numbers of 64 bits lie below this bound. -/
def naturalBound : Nat := Nat.pow 2 64

/-- Whole numbers of 64 bits lie below this bound, and not below its negative. -/
def integerBound : Nat := Nat.pow 2 63

namespace Number

/-- The value as a `Double`. -/
def toDouble : Number → Double
  | integer n => Binary.ofInt n
  | float x => x

/-- Whether two numbers are written alike: a whole number never equals a float. -/
def equal : Number → Number → Bool
  | integer m, integer n => m == n
  | float x, float y => x.equal y
  | _, _ => false

end Number

end Json

/-- A JSON value. -/
inductive Json where
  | null
  | bool (b : Bool)
  | number (n : Json.Number)
  | string (s : String)
  | array (items : List Json)
  | object (members : List (String × Json))

namespace Json

instance : Inhabited Json := ⟨null⟩

mutual

/-- Equality of values. -/
def equal : Json → Json → Bool
  | null, null => true
  | bool a, bool b => a == b
  | number m, number n => m.equal n
  | string s, string t => s == t
  | array xs, array ys => equalItems xs ys
  | object xs, object ys => equalMembers xs ys
  | _, _ => false

/-- Equality of lists of values. -/
def equalItems : List Json → List Json → Bool
  | [], [] => true
  | x :: xs, y :: ys => equal x y && equalItems xs ys
  | _, _ => false

/-- Equality of lists of members. -/
def equalMembers : List (String × Json) → List (String × Json) → Bool
  | [], [] => true
  | (k, x) :: xs, (l, y) :: ys => k == l && equal x y && equalMembers xs ys
  | _, _ => false

end

/-- A whole number. -/
def integer (n : Int) : Json := number (.integer n)

/-- A natural number. -/
def nat (n : Nat) : Json := integer n

/-- A `Double` as JSON writes it: what is not a finite number becomes null. -/
def ofDouble (x : Double) : Json := if x.isFinite then number (.float x) else null

/-- The object with the given members, in key order. -/
def ofMembers (members : List (String × Json)) : Json :=
  object (SortedMap.ofList members).entries

/-- The object of a map. -/
def ofMap {α : Type} (value : α → Json) (m : SortedMap α) : Json :=
  object (m.mapValues value).entries

/-- A list of values. -/
def ofList {α : Type} (value : α → Json) (l : List α) : Json := array (l.map value)

/-- The member of the given name; values other than objects have none. -/
def find? (name : String) : Json → Option Json
  | object members => SortedMap.lookup name members
  | _ => none

end Json

end FeatureFlags
