import FeatureFlags.Json.Basic

/-!
# Number literals

How the digits of a JSON number become a value.  A literal without fraction and exponent that
fits 64 bits is a whole number.  Every other literal is a `Double`: as many leading digits as fit
64 bits form the significand, which is rounded and then scaled by a rounded power of ten.

## What is here

* `Json.Number.ofLiteral`: the value of a literal, from its parts.
-/

set_option autoImplicit false

namespace FeatureFlags.Json.Number

/-- A literal is cut into these parts: sign, digits before and after the point, and exponent. -/
structure Literal where
  negative : Bool
  whole : List Nat
  fraction : List Nat
  exponent : Option Int

/-- The number that leading digits form while it stays below `naturalBound`, continuing
`start`, and how many digits are left over. -/
def accumulate (start : Nat) : List Nat → Nat × Nat
  | [] => (start, 0)
  | d :: rest =>
    if start * 10 + d < naturalBound then accumulate (start * 10 + d) rest
    else (start, rest.length + 1)

/-- The power of ten nearest to `10` to the `n`. -/
def powerOfTen (n : Nat) : Double := Binary.ofDecimal false 1 n

/-- A significand scaled by a power of ten.  Powers beyond the format's range are divided off in
steps, each rounded. -/
def scale : Nat → Double → Int → Double
  | 0, x, _ => x
  | steps + 1, x, exponent =>
    if exponent.natAbs ≤ 308 then
      if 0 ≤ exponent then x.mul (powerOfTen exponent.natAbs)
      else x.div (powerOfTen exponent.natAbs)
    else if x.magnitude = 0 then x
    else if 0 ≤ exponent then Binary.infinite x.negative
    else scale steps (x.div (powerOfTen 308)) (exponent + 308)

/-- The `Double` of a literal. -/
def Literal.toDouble (l : Literal) : Double :=
  let (whole, wholeLeft) := accumulate 0 l.whole
  let (significand, fractionLeft) := accumulate whole l.fraction
  let places : Int := (l.fraction.length : Int) - fractionLeft
  let exponent : Int := l.exponent.getD 0 + (wholeLeft : Int) - places
  let x := scale 8 (Binary.ofNat significand) exponent
  { x with negative := l.negative }

/-- The value of a literal. -/
def ofLiteral (l : Literal) : Number :=
  let n : Nat := l.whole.foldl (fun (n d : Nat) => n * 10 + d) 0
  if l.fraction.isEmpty && l.exponent.isNone then
    if !l.negative && decide (n < naturalBound) then integer n
    else if l.negative && decide (0 < n) && decide (n ≤ integerBound) then integer (-n)
    else float l.toDouble
  else float l.toDouble

end FeatureFlags.Json.Number
