import FeatureFlags.Number.Binary

/-!
# Shortest decimal text of a number

A decimal reads back as a number when it lies in the interval of values that round to it.  The
shortest text of a number is the decimal on the coarsest decimal grid that meets this interval,
and of the two grid points next to the value the nearer one.  Only those two have to be tried: if
any point of a grid lies in the interval, so does one of the value's neighbours on that grid.

## What is here

* `Double.shortest`: that decimal, for a finite number that is not zero.
* `NumberStyle` and `NumberStyle.write`: how digits and point are laid out.
-/

set_option autoImplicit false

namespace FeatureFlags

/-- The number `digits * 10 ^ exponent`. -/
structure Decimal where
  digits : Nat
  exponent : Int
  deriving DecidableEq

/-- Which of two equally near decimals is taken. -/
inductive Tie where
  | upper
  | even
  deriving DecidableEq

namespace BinaryFormat

variable (f : BinaryFormat)

/-- The point nearest to the value of `word` on the grid of multiples of `10 ^ exponent`, if it
reads back as `word`.  Everything is measured in half units, times a common power of ten. -/
def gridPoint? (tie : Tie) (word : Nat) (exponent : Int) : Option Nat :=
  let scale := Nat.pow 10 (-exponent).toNat
  let step := Nat.pow 10 exponent.toNat * Nat.pow 2 (f.unitExponent + 1)
  let value := 2 * f.units word * scale
  let low := (f.units (word - 1) + f.units word) * scale
  let high := (f.units word + f.units (word + 1)) * scale
  let inside (d : Nat) : Bool :=
    if word % 2 = 0 then low ≤ d * step && d * step ≤ high else low < d * step && d * step < high
  let below := value / step
  let toBelow := value - below * step
  let toAbove := (below + 1) * step - value
  let upperFirst : Bool :=
    if toBelow = toAbove then tie = .upper || below % 2 = 1 else toAbove < toBelow
  match inside below, inside (below + 1) with
  | false, false => none
  | true, false => some below
  | false, true => some (below + 1)
  | true, true => some (if upperFirst then below + 1 else below)

/-- The shortest decimal that reads back as `word`, a finite magnitude other than zero.  The
search begins on a grid coarser than the value itself; eighteen grids further down the spacing is
below that of any format of at most 64 bits. -/
def shortest (tie : Tie) (word : Nat) : Decimal :=
  let log2 : Int := (f.units word).log2 - f.unitExponent
  let start : Int := Int.fdiv ((log2 + 1) * 30103) 100000 + 1
  let search := (List.range 20).findSome? fun (i : Nat) =>
    (f.gridPoint? tie word (start - i)).map fun d => Decimal.mk d (start - i)
  search.getD ⟨0, 0⟩

end BinaryFormat

/-! ## Layout -/

/-- How a number is laid out. -/
structure NumberStyle where
  /-- Which of two equally near shortest decimals is written. -/
  tie : Tie
  /-- Whether a number is written without exponent, given how many digits come before the point
  (if negative, how many zeros follow it). -/
  positional : Int → Bool
  /-- What follows a whole number that is written without exponent. -/
  wholeMark : String
  /-- The text of what is not a number. -/
  notANumber : String
  /-- The text of positive infinity. -/
  infinity : String

namespace NumberStyle

/-- The digits of a decimal with its point or exponent.  An exponent always has a sign. -/
def layout (style : NumberStyle) (d : Decimal) : String :=
  let digits := (Nat.toDigits 10 d.digits)
  let point : Int := digits.length + d.exponent
  let zeros (n : Int) : List Char := List.replicate n.toNat '0'
  if style.positional point then
    if 0 ≤ d.exponent then String.ofList (digits ++ zeros d.exponent) ++ style.wholeMark
    else if 0 < point then
      String.ofList (digits.take point.toNat ++ '.' :: digits.drop point.toNat)
    else String.ofList ('0' :: '.' :: zeros (-point) ++ digits)
  else
    let mantissa := match digits with
      | [] => []
      | [d] => [d]
      | d :: rest => d :: '.' :: rest
    let power := point - 1
    let sign := if power < 0 then "-" else "+"
    String.ofList mantissa ++ "e" ++ sign ++ String.ofList (Nat.toDigits 10 power.natAbs)

/-- The text of a number. -/
def write (style : NumberStyle) (x : Double) : String :=
  if x.isNaN then style.notANumber
  else
    let sign := if x.negative then "-" else ""
    if !x.isFinite then sign ++ style.infinity
    else if x.magnitude = 0 then sign ++ "0" ++ style.wholeMark
    else sign ++ style.layout (BinaryFormat.double.shortest style.tie x.magnitude)

/-- Plain text never uses an exponent, and a whole number has no point. -/
def plain : NumberStyle where
  tie := .upper
  positional _ := true
  wholeMark := ""
  notANumber := "NaN"
  infinity := "inf"

/-- A JSON document writes up to sixteen digits before the point and up to four zeros after it
without exponent, and marks whole numbers by a fraction of zero. -/
def json : NumberStyle where
  tie := .even
  positional point := -5 < point && point ≤ 16
  wholeMark := ".0"
  notANumber := "null"
  infinity := "null"

end NumberStyle

end FeatureFlags
