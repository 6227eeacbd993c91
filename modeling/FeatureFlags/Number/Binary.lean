/-!
# Binary floating point, exactly

Numbers of a binary interchange format, as a sign and a magnitude word, and their arithmetic by
rounding exact quotients.  Nothing here goes through machine floats: a magnitude is a natural
number, the value it stands for is a whole number of *units* (the least positive value of the
format), and every operation forms its exact result as a quotient of natural numbers and rounds
once.

## What is here

* `BinaryFormat.units`: the value of a magnitude word, in units; strictly increasing.
* `BinaryFormat.nearest`: the magnitude word nearest to a quotient, ties to the even word.
* `Binary`: signed numbers, `Double` and `Single`, with comparison, conversion, sum and quotient.
-/

set_option autoImplicit false

namespace FeatureFlags

/-! ## Formats -/

/-- The widths that fix a binary format: of the fraction field and of the exponent field. -/
structure BinaryFormat where
  fractionBits : Nat
  exponentBits : Nat

namespace BinaryFormat

/-- The 64-bit format. -/
def double : BinaryFormat := ⟨52, 11⟩

/-- The 32-bit format. -/
def single : BinaryFormat := ⟨23, 8⟩

variable (f : BinaryFormat)

/-- Magnitude words lie below this bound; the sign bit comes above it. -/
def magnitudeBound : Nat := Nat.pow 2 (f.exponentBits + f.fractionBits)

/-- Fractions lie below this bound. -/
def fractionBound : Nat := Nat.pow 2 f.fractionBits

/-- The magnitude word of infinity: the exponent field all ones, the fraction zero.  Words below
it are finite, words above it are not numbers. -/
def infinity : Nat := (Nat.pow 2 f.exponentBits - 1) * f.fractionBound

/-- The exponent of the unit is the negative of this number. -/
def unitExponent : Nat := Nat.pow 2 (f.exponentBits - 1) - 2 + f.fractionBits

/-- The number of units in one. -/
def one : Nat := Nat.pow 2 f.unitExponent

/-- The value of a magnitude word in units.  A zero exponent field has no hidden bit. -/
def units (word : Nat) : Nat :=
  let fraction := word % f.fractionBound
  let exponent := word / f.fractionBound
  if exponent = 0 then fraction else (f.fractionBound + fraction) * Nat.pow 2 (exponent - 1)

/-- The whole number nearest to a quotient; of two equally near ones the even one. -/
def roundHalfEven (num den : Nat) : Nat :=
  let quotient := num / den
  let twice := 2 * (num % den)
  if twice < den then quotient
  else if den < twice then quotient + 1
  else quotient + quotient % 2

/-- The magnitude word whose value is nearest to `num / den` units, ties to the even word.  The
exponent is chosen so that the significand fills the fraction field and its hidden bit; a
significand that rounds up to the next power of two carries into the exponent field, and what
lies past the finite range is infinite. -/
def nearest (num den : Nat) : Nat :=
  let shift := Nat.log2 (num / den) - f.fractionBits
  min (shift * f.fractionBound + roundHalfEven num (den * Nat.pow 2 shift)) f.infinity

theorem magnitudeBound_eq : f.magnitudeBound = Nat.pow 2 f.exponentBits * f.fractionBound :=
  Nat.pow_add 2 f.exponentBits f.fractionBits

theorem infinity_lt_magnitudeBound : f.infinity < f.magnitudeBound := by
  have he : 0 < Nat.pow 2 f.exponentBits := Nat.two_pow_pos _
  have hf : 0 < f.fractionBound := Nat.two_pow_pos _
  rw [infinity, magnitudeBound_eq]
  exact Nat.mul_lt_mul_of_pos_right (Nat.sub_lt he Nat.one_pos) hf

theorem nearest_lt_magnitudeBound (num den : Nat) : f.nearest num den < f.magnitudeBound :=
  Nat.lt_of_le_of_lt (Nat.min_le_right _ _) f.infinity_lt_magnitudeBound

end BinaryFormat

/-! ## Numbers -/

/-- A number of a binary format: a sign and a magnitude word. -/
structure Binary (f : BinaryFormat) where
  negative : Bool
  magnitude : Nat
  magnitude_lt : magnitude < f.magnitudeBound
  deriving DecidableEq

/-- Numbers of the 64-bit format. -/
abbrev Double := Binary .double

/-- Numbers of the 32-bit format. -/
abbrev Single := Binary .single

namespace Binary

variable {f : BinaryFormat}

/-- Zero. -/
def zero : Binary f := ⟨false, 0, Nat.two_pow_pos _⟩

instance : Inhabited (Binary f) := ⟨zero⟩

/-- Infinity of the given sign. -/
def infinite (negative : Bool) : Binary f :=
  ⟨negative, f.infinity, f.infinity_lt_magnitudeBound⟩

/-- A value that is not a number. -/
def nan : Binary f :=
  ⟨false, min (f.infinity + f.fractionBound / 2) (f.magnitudeBound - 1), by
    have : 0 < f.magnitudeBound := Nat.two_pow_pos _
    exact Nat.lt_of_le_of_lt (Nat.min_le_right _ _) (by omega)⟩

/-- The number nearest to `num / den` units, with the given sign. -/
def round (negative : Bool) (num den : Nat) : Binary f :=
  ⟨negative, f.nearest num den, f.nearest_lt_magnitudeBound num den⟩

/-- The number with the given bit pattern; higher bits are dropped. -/
def ofBits (bits : Nat) : Binary f :=
  ⟨bits / f.magnitudeBound % 2 == 1, bits % f.magnitudeBound, Nat.mod_lt _ (Nat.two_pow_pos _)⟩

/-- The bit pattern of a number. -/
def toBits (x : Binary f) : Nat := (if x.negative then f.magnitudeBound else 0) + x.magnitude

/-- Whether the value is not a number. -/
def isNaN (x : Binary f) : Bool := f.infinity < x.magnitude

/-- Whether the value is neither infinite nor not a number. -/
def isFinite (x : Binary f) : Bool := x.magnitude < f.infinity

theorem isNaN_of_isFinite {x : Binary f} (h : x.isFinite = true) : x.isNaN = false :=
  decide_eq_false (Nat.not_lt.2 (Nat.le_of_lt (of_decide_eq_true h)))

/-- The absolute value in units. -/
def units (x : Binary f) : Nat := f.units x.magnitude

/-- The value in units. -/
def signedUnits (x : Binary f) : Int := if x.negative then -(x.units : Int) else x.units

/-! ## Order

Magnitude words are ordered as the values they stand for, so signed words order the numbers; both
zeros have rank zero. -/

/-- The place of a number in the order. -/
def rank (x : Binary f) : Int := if x.negative then -(x.magnitude : Int) else x.magnitude

/-- Numeric equality: zeros of either sign are equal, and nothing equals what is not a number. -/
def equal (x y : Binary f) : Bool := !x.isNaN && !y.isNaN && x.rank == y.rank

/-- Whether `x` is less than `y`; false if either is not a number. -/
def less (x y : Binary f) : Bool := !x.isNaN && !y.isNaN && decide (x.rank < y.rank)

/-- Whether `x` is at most `y`; false if either is not a number. -/
def atMost (x y : Binary f) : Bool := !x.isNaN && !y.isNaN && decide (x.rank ≤ y.rank)

/-! ## Conversion -/

/-- The number nearest to a natural number. -/
def ofNat (n : Nat) : Binary f := round false (n * f.one) 1

/-- The number nearest to a whole number. -/
def ofInt (n : Int) : Binary f := round (n < 0) (n.natAbs * f.one) 1

/-- The number nearest to `digits` times ten to the `exponent`.  Values far outside every format's range are
settled by their size alone. -/
def ofDecimal (negative : Bool) (digits : Nat) (exponent : Int) : Binary f :=
  let size : Int := (Nat.toDigits 10 digits).length + exponent
  if digits = 0 ∨ size < -1000 then round negative 0 1
  else if 1000 < size then infinite negative
  else round negative (digits * Nat.pow 10 exponent.toNat * f.one) (Nat.pow 10 (-exponent).toNat)

/-- The nearest number of another format. -/
def convert {g : BinaryFormat} (x : Binary f) : Binary g :=
  if x.isNaN then nan
  else if !x.isFinite then infinite x.negative
  else round x.negative (x.units * g.one) f.one

/-- The value without its fractional part, for a finite number. -/
def truncate (x : Binary f) : Int :=
  let whole : Nat := x.units / f.one
  if x.negative then -(whole : Int) else whole

/-- Whether a finite number has no fractional part. -/
def isIntegral (x : Binary f) : Bool := x.units % f.one == 0

/-! ## Arithmetic -/

/-- The sum, rounded. -/
def add (x y : Binary f) : Binary f :=
  if x.isNaN || y.isNaN then nan
  else if !x.isFinite then
    if !y.isFinite && x.negative != y.negative then nan else x
  else if !y.isFinite then y
  else
    let sum := x.signedUnits + y.signedUnits
    round (if sum = 0 then x.negative && y.negative else sum < 0) sum.natAbs 1

/-- The product, rounded. -/
def mul (x y : Binary f) : Binary f :=
  let negative := x.negative != y.negative
  if x.isNaN || y.isNaN then nan
  else if !x.isFinite then if y.magnitude = 0 then nan else infinite negative
  else if !y.isFinite then if x.magnitude = 0 then nan else infinite negative
  else round negative (x.units * y.units) f.one

/-- The quotient, rounded. -/
def div (x y : Binary f) : Binary f :=
  let negative := x.negative != y.negative
  if x.isNaN || y.isNaN then nan
  else if !x.isFinite then if y.isFinite then infinite negative else nan
  else if !y.isFinite then round negative 0 1
  else if y.units = 0 then if x.units = 0 then nan else infinite negative
  else round negative (x.units * f.one) y.units

/-! ## Exact integers in 64 bits -/

/-- The largest number below which every whole number is a `Double`. -/
def maxExactInteger : Nat := Nat.pow 2 53 - 1

/-- The whole part of a `Double` whose size is at most `maxExactInteger`. -/
def toExactInteger? (x : Double) : Option Int :=
  if x.isFinite && decide (x.units ≤ maxExactInteger * BinaryFormat.double.one)
  then some x.truncate else none

end Binary

end FeatureFlags
