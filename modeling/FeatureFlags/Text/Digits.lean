/-!
# Decimal digits in text

ASCII digits, the numbers they form and the runs in which they stand.  Dates, versions and pattern
repetitions are read with these.

## What is here

* `Text.number`: the number of a run of digits.
* `Text.takeDigits`: a run of digits and what follows it.
* `Text.fixedNumber?`: a number of a fixed count of digits.
-/

set_option autoImplicit false

namespace FeatureFlags.Text

/-- The number that digits form. -/
def number (digits : List Char) : Nat :=
  digits.foldl (fun n c => n * 10 + (c.toNat - '0'.toNat)) 0

/-- The longest run of digits at the start, and the rest. -/
def takeDigits (s : List Char) : List Char × List Char := s.span Char.isDigit

/-- The number of exactly `count` digits at the start, and the rest. -/
def fixedNumber? (count : Nat) (s : List Char) : Option (Nat × List Char) :=
  let digits := s.take count
  if digits.length = count && digits.all Char.isDigit then some (number digits, s.drop count)
  else none

end FeatureFlags.Text
