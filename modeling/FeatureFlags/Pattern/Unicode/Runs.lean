import FeatureFlags.Pattern.CharSet
import FeatureFlags.Text.Digits

/-!
# Tables of code points as text

Two notations for tables of character properties.  A *run* is a count followed by a label: that
many code points, counted from the end of the run before, carry the label.  A *range* is a code
point or two joined by a hyphen, in decimal.  Items are separated by blanks.

## What is here

* `labelled`: the code points with a label, from a table of runs.
* `codeRanges`: the code points of a table of ranges.
-/

set_option autoImplicit false

namespace FeatureFlags.Pattern.Unicode

/-- The items of a line. -/
def items (line : String) : List (List Char) := line.toList.splitOn ' '

/-- The runs of a table: first code point, last code point and label of each. -/
def runs (lines : List String) : List (Nat × Nat × String) :=
  let step := fun (acc : List (Nat × Nat × String) × Nat) (item : List Char) =>
    let (count, label) := Text.takeDigits item
    let next := acc.2 + Text.number count
    ((acc.2, next - 1, String.ofList label) :: acc.1, next)
  ((lines.flatMap items).foldl step ([], 0)).1.reverse

/-- The code points with one of the given labels. -/
def labelled (table : List (Nat × Nat × String)) (labels : List String) : CharSet :=
  .ofRanges ((table.filter fun run => labels.contains run.2.2).map fun run => (run.1, run.2.1))

/-- The code points of a table of ranges. -/
def codeRanges (lines : List String) : CharSet :=
  .ofRanges <| (lines.flatMap items).map fun item =>
    let (first, rest) := Text.takeDigits item
    match rest with
    | '-' :: last => (Text.number first, Text.number last)
    | _ => (Text.number first, Text.number first)

end FeatureFlags.Pattern.Unicode
