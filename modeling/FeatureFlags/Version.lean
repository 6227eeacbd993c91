import FeatureFlags.Pattern.Class
import FeatureFlags.Text.Digits

/-!
# Semantic versions

A full version has a core of three numbers, then possibly a pre-release after a hyphen and build
metadata after a plus sign.  A text that is no full version is given a second chance: if it begins
with fewer numbers, zeros are put in after them, and the result is read again.  Build metadata is
to take no part in comparisons, so it is dropped in the end.

Versions are ordered by their core first.  A version with a pre-release comes before the one
without; pre-releases are compared identifier by identifier, numbers before words, numbers by
value, words by their characters, and a proper beginning before what it begins.

## What is here

* `Version.ofFullText?`: the version of a full text.
* `Version.ofString?`: the version of a text of which core numbers may be missing.
* `Version.compare`: the order.
* `Version.toString`: the full text of a version, with all three core numbers.
-/

set_option autoImplicit false

namespace FeatureFlags

/-- An identifier of a pre-release: a number, or a word that is not one. -/
inductive PreReleaseId where
  | number (n : Nat)
  | word (s : String)
  deriving DecidableEq

/-- A version. -/
structure Version where
  major : Nat
  minor : Nat
  patch : Nat
  preRelease : List PreReleaseId
  build : List String
  deriving DecidableEq

/-! ## Order -/

/-- The order of identifiers. -/
def PreReleaseId.compare : PreReleaseId → PreReleaseId → Ordering
  | number m, number n => Ord.compare m n
  | number _, word _ => .lt
  | word _, number _ => .gt
  | word s, word t => Ord.compare s t

namespace Version

/-- The order of pre-releases: having none comes last. -/
def comparePreRelease : List PreReleaseId → List PreReleaseId → Ordering
  | [], [] => .eq
  | [], _ :: _ => .gt
  | _ :: _, [] => .lt
  | as, bs => List.compareLex PreReleaseId.compare as bs

/-- The order of identifiers of build metadata: numbers before words, numbers by value.  They may
have leading zeros, and of two with the same value the shorter one comes first. -/
def compareBuildId (s t : String) : Ordering :=
  match s.toList.all Char.isDigit, t.toList.all Char.isDigit with
  | true, true =>
    (Ord.compare (Text.number s.toList) (Text.number t.toList)).then (Ord.compare s.length t.length)
  | true, false => .lt
  | false, true => .gt
  | false, false => Ord.compare s t

/-- The order of versions.  Build metadata, if there is any, comes last. -/
def compare (v w : Version) : Ordering :=
  (Ord.compare v.major w.major).then <| (Ord.compare v.minor w.minor).then <|
    (Ord.compare v.patch w.patch).then <| (comparePreRelease v.preRelease w.preRelease).then <|
      List.compareLex compareBuildId v.build w.build

/-! ## Reading -/

/-- Core numbers lie below this bound. -/
def numberBound : Nat := Nat.pow 2 64

/-- Whether digits are written without a superfluous leading zero. -/
def noLeadingZero (digits : List Char) : Bool := digits.length ≤ 1 || digits.head? != some '0'

/-- A core number at the start of a text, and the rest. -/
def coreNumber? (s : List Char) : Option (Nat × List Char) :=
  let (digits, rest) := Text.takeDigits s
  if !digits.isEmpty && noLeadingZero digits && decide (Text.number digits < numberBound) then
    some (Text.number digits, rest)
  else none

/-- Removes a point. -/
def point? : List Char → Option (List Char)
  | '.' :: s => some s
  | _ => none

/-- The characters of identifiers. -/
def idChar (c : Char) : Bool := c.isAlphanum || c == '-'

/-- The identifiers of a text between points; none may be empty. -/
def identifiers? (s : List Char) : Option (List (List Char)) :=
  let parts := s.splitOn '.'
  if parts.all fun p => !p.isEmpty && p.all idChar then some parts else none

/-- A pre-release identifier; a number has no leading zero. -/
def preReleaseId? (s : List Char) : Option PreReleaseId :=
  if !s.all Char.isDigit then some (.word (String.ofList s))
  else if noLeadingZero s then some (.number (Text.number s))
  else none

/-- A pre-release. -/
def preRelease? (s : List Char) : Option (List PreReleaseId) := do
  (← identifiers? s).mapM preReleaseId?

/-- Build metadata. -/
def build? (s : List Char) : Option (List String) := (identifiers? s).map (·.map String.ofList)

/-- What follows the core: a pre-release, build metadata, both or neither. -/
def suffix? : List Char → Option (List PreReleaseId × List String)
  | [] => some ([], [])
  | '-' :: s =>
    let (pre, rest) := s.span (· != '+')
    match rest with
    | [] => do some (← preRelease? pre, [])
    | _ :: build => do some (← preRelease? pre, ← build? build)
  | '+' :: build => do some ([], ← build? build)
  | _ => none

/-- The version of a full text, given as characters. -/
def ofFullText? (s : List Char) : Option Version := do
  let (major, rest) ← coreNumber? s
  let (minor, rest) ← coreNumber? (← point? rest)
  let (patch, rest) ← coreNumber? (← point? rest)
  let (pre, build) ← suffix? rest
  some ⟨major, minor, patch, pre, build⟩

/-! ## Missing core numbers

Where the core ends is found out with the decimal digits of all scripts.  Only ASCII digits can be
read as numbers afterwards. -/

/-- Whether a character is a decimal digit of any script.  ASCII characters need no table. -/
def isDigit (c : Char) : Bool :=
  if c.toNat < 0x80 then c.isDigit else Pattern.digitSet.contains c

/-- Up to `count` runs of digits at the start of a text, each after a point, and the rest. -/
def pointedRuns : Nat → List Char → List (List Char) × List Char
  | count + 1, '.' :: s =>
    let (run, rest) := s.span isDigit
    if run.isEmpty then ([], '.' :: s)
    else
      let (runs, rest) := pointedRuns count rest
      (run :: runs, rest)
  | _, s => ([], s)

/-- The text with zeros for missing core numbers, if it begins with digits. -/
def complete? (s : List Char) : Option (List Char) :=
  let (run, rest) := s.span isDigit
  if run.isEmpty then none
  else
    let (runs, rest) := pointedRuns 2 rest
    let zeros := List.replicate (2 - runs.length) ['0']
    some (['.'].intercalate (run :: runs ++ zeros) ++ rest)

/-- The version of a list of characters. -/
def ofChars? (s : List Char) : Option Version :=
  (ofFullText? s <|> (complete? s).bind ofFullText?).map fun v => { v with build := [] }

/-- The version of a text. -/
def ofString? (s : String) : Option Version := ofChars? s.toList

/-! ## Writing -/

/-- The text of an identifier. -/
def idText : PreReleaseId → String
  | .number n => ToString.toString n
  | .word s => s

/-- Identifiers with points between them after a mark; without identifiers there is no mark. -/
def marked (mark : String) (ids : List String) : String :=
  if ids.isEmpty then "" else mark ++ ".".intercalate ids

/-- The text of a core, of a pre-release and of build metadata. -/
def textOf (core : List Nat) (pre : List PreReleaseId) (build : List String) : String :=
  ".".intercalate (core.map ToString.toString) ++ marked "-" (pre.map idText) ++ marked "+" build

/-- The text of a version. -/
def toString (v : Version) : String := textOf [v.major, v.minor, v.patch] v.preRelease v.build

end Version

end FeatureFlags
