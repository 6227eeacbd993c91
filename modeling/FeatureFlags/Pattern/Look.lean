import FeatureFlags.Pattern.Class

/-!
# Tests of places

Besides characters a pattern may ask for a place: the start or end of the text, of a line or of a
word.  Such a test looks at the characters before and after the place and uses up neither.

## What is here

* `Look`: a test of a place.
* `Look.holds`: whether it holds between two characters.
-/

set_option autoImplicit false

namespace FeatureFlags.Pattern

/-- The tests that compare the characters before and after a place as word characters. -/
inductive WordTest where
  | boundary
  | notBoundary
  | start
  | finish
  | startHalf
  | finishHalf
  deriving DecidableEq

/-- A test of a place between two characters. -/
inductive Look where
  | textStart
  | textEnd
  | lineStart (crlf : Bool)
  | lineEnd (crlf : Bool)
  | word (test : WordTest) (unicode : Bool)
  deriving DecidableEq

/-- Whether a test holds, given whether there is a word character before and after the place. -/
def WordTest.holds : WordTest → Bool → Bool → Bool
  | boundary, before, after => before != after
  | notBoundary, before, after => before == after
  | start, before, after => !before && after
  | finish, before, after => before && !after
  | startHalf, before, _ => !before
  | finishHalf, _, after => !after

/-- Whether a test holds at the place between two characters, of which either may be missing.
With CRLF a line ends before the pair and begins after it, never inside. -/
def Look.holds (before after : Option Char) : Look → Bool
  | textStart => before.isNone
  | textEnd => after.isNone
  | lineStart false => before.isNone || before == some '\n'
  | lineStart true =>
    before.isNone || before == some '\n' || (before == some '\r' && after != some '\n')
  | lineEnd false => after.isNone || after == some '\n'
  | lineEnd true =>
    after.isNone || after == some '\r' || (after == some '\n' && before != some '\r')
  | word test unicode =>
    let isWord (c : Option Char) : Bool := c.any (Shorthand.word.set unicode).contains
    test.holds (isWord before) (isWord after)

end FeatureFlags.Pattern
