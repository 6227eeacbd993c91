import FeatureFlags.Text.Digits

/-!
# Instants

Points in time with nanosecond precision.  A leap second is told apart from the second before it
by a nanosecond count of at least one thousand million, so instants are ordered by their seconds
first and their nanoseconds second.

## What is here

* `Instant.ofMillis?`: the instant of a count of milliseconds since the epoch.
* `Instant.ofText?`: the instant of an RFC 3339 text such as `2016-04-16T17:09:12.759-07:00`.
* `Instant.less`: the order.
-/

set_option autoImplicit false

namespace FeatureFlags

/-- Seconds since the start of 1970 in universal time, and the nanoseconds in that second. -/
structure Instant where
  seconds : Int
  nanos : Nat
  deriving DecidableEq

namespace Instant

/-- Whether one instant comes before another. -/
def less (a b : Instant) : Bool :=
  decide (a.seconds < b.seconds) || (a.seconds == b.seconds && decide (a.nanos < b.nanos))

/-! ## The calendar -/

/-- Whether a year of the Gregorian calendar has a leap day. -/
def isLeapYear (year : Int) : Bool :=
  year % 4 == 0 && (year % 100 != 0 || year % 400 == 0)

/-- The number of days in a month. -/
def daysInMonth (year : Int) (month : Nat) : Nat :=
  if month = 2 then if isLeapYear year then 29 else 28
  else if month = 4 || month = 6 || month = 9 || month = 11 then 30
  else 31

/-- Days from the start of year zero to the start of a year: one more for each leap year between. -/
def daysBeforeYear (year : Int) : Int :=
  365 * year + (year + 3) / 4 - (year + 99) / 100 + (year + 399) / 400

/-- Days from the start of a year to the start of a month. -/
def daysBeforeMonth (year : Int) (month : Nat) : Nat :=
  (List.range (month - 1)).foldl (fun days m => days + daysInMonth year (m + 1)) 0

/-- Days from the start of 1970 to a date. -/
def daysFromEpoch (year : Int) (month day : Nat) : Int :=
  daysBeforeYear year - daysBeforeYear 1970 + daysBeforeMonth year month + (day - 1 : Nat)

/-- The seconds of a day. -/
def secondsPerDay : Int := 86400

/-! ## Milliseconds -/

/-- The first second an instant can have: the start of the year -262143. -/
def firstSecond : Int := daysFromEpoch (-262143) 1 1 * secondsPerDay

/-- The second after the last one an instant can have: the start of the year 262143. -/
def endSecond : Int := daysFromEpoch 262143 1 1 * secondsPerDay

/-- The instant of a count of milliseconds, if its year can be represented. -/
def ofMillis? (millis : Int) : Option Instant :=
  let seconds := millis / 1000
  if firstSecond ≤ seconds && seconds < endSecond then
    some ⟨seconds, (millis % 1000).toNat * 1000000⟩
  else none

/-! ## Text -/

/-- Removes an expected character. -/
def skip? (c : Char) : List Char → Option (List Char)
  | [] => none
  | d :: rest => if d = c then some rest else none

/-- A date, as days since the epoch. -/
def date? (s : List Char) : Option (Int × List Char) := do
  let (year, s) ← Text.fixedNumber? 4 s
  let (month, s) ← Text.fixedNumber? 2 (← skip? '-' s)
  let (day, s) ← Text.fixedNumber? 2 (← skip? '-' s)
  if 1 ≤ month && month ≤ 12 && 1 ≤ day && day ≤ daysInMonth year month then
    some (daysFromEpoch year month day, s)
  else none

/-- A time of day in seconds, and whether it is a leap second.  The leap second counts as the
second before it. -/
def time? (s : List Char) : Option (Nat × Bool × List Char) := do
  let (hour, s) ← Text.fixedNumber? 2 s
  let (minute, s) ← Text.fixedNumber? 2 (← skip? ':' s)
  let (second, s) ← Text.fixedNumber? 2 (← skip? ':' s)
  if hour ≤ 23 && minute ≤ 59 && second ≤ 60 then
    some (hour * 3600 + minute * 60 + min second 59, second == 60, s)
  else none

/-- A fraction of a second in nanoseconds.  Digits past the ninth are dropped. -/
def fraction? : List Char → Option (Nat × List Char)
  | '.' :: s =>
    let (digits, rest) := Text.takeDigits s
    let kept := digits.take 9
    if digits.isEmpty then none
    else some (Text.number kept * Nat.pow 10 (9 - kept.length), rest)
  | s => some (0, s)

/-- An offset from universal time in seconds.  A hyphen or a minus sign counts as negative. -/
def offset? : List Char → Option (Int × List Char)
  | [] => none
  | c :: s =>
    if c = 'Z' || c = 'z' then some (0, s)
    else if c = '+' || c = '-' || c = '\u2212' then do
      let (hours, s) ← Text.fixedNumber? 2 s
      let (minutes, s) ← Text.fixedNumber? 2 (← skip? ':' s)
      let seconds : Int := hours * 3600 + minutes * 60
      if hours ≤ 23 && minutes ≤ 59 then some (if c = '+' then seconds else -seconds, s) else none
    else none

/-- The mark between date and time. -/
def dateMark (c : Char) : Bool := c == 'T' || c == 't' || c == ' '

/-- The instant of a list of characters. -/
def ofChars? (s : List Char) : Option Instant := do
  let (days, s) ← date? s
  match s with
  | [] => none
  | c :: s =>
    if !dateMark c then none
    else
      let (second, isLeap, s) ← time? s
      let (nanos, s) ← fraction? s
      let (offset, s) ← offset? s
      if s.isEmpty then
        some ⟨days * secondsPerDay + second - offset, nanos + if isLeap then 1000000000 else 0⟩
      else none

/-- The instant of an RFC 3339 text. -/
def ofText? (s : String) : Option Instant := ofChars? s.toList

end Instant

end FeatureFlags
