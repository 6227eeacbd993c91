import FeatureFlags.SortedMap

/-!
# Big segments

A big segment is too large to come with the flag data; a store of its own is asked which big
segments a key belongs to.

## What is here

* `BigSegmentStatus`: the health of the store, ordered by severity.
* `Membership`: the answer about one key.
* `Provider`: the store, as a function of the key.
-/

set_option autoImplicit false

namespace FeatureFlags

/-- The health of the store of big segments, as seen by an evaluation that needed it. -/
inductive BigSegmentStatus where
  | healthy
  | stale
  | storeError
  | notConfigured
  deriving DecidableEq

namespace BigSegmentStatus

/-- How severe a status is. -/
def severity : BigSegmentStatus → Nat
  | healthy => 0
  | stale => 1
  | storeError => 2
  | notConfigured => 3

/-- Whether one status is at most as severe as another. -/
def atMost (s t : BigSegmentStatus) : Bool := decide (s.severity ≤ t.severity)

/-- The more severe of two statuses. -/
def worst (s t : BigSegmentStatus) : BigSegmentStatus := if s.atMost t then t else s

/-- The most severe of a list of statuses. -/
def worstOf? : List BigSegmentStatus → Option BigSegmentStatus
  | [] => none
  | s :: rest => some ((worstOf? rest).elim s s.worst)

/-- The statuses in order of severity. -/
def sort (l : List BigSegmentStatus) : List BigSegmentStatus := l.mergeSort atMost

/-- The name of a status in answers. -/
def name : BigSegmentStatus → String
  | healthy => "HEALTHY"
  | stale => "STALE"
  | storeError => "STORE_ERROR"
  | notConfigured => "NOT_CONFIGURED"

end BigSegmentStatus

/-- What the store says of one key: the references of the segments that include it and of those
that exclude it. -/
structure Membership where
  included : List String
  excluded : List String

/-- Whether a reference is included or excluded, or neither.  Inclusion wins. -/
def Membership.check (m : Membership) (reference : String) : Option Bool :=
  if m.included.contains reference then some true
  else if m.excluded.contains reference then some false
  else none

/-- A store of big segments.  A key about which it knows nothing has no membership. -/
structure Provider where
  query : String → Option Membership × BigSegmentStatus

end FeatureFlags
