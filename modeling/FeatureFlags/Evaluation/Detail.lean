import FeatureFlags.BigSegment.Membership
import FeatureFlags.Json.Basic

/-!
# Evaluation details

The answer of an evaluation: the value served, its place among the variations of the flag, and why
it was chosen.

## What is here

* `Reason`, `ErrorKind`: why a value was chosen, or why there is none.
* `Detail`: an answer, with defaults (`or`, `orElse`), conversions (`map`, `tryMap`) and
  `shouldHaveValue`.
* `Detail.toJson`: an answer as JSON.
-/

set_option autoImplicit false

namespace FeatureFlags

/-! ## Reasons -/

/-- The kinds of failure that are reported in place of a value. -/
inductive ErrorKind where
  | clientNotReady
  | flagNotFound
  | userNotSpecified
  | malformedFlag
  | wrongType
  | exception
  deriving DecidableEq

/-- The name of an error kind in answers. -/
def ErrorKind.name : ErrorKind → String
  | clientNotReady => "CLIENT_NOT_READY"
  | flagNotFound => "FLAG_NOT_FOUND"
  | userNotSpecified => "USER_NOT_SPECIFIED"
  | malformedFlag => "MALFORMED_FLAG"
  | wrongType => "WRONG_TYPE"
  | exception => "EXCEPTION"

/-- Why a value was chosen. -/
inductive Reason where
  | off
  | targetMatch
  | ruleMatch (index : Nat) (id : String) (inExperiment : Bool)
  | prerequisiteFailed (key : String)
  | fallthrough (inExperiment : Bool)
  | error (kind : ErrorKind)
  deriving DecidableEq

namespace Reason

/-- Whether the value was chosen by a tracked part of an experiment. -/
def isInExperiment : Reason → Bool
  | ruleMatch _ _ inExperiment => inExperiment
  | fallthrough inExperiment => inExperiment
  | _ => false

/-- A member that is only written when it holds. -/
def flagMember (name : String) (b : Bool) : List (String × Json) :=
  if b then [(name, .bool true)] else []

/-- The members of a reason as JSON. -/
def members : Reason → List (String × Json)
  | off => [("kind", .string "OFF")]
  | targetMatch => [("kind", .string "TARGET_MATCH")]
  | ruleMatch index id inExperiment =>
    [("kind", .string "RULE_MATCH"), ("ruleIndex", .nat index)] ++
      (if id = "" then [] else [("ruleId", .string id)]) ++ flagMember "inExperiment" inExperiment
  | prerequisiteFailed key =>
    [("kind", .string "PREREQUISITE_FAILED"), ("prerequisiteKey", .string key)]
  | fallthrough inExperiment =>
    ("kind", .string "FALLTHROUGH") :: flagMember "inExperiment" inExperiment
  | error kind => [("kind", .string "ERROR"), ("errorKind", .string kind.name)]

/-- A reason as JSON. -/
def toJson (r : Reason) : Json := .ofMembers r.members

end Reason

/-! ## Details -/

/-- The answer of an evaluation.  The index is the place of the value among the variations, if it
is one of them; the status tells what went wrong with big segments, if any were needed. -/
structure Detail (α : Type) where
  value : Option α
  index : Option Nat
  reason : Reason
  status : Option BigSegmentStatus

namespace Detail

variable {α β : Type}

/-- No value, for a reason. -/
def empty (reason : Reason) : Detail α := ⟨none, none, reason, none⟩

/-- No value, because of an error. -/
def err (kind : ErrorKind) : Detail α := empty (.error kind)

/-- A default value, because of an error. -/
def errDefault (kind : ErrorKind) (default : α) : Detail α :=
  { (err kind : Detail α) with value := some default }

/-- The answer with its value, if any, converted. -/
def map (f : α → β) (d : Detail α) : Detail β := ⟨d.value.map f, d.index, d.reason, d.status⟩

/-- The answer with an error as its reason if it has no value. -/
def shouldHaveValue (d : Detail α) (kind : ErrorKind) : Detail α :=
  match d.value with
  | some _ => d
  | none => { d with reason := .error kind }

/-- The answer with its value converted by a conversion that may refuse.  A missing value is
replaced by a default under the reason there was; a refused one by the default as an error. -/
def tryMap (f : α → Option β) (default : β) (kind : ErrorKind) (d : Detail α) : Detail β :=
  match d.value with
  | none => ⟨some default, d.index, d.reason, d.status⟩
  | some v =>
    match f v with
    | some w => ⟨some w, d.index, d.reason, d.status⟩
    | none => { errDefault kind default with status := d.status }

/-- The answer with a default for a missing value. -/
def or (d : Detail α) (default : α) : Detail α :=
  match d.value with
  | some _ => d
  | none => { d with value := some default, index := none }

/-- The answer with a default for a missing value, made only if it is needed. -/
def orElse (d : Detail α) (default : Unit → α) : Detail α :=
  match d.value with
  | some _ => d
  | none => { d with value := some (default ()), index := none }

/-- An answer as JSON.  The status is part of the reason. -/
def toJson (value : α → Json) (d : Detail α) : Json :=
  .ofMembers [
    ("value", (d.value.map value).getD .null),
    ("variationIndex", (d.index.map Json.nat).getD .null),
    ("reason", .ofMembers (d.reason.members ++
      (d.status.map fun s => ("bigSegmentsStatus", Json.string s.name)).toList))]

end Detail

end FeatureFlags
