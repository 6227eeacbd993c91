import FeatureFlags.Attribute.Reference
import FeatureFlags.Context.Kind
import FeatureFlags.Evaluation.Detail
import FeatureFlags.Store.Error

/-!
# Evaluation errors

What can stop an evaluation.  Such an error never reaches the caller as it is: the evaluation
answers with an error kind and reports the error as a warning.
-/

set_option autoImplicit false

namespace FeatureFlags

/-- What stops an evaluation. -/
inductive EvalError where
  | prerequisiteCycle (key : String)
  | segmentCycle (key : String)
  | invalidReference (r : Reference) (e : ReferenceError)
  | missingContextKind (kind : Kind)
  | missingVariation
  | malformedPrerequisite (key : String)
  | store (e : StoreError)
  | tooDeep
  deriving DecidableEq

namespace EvalError

/-- The text of an evaluation error. -/
def message : EvalError → String
  | prerequisiteCycle key => "prerequisite cycle through flag " ++ key
  | segmentCycle key => "segment cycle through segment " ++ key
  | invalidReference r e => "invalid attribute reference " ++ r.text ++ ": " ++ e.message
  | missingContextKind k => "context has no " ++ k.name ++ " kind to bucket by"
  | missingVariation => "rule or fallthrough has neither a variation nor a usable rollout"
  | malformedPrerequisite key => "prerequisite " ++ key ++ " could not be evaluated"
  | store e => "store lookup failed: " ++ e.message
  | tooDeep => "prerequisites or segments are nested too deeply"

/-- The kind of error that the evaluation answers with. -/
def kind : EvalError → ErrorKind
  | store _ => .exception
  | _ => .malformedFlag

end EvalError

/-- Fails unless a reference can refer to something. -/
def Reference.check (r : Reference) : Except EvalError Unit :=
  match r.path with
  | .ok _ => .ok ()
  | .error e => .error (.invalidReference r e)

end FeatureFlags
