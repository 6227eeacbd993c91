/-!
# Warnings

What is reported beside an answer when data cannot be used as asked.  A warning never changes an
answer.
-/

set_option autoImplicit false

namespace FeatureFlags

/-- A remark about data that could not be used as asked. -/
inductive Warning where
  | evaluationFailed (key reason : String)
  | invalidPattern
  | onlyKindReadable
  | emptyAttributeName
  | variationIsNot (wanted : String)
  deriving DecidableEq

/-- The text of a warning. -/
def Warning.message : Warning → String
  | evaluationFailed key reason => "could not evaluate flag " ++ key ++ ": " ++ reason
  | invalidPattern => "invalid regex"
  | onlyKindReadable => "only 'kind' can be read from a multi-kind context"
  | emptyAttributeName => "ignoring attribute with an empty name"
  | variationIsNot wanted => "variation is not " ++ wanted

end FeatureFlags
