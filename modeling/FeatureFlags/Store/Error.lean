/-!
# Store errors

Why a store could not answer.  That an item is missing is no error.
-/

set_option autoImplicit false

namespace FeatureFlags

/-- Why a store could not answer. -/
inductive StoreError where
  | unavailable (reason : String)
  | poisoned
  | other (reason : String)
  deriving DecidableEq

/-- The text of a store error. -/
def StoreError.message : StoreError → String
  | unavailable reason => "store unavailable: " ++ reason
  | poisoned => "store lock was poisoned by a panicking writer"
  | other reason => reason

end FeatureFlags
