import FeatureFlags.Store.Basic

/-!
# The scope of an evaluation

An evaluation keeps track of the flags and segments that it is in the middle of, of what the store
of big segments has told it, and of what it has done so far.  All of this lives as long as one
evaluation.  An error ends the evaluation, but what was kept track of until then is not lost.

## What is here

* `Scope`, `Event`, `PrerequisiteRecord`: what an evaluation keeps track of.
* `Eval`: a step of an evaluation, as a function on scopes that may fail.
* `Environment`: what an evaluation is given, with the lookups and queries that it makes.
-/

set_option autoImplicit false

namespace FeatureFlags

/-- The result of a prerequisite, with the key of the flag that requires it. -/
structure PrerequisiteRecord where
  flag : Flag
  prerequisiteOf : String
  detail : Detail FlagValue

/-- What an evaluation does outside of itself: it looks up items in the store, consults big
segments, and queries the provider when a consultation needs it. -/
inductive Event where
  | flagLookup (key : String)
  | segmentLookup (key : String)
  | consultation (contextKey : String) (reference : Option String)
  | query (contextKey : String)
  deriving DecidableEq

/-- What an evaluation keeps track of.  The chains hold the keys of the flags and of the segments
that are being evaluated. -/
structure Scope where
  flagChain : List String
  segmentChain : List String
  memberships : SortedMap (Option Membership)
  status : Option BigSegmentStatus
  records : List PrerequisiteRecord
  events : List Event
  warnings : List Warning

/-- What is known before an evaluation. -/
def Scope.empty : Scope := ⟨[], [], .empty, none, [], [], []⟩

/-! ## Steps -/

/-- A step of an evaluation. -/
def Eval (α : Type) : Type := Scope → Except EvalError α × Scope

namespace Eval

variable {α β : Type}

/-- The step that only gives a value. -/
protected def pure (a : α) : Eval α := fun scope => (.ok a, scope)

/-- One step and then another. -/
protected def bind (x : Eval α) (f : α → Eval β) : Eval β := fun scope =>
  match x scope with
  | (.ok a, scope) => f a scope
  | (.error e, scope) => (.error e, scope)

instance : Monad Eval where
  pure := Eval.pure
  bind := Eval.bind

/-- The step that fails. -/
def fail (e : EvalError) : Eval α := fun scope => (.error e, scope)

/-- The step that gives or fails as a computation does. -/
def ofExcept (x : Except EvalError α) : Eval α := fun scope => (x, scope)

/-- The step that gives something kept track of. -/
def read (f : Scope → α) : Eval α := fun scope => (.ok (f scope), scope)

/-- The step that changes what is kept track of. -/
def update (f : Scope → Scope) : Eval Unit := fun scope => (.ok (), f scope)

/-- Notes an event. -/
def note (e : Event) : Eval Unit := update fun scope => { scope with events := scope.events ++ [e] }

/-- Adds warnings. -/
def warn (ws : List Warning) : Eval Unit :=
  update fun scope => { scope with warnings := scope.warnings ++ ws }

/-- Adds the record of a prerequisite, with the status that is known by then. -/
def record (f : Flag) (prerequisiteOf : String) (detail : Detail FlagValue) : Eval Unit :=
  update fun scope =>
    { scope with
      records := scope.records ++ [⟨f, prerequisiteOf, { detail with status := scope.status }⟩] }

/-- Whether a step gives true for any item of a list.  Nothing is done after the first that
does. -/
def any (p : β → Eval Bool) : List β → Eval Bool
  | [] => return false
  | x :: rest => do
    if ← p x then return true else any p rest

/-- Whether a step gives true for all items of a list.  Nothing is done after the first that does
not. -/
def all (p : β → Eval Bool) : List β → Eval Bool
  | [] => return true
  | x :: rest => do
    if ← p x then all p rest else return false

/-! ## Chains -/

/-- A chain with a key on it. -/
def enter (key : String) (chain : List String) : List String :=
  if chain.contains key then chain else key :: chain

/-- A chain without a key. -/
def leave (key : String) (chain : List String) : List String := chain.filter (· ≠ key)

/-- Takes a step in a changed scope, and changes the scope again after it. -/
def around (before after : Scope → Scope) (x : Eval α) : Eval α := fun scope =>
  let (result, scope) := x (before scope)
  (result, after scope)

/-- Takes a step with a key on the chain of flags. -/
def withFlag (key : String) (x : Eval α) : Eval α :=
  around (fun scope => { scope with flagChain := enter key scope.flagChain })
    (fun scope => { scope with flagChain := leave key scope.flagChain }) x

/-- Takes a step with a key on the chain of segments. -/
def withSegment (key : String) (x : Eval α) : Eval α :=
  around (fun scope => { scope with segmentChain := enter key scope.segmentChain })
    (fun scope => { scope with segmentChain := leave key scope.segmentChain }) x

end Eval

/-! ## The environment -/

/-- What an evaluation is given: a store, perhaps a provider of big segments, and a context. -/
structure Environment where
  store : Store
  provider : Option Provider
  context : Context

namespace Environment

variable (env : Environment)

/-- Looks up a flag that is not deleted. -/
def flag? (key : String) : Eval (Option Flag) := do
  Eval.note (.flagLookup key)
  match env.store.flag? key with
  | .error e => Eval.fail (.store e)
  | .ok found => return found.filter (!·.deleted)

/-- Looks up a segment that is not deleted. -/
def segment? (key : String) : Eval (Option Segment) := do
  Eval.note (.segmentLookup key)
  match env.store.segment? key with
  | .error e => Eval.fail (.store e)
  | .ok found => return found.filter (!·.deleted)

/-- Takes note of the health of the store of big segments. -/
def observe (status : BigSegmentStatus) : Eval Unit :=
  Eval.update fun scope =>
    { scope with status := some (scope.status.elim status (·.worst status)) }

/-- What a provider says of a key.  It is queried once for each key and evaluation. -/
def membership? (provider : Provider) (contextKey : String) : Eval (Option Membership) := do
  match ← Eval.read (·.memberships.find? contextKey) with
  | some known => return known
  | none =>
    Eval.note (.query contextKey)
    let (membership, status) := provider.query contextKey
    observe status
    Eval.update fun scope =>
      { scope with memberships := scope.memberships.insert contextKey membership }
    return membership

/-- Whether the store of big segments includes or excludes a key in the segment of a reference.
It says neither if it is not there; a segment without reference excludes every key. -/
def consult (contextKey : String) (reference : Option String) : Eval (Option Bool) := do
  Eval.note (.consultation contextKey reference)
  match reference, env.provider with
  | none, _ =>
    observe .notConfigured
    return some false
  | some _, none =>
    observe .notConfigured
    return none
  | some reference, some provider =>
    return (← membership? provider contextKey).bind (·.check reference)

end Environment

end FeatureFlags
