import FeatureFlags.Context.Basic

/-!
# Building contexts

A builder collects what is known of an entity and checks it at the end.  Built-in attributes take
values of one type only; a value of another type is refused and changes nothing.

## What is here

* `ContextBuilder.set?`: sets an attribute unless the value is refused.
* `withKind`, `withKey`, `withName`, `withAnonymous`: set a built-in attribute.
* `ContextBuilder.build`: the context, or why there is none.
* `Context.combine`: one context out of several.
-/

set_option autoImplicit false

namespace FeatureFlags

/-- Why a context cannot be built. -/
inductive BuildError where
  | kind (e : KindError)
  | emptyKey
  | noMembers
  | repeatedKind
  deriving DecidableEq

/-- The text of a build error. -/
def BuildError.message : BuildError → String
  | kind e => e.message
  | emptyKey => "context key must not be empty"
  | noMembers => "a multi-kind context needs at least one member"
  | repeatedKind => "a multi-kind context may hold each kind only once"

/-- What is known so far of an entity.  The kind is only checked at the end. -/
structure ContextBuilder where
  kind : String
  key : String
  name : Option String
  anonymous : Bool
  secondary : Option String
  attributes : SortedMap AttributeValue
  allowsEmptyKey : Bool

namespace ContextBuilder

/-- The builder of a user with the given key. -/
def ofKey (key : String) : ContextBuilder := ⟨Kind.user.name, key, none, false, none, .empty, false⟩

/-- Whether a name is that of a built-in attribute, or of the part of a context's JSON that holds
no attributes. -/
def isReserved (name : String) : Bool :=
  name == "kind" || name == "key" || name == "name" || name == "anonymous" || name == "_meta"

/-- The builder with an attribute set, unless the value is refused.  Null removes an attribute. -/
def set? (b : ContextBuilder) (name : String) (value : AttributeValue) : Option ContextBuilder :=
  match name, value with
  | "", _ => none
  | "kind", .string kind => some { b with kind }
  | "key", .string key => some { b with key }
  | "name", .string name => some { b with name := some name }
  | "name", .null => some { b with name := none }
  | "anonymous", .bool anonymous => some { b with anonymous }
  | name, value =>
    if isReserved name then none
    else
      match value with
      | .null => some { b with attributes := b.attributes.erase name }
      | value => some { b with attributes := b.attributes.insert name value }

/-- The builder with an attribute set, or as it was if the value is refused. -/
def set (b : ContextBuilder) (name : String) (value : AttributeValue) : ContextBuilder :=
  (b.set? name value).getD b

/-- The builder with the kind set.  It is only checked at the end. -/
def withKind (b : ContextBuilder) (kind : String) : ContextBuilder := { b with kind }

/-- The builder with the key set. -/
def withKey (b : ContextBuilder) (key : String) : ContextBuilder := { b with key }

/-- The builder with the name set. -/
def withName (b : ContextBuilder) (name : String) : ContextBuilder := { b with name := some name }

/-- The builder of an anonymous entity, or of one that is not. -/
def withAnonymous (b : ContextBuilder) (anonymous : Bool) : ContextBuilder := { b with anonymous }

/-- The builder with an attribute set to a truth value. -/
def setBool (b : ContextBuilder) (name : String) (value : Bool) : ContextBuilder :=
  b.set name (.bool value)

/-- The builder with an attribute set to a number. -/
def setNumber (b : ContextBuilder) (name : String) (value : Double) : ContextBuilder :=
  b.set name (.number value)

/-- The builder with an attribute set to a text. -/
def setString (b : ContextBuilder) (name value : String) : ContextBuilder :=
  b.set name (.string value)

/-- What there is to remark about setting an attribute. -/
def settingWarning? (name : String) : Option Warning :=
  if name = "" then some .emptyAttributeName else none

/-- The entity of a builder. -/
def entity (b : ContextBuilder) : Except BuildError Entity := do
  match Kind.ofString b.kind with
  | .error e => throw (.kind e)
  | .ok kind =>
    if b.key = "" && !b.allowsEmptyKey then throw .emptyKey
    return ⟨kind, b.key, b.name, b.anonymous, b.secondary, b.attributes⟩

/-- The context of a builder. -/
def build (b : ContextBuilder) : Except BuildError Context := .single <$> b.entity

end ContextBuilder

namespace Context

/-- The context of all entities of the given contexts.  One entity alone is a context of its
own. -/
def combine (contexts : List Context) : Except BuildError Context :=
  match contexts.flatMap entities with
  | [] => .error .noMembers
  | [e] => .ok (.single e)
  | es =>
    if (es.map Entity.kind).Nodup then
      .ok (.multi (es.mergeSort fun d e => decide (d.kind.name ≤ e.kind.name)))
    else .error .repeatedKind

end Context

end FeatureFlags
