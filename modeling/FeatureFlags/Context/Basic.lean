import FeatureFlags.Attribute.Reference
import FeatureFlags.Attribute.Value
import FeatureFlags.Context.Kind
import FeatureFlags.Warning

/-!
# Contexts

A context is what a flag is evaluated for.  It describes one entity, such as a user, or several
entities of different kinds at once, such as a user and a device.  Each entity has a kind, a key
and attributes.

## What is here

* `Entity`: an entity, with `Entity.value?`, which follows a reference into its attributes.
* `Context`: one entity or several, with `Context.entity?`, `kinds`, `keys` and `value?`.
-/

set_option autoImplicit false

namespace FeatureFlags

/-! ## Values inside values -/

/-- The value reached through the members of the given names, one inside the other. -/
def AttributeValue.descend? : List String → AttributeValue → Option AttributeValue
  | [], v => some v
  | name :: rest, v => (v.find? name).bind (descend? rest)

/-! ## Entities -/

/-- An entity of a kind.  The secondary key is no attribute; it only changes how the entity is put
into buckets. -/
structure Entity where
  kind : Kind
  key : String
  name : Option String
  anonymous : Bool
  secondary : Option String
  attributes : SortedMap AttributeValue

namespace Entity

/-- The attribute of a name, built in or custom. -/
def attribute? (e : Entity) (name : String) : Option AttributeValue :=
  match name with
  | "kind" => some (.string e.kind.name)
  | "key" => some (.string e.key)
  | "name" => e.name.map .string
  | "anonymous" => some (.bool e.anonymous)
  | _ => e.attributes.find? name

/-- The value that a reference leads to.  An invalid reference leads nowhere. -/
def value? (e : Entity) (r : Reference) : Option AttributeValue :=
  match r.components with
  | [] => none
  | name :: rest => (e.attribute? name).bind (AttributeValue.descend? rest)

/-- Whether two entities are equal, with numbers compared numerically. -/
def equal (d e : Entity) : Bool :=
  d.kind == e.kind && d.key == e.key && d.name == e.name && d.anonymous == e.anonymous &&
    d.secondary == e.secondary &&
    AttributeValue.equalMembers d.attributes.entries e.attributes.entries

end Entity

/-! ## Contexts -/

/-- One entity, or several of different kinds in the order of their kinds. -/
inductive Context where
  | single (e : Entity)
  | multi (members : List Entity)

namespace Context

/-- The name that stands for the kind of a context with several entities. -/
def multiKindName : String := "multi"

/-- The entities of a context. -/
def entities : Context → List Entity
  | single e => [e]
  | multi members => members

/-- Whether a context has several entities. -/
def isMulti : Context → Bool
  | single _ => false
  | multi _ => true

/-- The name of the kind of a context. -/
def kindName : Context → String
  | single e => e.kind.name
  | multi _ => multiKindName

/-- The key of a context, empty for several entities. -/
def key : Context → String
  | single e => e.key
  | multi _ => ""

/-- The name attribute of a context, missing for several entities. -/
def name : Context → Option String
  | single e => e.name
  | multi _ => none

/-- Whether a context is that of an anonymous entity. -/
def anonymous : Context → Bool
  | single e => e.anonymous
  | multi _ => false

/-- The kinds of the entities. -/
def kinds (c : Context) : List Kind := c.entities.map Entity.kind

/-- The entity of a kind. -/
def entity? (c : Context) (kind : Kind) : Option Entity :=
  c.entities.find? fun e => e.kind == kind

/-- The key of the entity of each kind. -/
def keys (c : Context) : SortedMap String :=
  .ofList (c.entities.map fun e => (e.kind.name, e.key))

/-- The value that a reference leads to.  Of several entities only the common kind can be read. -/
def value? (c : Context) (r : Reference) : Option AttributeValue :=
  match c with
  | single e => e.value? r
  | multi _ => if r.isKind then some (.string multiKindName) else none

/-- What there is to remark about reading a reference. -/
def readingWarning? (c : Context) (r : Reference) : Option Warning :=
  if c.isMulti && r.isValid && !r.isKind then some .onlyKindReadable else none

/-- Whether two contexts are equal, with numbers compared numerically. -/
def equal : Context → Context → Bool
  | single d, single e => d.equal e
  | multi ds, multi es =>
    ds.length == es.length && (ds.zip es).all fun pair => pair.1.equal pair.2
  | _, _ => false

end Context

end FeatureFlags
