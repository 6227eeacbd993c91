import FeatureFlags.Decoding

/-!
# Contexts as JSON

A context has three forms as JSON.  An object with a kind describes one entity; with the kind
`multi` its other members are the kinds and bodies of several; without any kind it describes a
user in the older form, in which custom attributes stand apart.

## What is here

* `Context.ofJson`: reads any of the forms.
* `Context.ofJsonWarnings`: what there is to remark about reading one.
* `Context.toJson`: writes the first or the second form.
-/

set_option autoImplicit false

namespace FeatureFlags

/-! ## Bodies -/

/-- The members of a body that are not custom attributes. -/
def bodyFields : List String := ["key", "name", "anonymous", "_meta"]

/-- Reads the secondary key. -/
def secondaryOfMeta : Decoder (Option String) := fun j => do
  Decode.optionalField (← Decode.fields ["secondary"] 0 j) "secondary" Decode.string

/-- The builder with all of the given attributes set. -/
def ContextBuilder.setAll (b : ContextBuilder) :
    List (String × Json) → Except DecodeError ContextBuilder
  | [] => .ok b
  | (name, value) :: rest =>
    match b.set? name (.ofJson value) with
    | some b => b.setAll rest
    | none => .error (.rejectedAttribute name)

/-- Reads the body of an entity whose kind is given.  No attribute may be called `kind`. -/
def Entity.ofBody (kind : Kind) : Decoder Entity := fun j => do
  let ms ← Decode.members j
  let info ← Decode.optionalField ms "_meta" secondaryOfMeta
  let anonymous ← Decode.fieldOr ms "anonymous" false Decode.bool
  let key ← Decode.field ms "key" Decode.string
  let name ← Decode.optionalField ms "name" Decode.string
  let key ← Decode.require "key" key
  if (SortedMap.lookup "kind" ms).isSome then throw (.redefinesKind kind)
  let b := ContextBuilder.ofKey key
  let b := { b with kind := kind.name, name, anonymous, secondary := info.join }
  let b ← b.setAll (ms.filter fun m => !bodyFields.contains m.1)
  match b.entity with
  | .ok e => return e
  | .error e => throw (.build e)

/-! ## The older form -/

/-- The texts of the older form that become custom attributes. -/
def userTextFields : List String := ["avatar", "country", "email", "firstName", "ip", "lastName"]

/-- The names that custom attributes of the older form cannot take. -/
def userReservedNames : List String := "kind" :: "key" :: "name" :: "anonymous" :: userTextFields

/-- Reads a user in the older form, whose key may be empty. -/
def Entity.ofUser : Decoder Entity := fun j => do
  let ms ← Decode.members j
  let anonymous ← Decode.optionalField ms "anonymous" Decode.bool
  let custom ← Decode.optionalField ms "custom" Decode.members
  let key ← Decode.field ms "key" Decode.string
  let name ← Decode.optionalField ms "name" Decode.string
  let secondary ← Decode.optionalField ms "secondary" Decode.string
  let texts ← userTextFields.mapM fun field => do
    return (field, ← Decode.optionalField ms field Decode.string)
  let key ← Decode.require "key" key
  let b := ContextBuilder.ofKey key
  let b := { b with name, secondary, anonymous := anonymous.getD false, allowsEmptyKey := true }
  let b := texts.foldl (fun b text => text.2.elim b fun s => b.set text.1 (.string s)) b
  let custom := (custom.getD []).filter fun m => !userReservedNames.contains m.1
  let b := custom.foldl (fun b m => b.set m.1 (.ofJson m.2)) b
  match b.entity with
  | .ok e => return e
  | .error e => throw (.build e)

/-! ## Contexts -/

namespace Context

/-- Reads the members of a context, each filed under its kind. -/
def membersOfJson : List (String × Json) → Except DecodeError (List Context)
  | [] => .ok []
  | (name, body) :: rest => do
    match Kind.ofString name with
    | .error e => throw (.kind e)
    | .ok kind =>
      let e ← Entity.ofBody kind body
      return .single e :: (← membersOfJson rest)

/-- Reads a context. -/
def ofJson : Decoder Context := fun j => do
  let ms ← Decode.members j
  let others := ms.filter fun m => m.1 ≠ "kind"
  match SortedMap.lookup "kind" ms with
  | none => return .single (← Entity.ofUser j)
  | some (.string "multi") =>
    match combine (← membersOfJson others) with
    | .ok c => return c
    | .error e => throw (.build e)
  | some kind => return .single (← Entity.ofBody (← Decode.kind kind) (.object others))

/-- What there is to remark about reading a context: custom attributes of the older form may have
an empty name, and are ignored. -/
def ofJsonWarnings (j : Json) : List Warning :=
  match j.find? "kind", (j.find? "custom").bind (·.find? "") with
  | none, some _ => [.emptyAttributeName]
  | _, _ => []

end Context

/-! ## Writing -/

/-- The members of the body of an entity.  What has its usual value is left out. -/
def Entity.body (e : Entity) : List (String × Json) :=
  [("key", .string e.key)] ++
    (e.name.map fun name => ("name", Json.string name)).toList ++
    (if e.anonymous then [("anonymous", .bool true)] else []) ++
    (e.secondary.map fun s => ("_meta", Json.object [("secondary", .string s)])).toList ++
    e.attributes.entries.map fun a => (a.1, a.2.toJson)

/-- A context as JSON. -/
def Context.toJson : Context → Json
  | .single e => .ofMembers (("kind", .string e.kind.name) :: e.body)
  | .multi members =>
    .ofMembers (("kind", .string multiKindName) ::
      members.map fun e => (e.kind.name, Json.ofMembers e.body))

end FeatureFlags
