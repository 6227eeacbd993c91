/-!
# Attribute references

A reference names an attribute of a context, or a value inside one.  Text that does not begin
with a slash is the name of an attribute.  Text that does is a path: components separated by
slashes, with `~0` for a tilde and `~1` for a slash inside a component.  Text that is neither is
kept as an invalid reference, which refers to nothing.

## What is here

* `Reference.path`: the components of a reference, or the reason why it has none.
* `Reference.ofPath`: the reference of a list of components, written by escaping each.
* `Reference.ofName`: the reference of an attribute name, whatever characters it has.
-/

set_option autoImplicit false

namespace FeatureFlags

/-- Why a text is no reference. -/
inductive ReferenceError where
  | empty
  | emptyComponent
  | badEscape
  deriving DecidableEq

/-- The text of a reference error. -/
def ReferenceError.message : ReferenceError → String
  | empty => "reference is empty"
  | emptyComponent => "reference has an empty path component"
  | badEscape => "reference has a '~' not followed by '0' or '1'"

/-- A reference, by its text. -/
structure Reference where
  text : String
  deriving DecidableEq

namespace Reference

/-! ## Components -/

/-- Escapes the tildes and slashes of a component. -/
def escape : List Char → List Char
  | [] => []
  | c :: rest =>
    if c = '~' then '~' :: '0' :: escape rest
    else if c = '/' then '~' :: '1' :: escape rest
    else c :: escape rest

/-- Reads the escapes of a component; a tilde must be followed by a zero or a one. -/
def unescape : List Char → Except ReferenceError (List Char)
  | [] => .ok []
  | '~' :: '0' :: rest => ('~' :: ·) <$> unescape rest
  | '~' :: '1' :: rest => ('/' :: ·) <$> unescape rest
  | c :: rest => if c = '~' then .error .badEscape else (c :: ·) <$> unescape rest

/-- The component that a part of a path stands for. -/
def readPart (part : List Char) : Except ReferenceError String :=
  if part.isEmpty then .error .emptyComponent else String.ofList <$> unescape part

/-- The components of a text. -/
def readPath : List Char → Except ReferenceError (List String)
  | [] => .error .empty
  | ['/'] => .error .empty
  | '/' :: path => (path.splitOn '/').mapM readPart
  | name => .ok [String.ofList name]

/-! ## References -/

/-- The components of a reference, or why it is invalid. -/
def path (r : Reference) : Except ReferenceError (List String) := readPath r.text.toList

/-- Whether the reference can refer to something. -/
def isValid (r : Reference) : Bool := r.path.isOk

/-- Why the reference is invalid, if it is. -/
def error? (r : Reference) : Option ReferenceError :=
  match r.path with
  | .ok _ => none
  | .error e => some e

/-- The components of a reference, none if it is invalid. -/
def components (r : Reference) : List String :=
  match r.path with
  | .ok components => components
  | .error _ => []

/-- The number of components. -/
def depth (r : Reference) : Nat := r.components.length

/-- Whether the reference is to the kind of a context. -/
def isKind (r : Reference) : Bool := r.components == ["kind"]

/-- The path of the given components, each escaped and preceded by a slash. -/
def ofPath (components : List String) : Reference :=
  ⟨String.ofList (components.flatMap fun c => '/' :: escape c.toList)⟩

/-- The reference of an attribute name.  A name that begins with a slash would read as a path, so
it is written as a path of one component. -/
def ofName (name : String) : Reference :=
  if name.toList.head? = some '/' then ofPath [name] else ⟨name⟩

/-- The reference of an attribute in flag data.  Data that gives a context kind beside the
attribute uses reference syntax; other data names the attribute literally. -/
def ofFlagData (name : String) (hasContextKind : Bool) : Reference :=
  if hasContextKind then ⟨name⟩ else ofName name

end Reference

end FeatureFlags
