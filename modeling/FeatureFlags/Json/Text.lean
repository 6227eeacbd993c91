import FeatureFlags.Json.Basic
import FeatureFlags.Number.Shortest

/-!
# Compact JSON text

One line of JSON without blanks.  Quotation marks and backslashes are escaped, control characters
are escaped by a letter where JSON has one and by four hexadecimal digits otherwise, and every
other character is written as it is.

## What is here

* `Json.text`: the text of a value.
-/

set_option autoImplicit false

namespace FeatureFlags.Json

/-- A character inside a string. -/
def escapeChar (c : Char) : List Char :=
  if c = '"' then ['\\', '"']
  else if c = '\\' then ['\\', '\\']
  else if c = '\n' then ['\\', 'n']
  else if c = '\r' then ['\\', 'r']
  else if c = '\t' then ['\\', 't']
  else if c = '\x08' then ['\\', 'b']
  else if c = '\x0c' then ['\\', 'f']
  else if c.toNat < 0x20 then
    ['\\', 'u', '0', '0', Nat.digitChar (c.toNat / 16), Nat.digitChar (c.toNat % 16)]
  else [c]

/-- A string between quotation marks. -/
def quote (s : String) : String :=
  String.ofList ('"' :: s.toList.flatMap escapeChar ++ ['"'])

/-- The text of a number. -/
def Number.text : Number → String
  | .integer n => toString n
  | .float x => NumberStyle.json.write x

mutual

/-- The text of a value. -/
def text : Json → String
  | null => "null"
  | bool b => if b then "true" else "false"
  | number n => n.text
  | string s => quote s
  | array items => "[" ++ ",".intercalate (textItems items) ++ "]"
  | object members => "\x7b" ++ ",".intercalate (textMembers members) ++ "\x7d"

/-- The texts of the items of an array. -/
def textItems : List Json → List String
  | [] => []
  | x :: xs => text x :: textItems xs

/-- The texts of the members of an object. -/
def textMembers : List (String × Json) → List String
  | [] => []
  | (k, x) :: xs => (quote k ++ ":" ++ text x) :: textMembers xs

end

end FeatureFlags.Json
