import FeatureFlags.Pattern.Unicode.Age
import FeatureFlags.Pattern.Unicode.Property
import FeatureFlags.Pattern.Unicode.Script
import FeatureFlags.Pattern.Unicode.Segmentation

/-!
# Named classes of characters

The classes that patterns refer to by name: the shorthands for digits, blanks and word characters,
the bracketed ASCII classes, and the properties of code points.

## What is here

* `Shorthand.set`: the set of a shorthand, over all code points or over ASCII only.
* `asciiClass?`: the ASCII class of a name.
* `propertyNamed?`, `propertyValued?`: the set of a property, by name or by name and value.
-/

set_option autoImplicit false

namespace FeatureFlags.Pattern

open Unicode

/-! ## ASCII classes -/

/-- The code point of a character. -/
def code (c : Char) : Nat := c.toNat

/-- The set of ranges between characters. -/
def charRanges (ranges : List (Char × Char)) : CharSet :=
  .ofRanges (ranges.map fun r => (code r.1, code r.2))

/-- The ASCII class of a name. -/
def asciiClass? (name : String) : Option CharSet :=
  match name with
  | "alnum" => some (charRanges [('0', '9'), ('A', 'Z'), ('a', 'z')])
  | "alpha" => some (charRanges [('A', 'Z'), ('a', 'z')])
  | "ascii" => some (.range 0 0x7F)
  | "blank" => some (charRanges [('\t', '\t'), (' ', ' ')])
  | "cntrl" => some (.ofRanges [(0, 0x1F), (0x7F, 0x7F)])
  | "digit" => some (charRanges [('0', '9')])
  | "graph" => some (charRanges [('!', '~')])
  | "lower" => some (charRanges [('a', 'z')])
  | "print" => some (charRanges [(' ', '~')])
  | "punct" => some (charRanges [('!', '/'), (':', '@'), ('[', '\x60'), ('\x7b', '~')])
  | "space" => some (.ofRanges [(9, 13), (32, 32)])
  | "upper" => some (charRanges [('A', 'Z')])
  | "word" => some (charRanges [('0', '9'), ('A', 'Z'), ('_', '_'), ('a', 'z')])
  | "xdigit" => some (charRanges [('0', '9'), ('A', 'F'), ('a', 'f')])
  | _ => none

/-! ## Shorthands -/

/-- The shorthands for digits, blanks and word characters. -/
inductive Shorthand where
  | digit
  | space
  | word
  deriving DecidableEq

/-- The characters of words: letters, marks, decimal digits, connectors and joiners. -/
def wordSet : CharSet :=
  alphabetic.union (joinControl.union (category ["Mc", "Me", "Mn", "Nd", "Pc"]))

/-- The decimal digits of all scripts. -/
def digitSet : CharSet := category ["Nd"]

/-- The set of a shorthand. -/
def Shorthand.set : Shorthand → Bool → CharSet
  | digit, true => digitSet
  | space, true => whiteSpace
  | word, true => wordSet
  | digit, false => charRanges [('0', '9')]
  | space, false => .ofRanges [(9, 13), (32, 32)]
  | word, false => charRanges [('0', '9'), ('A', 'Z'), ('_', '_'), ('a', 'z')]

/-! ## Properties -/

/-- A name as it is looked up: without a leading `is`, without separators, in lower case, ASCII
characters only.  `isc` keeps its beginning, for `c` is another name. -/
def propertyKey (name : String) : String :=
  let key (cs : List Char) : List Char :=
    (cs.filter fun c => c.toNat < 0x80 && !(c == ' ' || c == '_' || c == '-')).map Char.toLower
  match name.toList with
  | a :: b :: rest =>
    if a.toLower = 'i' && b.toLower = 's' then
      if key rest = ['c'] then "isc" else String.ofList (key rest)
    else String.ofList (key name.toList)
  | cs => String.ofList (key cs)

/-- The value filed under one of several names. -/
def named? {α : Type} (table : List (List String × α)) (key : String) : Option α :=
  (table.find? fun entry => entry.1.contains key).map Prod.snd

/-- The set of a general category or class of categories. -/
def categoryNamed? (key : String) : Option CharSet :=
  match key with
  | "any" => some .all
  | "assigned" => some (category ["Cn"]).compl
  | "ascii" => some (.range 0 0x7F)
  | _ => (named? categoryNames key).map category

/-- Keys that name a general category although they also abbreviate a property. -/
def categoryFirst : List String := ["cf", "sc", "lc"]

/-- The set of a property, general category or script, tried in this order. -/
def propertyNamed? (name : String) : Option CharSet :=
  let key := propertyKey name
  let property := if categoryFirst.contains key then none else named? properties key
  property <|> categoryNamed? key <|> (named? scriptNames key).map script

/-- The set of the code points for which a property has a value. -/
def propertyValued? (name value : String) : Option CharSet :=
  let key := propertyKey value
  match propertyKey name with
  | "gc" | "generalcategory" => categoryNamed? key
  | "sc" | "script" => (named? scriptNames key).map script
  | "scx" | "scriptextensions" => (named? scriptNames key).map scriptExtension
  | "age" => ageNamed? key
  | "gcb" | "graphemeclusterbreak" => graphemeBreakNamed? key
  | "wb" | "wordbreak" => wordBreakNamed? key
  | "sb" | "sentencebreak" => sentenceBreakNamed? key
  | _ => none

end FeatureFlags.Pattern
