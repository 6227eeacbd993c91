import FeatureFlags.Pattern.Automaton
import FeatureFlags.Pattern.Interpretation
import FeatureFlags.Pattern.Reader

/-!
# Matching

A text with `n` characters has `n + 1` places, and a set of places is a number whose bit `i` says
whether place `i` belongs to it.  An expression takes the set of places where a match may begin to
the set of places where one may end.  Every operator works on all places at once, so no choice is
ever taken back.

## What is here

* `Step` and `Atom.step`: what an atom does in a given text.
* `Expression.ends`: the places where matches end.
* `Pattern.ofString?`: the pattern of a text, if it is one.
* `Pattern.occursIn`: whether a pattern matches some part of a text.
-/

set_option autoImplicit false

namespace FeatureFlags

namespace Pattern

/-! ## Steps -/

/-- What an atom does in a text.  It goes on over characters, for each of which the places before
the characters that pass are given, or it keeps the given places. -/
inductive Step where
  | goOn (passing : List Nat)
  | keep (places : Nat)

/-- The places after a step. -/
def Step.apply : Step → Nat → Nat
  | goOn passing, places => passing.foldl (fun places set => (places &&& set) <<< 1) places
  | keep kept, places => places &&& kept

/-- The number whose bits are given, lowest first. -/
def ofBits : List Bool → Nat
  | [] => 0
  | b :: rest => 2 * ofBits rest + b.toNat

/-- The places before characters that pass a test. -/
def placesBefore (text : List Char) (test : Char → Bool) : Nat := ofBits (text.map test)

/-- Whether a test holds at each of the places of a text, given the character before the text. -/
def looks (test : Look) : Option Char → List Char → List Bool
  | before, [] => [test.holds before none]
  | before, c :: rest => test.holds before (some c) :: looks test (some c) rest

/-- The places where a test holds. -/
def placesWhere (text : List Char) (test : Look) : Nat := ofBits (looks test none text)

/-- What an atom does in a text. -/
def Atom.step (text : List Char) : Atom → Step
  | .text chars => .goOn (chars.map fun c => placesBefore text (· == c))
  | set s => .goOn [placesBefore text s.contains]
  | look test => .keep (placesWhere text test)

/-! ## Places where matches end -/

/-- Applies a step a number of times, but stops where the step changes nothing. -/
def iterate (step : Nat → Nat) : Nat → Nat → Nat
  | 0, places => places
  | count + 1, places =>
    let following := step places
    if following = places then places else iterate step count following

/-- Adds what a step gives, a number of times, but stops where nothing is added. -/
def grow (step : Nat → Nat) : Nat → Nat → Nat
  | 0, places => places
  | count + 1, places =>
    let following := places ||| step places
    if following = places then places else grow step count following

namespace Expression

mutual

/-- The places where a match of the expression ends that begins at one of the given places, in a
text with the given number of places. -/
def ends (count : Nat) : Expression Step → Nat → Nat
  | .empty, places => places
  | .atom step, places => step.apply places
  | .capture body, places => body.ends count places
  | .repeated body least most _, places =>
    let further := match most with
      | none => count
      | some most => most - least
    grow (body.ends count) further (iterate (body.ends count) least places)
  | .sequence items, places => endsInTurn count items places
  | .alternatives branches, places => endsOfAny count branches places

/-- The places where a match of the expressions, one after the other, ends. -/
def endsInTurn (count : Nat) : List (Expression Step) → Nat → Nat
  | [], places => places
  | e :: rest, places => endsInTurn count rest (e.ends count places)

/-- The places where a match of one of the expressions ends. -/
def endsOfAny (count : Nat) : List (Expression Step) → Nat → Nat
  | [], _ => 0
  | e :: rest, places => e.ends count places ||| endsOfAny count rest places

end

end Expression

end Pattern

/-! ## Patterns -/

/-- A pattern: a regular expression over texts, sets of characters and tests of places. -/
structure Pattern where
  expression : Pattern.Expression Pattern.Atom

namespace Pattern

/-- The pattern that a text stands for, unless it would take too much room. -/
def ofString? (text : String) : Option Pattern := do
  let e ← (← Tree.ofString? text).expression?
  if e.fits then some ⟨e⟩ else none

/-- Whether the pattern matches some part of the text. -/
def occursIn (p : Pattern) (text : String) : Bool :=
  let chars := text.toList
  let count := chars.length + 1
  let e := p.expression.map (Atom.step chars)
  e.ends count (Nat.pow 2 count - 1) != 0

end Pattern

end FeatureFlags
