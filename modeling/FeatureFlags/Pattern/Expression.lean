import FeatureFlags.Pattern.Look
import FeatureFlags.Pattern.Utf8

/-!
# Regular expressions

The meaning of a pattern, with no flags and no names left: texts, sets of characters and tests of
places, put together by sequence, choice and repetition.  Expressions are built in a simple form, in
which neighbouring texts are one text, a choice between characters is a set, and a beginning that
all branches of a choice share stands before the choice.

## What is here

* `Atom` and `Expression`: what expressions are.
* `Expression.ofSet`, `repetition`, `ofSequence`, `ofAlternatives`: building in simple form.
* `Expression.maxLength`: a bound for the length of what matches.
* `Expression.startsWith`, `reverse`: tests that a match begins with, and the way back.
-/

set_option autoImplicit false

namespace FeatureFlags.Pattern

/-- What expressions are made of: a text, one character of a set, or a test of a place. -/
inductive Atom where
  | text (chars : List Char)
  | set (members : CharSet)
  | look (test : Look)
  deriving DecidableEq

/-- A regular expression over atoms.  A group that captures is kept as such; whether a repetition
prefers many or few is kept too, though it never decides whether there is a match. -/
inductive Expression (α : Type) where
  | empty
  | atom (a : α)
  | capture (body : Expression α)
  | repeated (body : Expression α) (least : Nat) (most : Option Nat) (greedy : Bool)
  | sequence (items : List (Expression α))
  | alternatives (branches : List (Expression α))

namespace Expression

mutual

/-- The expression with its atoms replaced. -/
def map {α β : Type} (f : α → β) : Expression α → Expression β
  | .empty => .empty
  | .atom a => .atom (f a)
  | .capture body => .capture (body.map f)
  | .repeated body least most greedy => .repeated (body.map f) least most greedy
  | .sequence items => .sequence (mapAll f items)
  | .alternatives branches => .alternatives (mapAll f branches)

/-- The expressions with their atoms replaced. -/
def mapAll {α β : Type} (f : α → β) : List (Expression α) → List (Expression β)
  | [] => []
  | e :: rest => e.map f :: mapAll f rest

end

mutual

/-- The expression with the items of every sequence in reverse order. -/
def reverse {α : Type} : Expression α → Expression α
  | .empty => .empty
  | .atom a => .atom a
  | .capture body => .capture body.reverse
  | .repeated body least most greedy => .repeated body.reverse least most greedy
  | .sequence items => .sequence (reverseEach items).reverse
  | .alternatives branches => .alternatives (reverseEach branches)

/-- The expressions, each of them reversed. -/
def reverseEach {α : Type} : List (Expression α) → List (Expression α)
  | [] => []
  | e :: rest => e.reverse :: reverseEach rest

end

mutual

/-- Whether two expressions are the same one.  No two groups that capture are. -/
def same {α : Type} [DecidableEq α] : Expression α → Expression α → Bool
  | .empty, .empty => true
  | .atom a, .atom b => a = b
  | .repeated body least most greedy, .repeated body' least' most' greedy' =>
    body.same body' && least == least' && most == most' && greedy == greedy'
  | .sequence items, .sequence items' => sameAll items items'
  | .alternatives branches, .alternatives branches' => sameAll branches branches'
  | _, _ => false

/-- Whether two lists of expressions are the same. -/
def sameAll {α : Type} [DecidableEq α] : List (Expression α) → List (Expression α) → Bool
  | [], [] => true
  | e :: rest, e' :: rest' => e.same e' && sameAll rest rest'
  | _, _ => false

end

end Expression

/-! ## Length and beginning -/

/-- The length in bytes of the longest text that an atom matches, if it matches any. -/
def Atom.maxLength : Atom → Option Nat
  | text chars => some (chars.foldl (fun n c => n + utf8Length c.toNat) 0)
  | set members => members.ranges.getLast?.map fun r => utf8Length r.2
  | look _ => some 0

namespace Expression

mutual

/-- An upper bound for the length in bytes of what matches, if there is one and every part can
match. -/
def maxLength : Expression Atom → Option Nat
  | .empty => some 0
  | .atom a => a.maxLength
  | .capture body => body.maxLength
  | .repeated body _ most _ => do return (← most) * (← body.maxLength)
  | .sequence items => (maxLengths items).map fun lengths => lengths.foldl (· + ·) 0
  | .alternatives branches => (maxLengths branches).bind List.max?

/-- The upper bounds of expressions, if all have one. -/
def maxLengths : List (Expression Atom) → Option (List Nat)
  | [] => some []
  | e :: rest => do return (← e.maxLength) :: (← maxLengths rest)

end

mutual

/-- Whether every match begins with a test of a place.  In a sequence the test may stand behind
parts that match no character. -/
def startsWith (test : Look) : Expression Atom → Bool
  | .empty => false
  | .atom a => a = .look test
  | .capture body => body.startsWith test
  | .repeated body least _ _ => least != 0 && body.startsWith test
  | .sequence items => firstStartsWith test items
  | .alternatives branches => allStartWith test branches

/-- Whether a match of a sequence begins with a test of a place. -/
def firstStartsWith (test : Look) : List (Expression Atom) → Bool
  | [] => false
  | e :: rest => e.startsWith test || (e.maxLength == some 0 && firstStartsWith test rest)

/-- Whether the matches of all branches begin with a test of a place. -/
def allStartWith (test : Look) : List (Expression Atom) → Bool
  | [] => true
  | e :: rest => e.startsWith test && allStartWith test rest

end

/-! ## Building -/

/-- One character of a set.  A set of one character is a text. -/
def ofSet (s : CharSet) : Expression Atom :=
  match s.ranges with
  | [(lo, hi)] => .atom (if lo = hi then .text [Char.ofNat lo] else .set s)
  | _ => .atom (.set s)

/-- One character of any of the sets. -/
def ofSets (sets : List CharSet) : Expression Atom :=
  ofSet (.ofRanges (sets.flatMap CharSet.ranges))

/-- A repetition.  To match nothing once more adds nothing, so what matches no character is repeated
at most once. -/
def repetition (body : Expression Atom) (least : Nat) (most : Option Nat) (greedy : Bool) :
    Expression Atom :=
  let (least, most) :=
    if body.maxLength = some 0 then (min least 1, some (min (most.getD 1) 1)) else (least, most)
  match least, most with
  | 0, some 0 => .empty
  | 1, some 1 => body
  | least, most => .repeated body least most greedy

/-- The parts of an expression seen as a sequence. -/
def items {α : Type} : Expression α → List (Expression α)
  | .empty => []
  | .sequence es => es
  | e => [e]

/-- An item before others.  Two texts become one. -/
def consItem : Expression Atom → List (Expression Atom) → List (Expression Atom)
  | .atom (.text first), .atom (.text second) :: rest => .atom (.text (first ++ second)) :: rest
  | e, rest => e :: rest

/-- All of the expressions, one after the other. -/
def ofSequence (es : List (Expression Atom)) : Expression Atom :=
  match (es.flatMap items).foldr consItem [] with
  | [] => .empty
  | [e] => e
  | es => .sequence es

/-- The branches of an expression seen as a choice. -/
def branches {α : Type} : Expression α → List (Expression α)
  | .alternatives es => es
  | e => [e]

/-- The set of one character that an expression is. -/
def single? : Expression Atom → Option CharSet
  | .atom (.text [c]) => some (.single c.toNat)
  | _ => none

/-- The set that an expression is. -/
def set? : Expression Atom → Option CharSet
  | .atom (.set s) => some s
  | _ => none

/-- The items of a sequence. -/
def sequence? {α : Type} : Expression α → Option (List (Expression α))
  | .sequence es => some es
  | _ => none

/-- Any one of the expressions.  Characters alone or sets alone become a set. -/
def choice (es : List (Expression Atom)) : Expression Atom :=
  match es.flatMap branches with
  | [e] => e
  | es =>
    match es.mapM single? <|> es.mapM set? with
    | some sets => ofSets sets
    | none => .alternatives es

/-- The items that two sequences begin with. -/
def sharedItems {α : Type} [DecidableEq α] :
    List (Expression α) → List (Expression α) → List (Expression α)
  | e :: rest, e' :: rest' => if e.same e' then e :: sharedItems rest rest' else []
  | _, _ => []

/-- Any one of the expressions.  The items that all of them begin with are put before the
choice. -/
def ofAlternatives (es : List (Expression Atom)) : Expression Atom :=
  match choice es with
  | .alternatives es =>
    match es.mapM sequence? with
    | some (first :: others) =>
      let shared := others.foldl sharedItems first
      let rest (items : List (Expression Atom)) : Expression Atom :=
        ofSequence (items.drop shared.length)
      if shared.isEmpty then .alternatives es
      else ofSequence (shared ++ [choice ((first :: others).map rest)])
    | _ => .alternatives es
  | e => e

end Expression

end FeatureFlags.Pattern
