import FeatureFlags.Pattern.Expression
import Std.Data.HashMap

/-!
# The room that a search takes

To search for an expression takes an automaton that reads the bytes of a text, and one more that
reads them backward.  An expression is refused if one of the two takes too much room.  Nothing is
built here: the states are counted in the order in which they come into being, together with the
room of the links between them, until the count is complete or the room is used up.

Most states lead on to one other state, and the room of that link is part of the state.  A state
that chooses between ways on needs further room for each of them.  So for each part of an
expression it is kept in mind whether its last state is one that chooses.

The bytes of a set of characters share states.  The states to share are looked up in a table with a
fixed number of slots, in which a state takes the place of the one before it.  Which states are
shared depends therefore on their numbers, and the order of the count matters.

## What is here

* `Extent` and `Count`: how far a count has come.
* `TextTree`: the states of a choice between texts.
* `Expression.count`: the states of an expression, in either direction.
* `Expression.fits`: whether an expression takes no more room than there is.
-/

set_option autoImplicit false

namespace FeatureFlags.Pattern

/-! ## Counting -/

/-- How many states an automaton has so far, and the room of those links that take any. -/
structure Extent where
  states : Nat := 0
  links : Nat := 0

/-- The room of a state. -/
def stateRoom : Nat := 32

/-- The room of one way on in a state that chooses. -/
def wayRoom : Nat := 4

/-- The room of a link under a range of bytes, in a state with several of them. -/
def rangeRoom : Nat := 8

/-- The room that there is. -/
def maxRoom : Nat := 10 * Nat.pow 2 20

/-- The room of an automaton. -/
def Extent.room (e : Extent) : Nat := stateRoom * e.states + e.links

/-- A count, which ends without a result where the room is used up. -/
abbrev Count := StateT Extent Option

/-- Adds states, and links with the given room. -/
def add (states links : Nat) : Count Unit := fun e =>
  let sum : Extent := ⟨e.states + states, e.links + links⟩
  if maxRoom < sum.room then none else some ((), sum)

/-- Leads on from a state, which takes room if the state is one that chooses. -/
def leadOn (chooses : Bool) : Count Unit := if chooses then add 0 wayRoom else pure ()

/-! ## Repetition -/

/-- A number of further copies of a part, after a copy that ends as given. -/
def further (part : Count Bool) : Nat → Bool → Count Bool
  | 0, last => return last
  | n + 1, last => do
    let next ← part
    leadOn last
    further part n next

/-- A number of copies of a part. -/
def copies (part : Count Bool) : Nat → Count Bool
  | 0 => do
    add 1 0
    return false
  | n + 1 => do further part n (← part)

/-- A number of further copies of a part, each of which may be left out together with all that
follow it. -/
def furtherOptional (part : Count Bool) : Nat → Bool → Count Bool
  | 0, last => do
    leadOn last
    return false
  | n + 1, last => do
    add 1 0
    let next ← part
    add 0 (2 * wayRoom)
    leadOn last
    furtherOptional part n next

/-- A repetition of a part.  If the part can match the empty text, repeating it without bound takes
a state to repeat it and another one to leave it out. -/
def repetition (part : Count Bool) (neverEmpty : Bool) (least : Nat) (most : Option Nat) :
    Count Bool :=
  match least, most with
  | 0, some 1 => do
    add 1 0
    let last ← part
    add 1 (2 * wayRoom)
    leadOn last
    return false
  | 0, none =>
    if neverEmpty then do
      add 1 0
      let last ← part
      add 0 wayRoom
      leadOn last
      return true
    else do
      let last ← part
      add 3 (4 * wayRoom)
      leadOn last
      return false
  | least + 1, none => do
    let last ← copies part (least + 1)
    add 1 wayRoom
    leadOn last
    return true
  | least, some most => do
    let last ← copies part least
    if most = least then return last
    else
      add 1 0
      furtherOptional part (most - least) last

/-! ## Sets of characters -/

/-- The states to share, by slot: what identifies each and its number. -/
abbrev Shared := Std.HashMap Nat (List Nat × Nat)

/-- The hash of a list of numbers: each is mixed into the hash so far, which is then multiplied. -/
def hashOf (numbers : List Nat) : Nat :=
  (numbers.foldl (fun (h : UInt64) n => (h ^^^ n.toUInt64) * 1099511628211)
    14695981039346656037).toNat

/-- The number of the state that is identified by a list of numbers, a new one unless it is found in
its slot. -/
def sharedState (slots : Nat) (numbers : List Nat) (links : Nat) : StateT Shared Count Nat := do
  let slot := hashOf numbers % slots
  match (← get)[slot]?.filter (·.1 == numbers) with
  | some known => return known.2
  | none =>
    let state := (← getThe Extent).states
    add 1 links
    modify (·.insert slot (numbers, state))
    return state

/-- How many slots there are for states of the forward automaton. -/
def forwardSlots : Nat := 10000

/-- How many slots there are for states of the backward automaton. -/
def backwardSlots : Nat := 1000

/-- A state of the forward automaton, given the ranges of bytes with their next states. -/
def forwardState (links : List Nat) : StateT Shared Count Nat :=
  sharedState forwardSlots links (rangeRoom * (links.length / 3))

/-- The ranges of bytes of a tree and their next states, each range as three numbers.  States come
into being after those that they lead to, and for the earlier ranges first. -/
def forwardLinks (stop : Nat) : ByteTree → StateT Shared Count (List Nat)
  | .leaf => return []
  | .branch range following earlier => do
    let before ← forwardLinks stop earlier
    let next ← if following.isLeaf then pure stop
      else do forwardState (← forwardLinks stop following)
    return before ++ [range.first, range.last, next]

/-- The first state of a sequence of ranges of bytes read backward, given the state after it. -/
def backwardState (stop : Nat) : List ByteRange → StateT Shared Count Nat
  | [] => return stop
  | range :: rest => do
    backwardState (← sharedState backwardSlots [stop, range.first, range.last] 0) rest

/-- The states of a set of characters in the forward automaton. -/
def countForward (tree : ByteTree) : Count Unit := do
  let stop := (← get).states
  add 1 0
  let start : StateT Shared Count Nat := do forwardState (← forwardLinks stop tree)
  let _ ← start.run ∅

/-- The states of a set of characters in the backward automaton, with one that chooses between the
sequences. -/
def countBackward (sequences : List (List ByteRange)) : Count Unit := do
  let stop := (← get).states + 1
  add 2 0
  let starts : StateT Shared Count (List Nat) := sequences.mapM (backwardState stop)
  let (ways, _) ← starts.run ∅
  add 0 (wayRoom * ways.length)

/-! ## Choices between texts -/

/-- Texts that share their beginnings, byte by byte.  A node is a list of the bytes that may follow,
the latest first, with marks where a text ends.  A byte after a mark and one before it are not
shared, so that texts keep their order. -/
inductive TextTree where
  | leaf
  | mark (earlier : TextTree)
  | byte (value : Nat) (following earlier : TextTree)

namespace TextTree

/-- Whether no byte follows. -/
def isLeaf : TextTree → Bool
  | leaf | mark leaf => true
  | _ => false

/-- Changes what follows a byte, which is looked for up to the latest mark. -/
def change (value : Nat) (f : TextTree → TextTree) : TextTree → TextTree
  | byte other following earlier =>
    if other = value then byte other (f following) earlier
    else byte other following (change value f earlier)
  | tree => byte value (f leaf) tree

/-- Adds a text. -/
def insert : List Nat → TextTree → TextTree
  | [], mark leaf => mark leaf
  | [], tree => mark tree
  | value :: rest, tree => tree.change value (insert rest)

/-- The states for a number of bytes between two marks, and the room of their links and of the way
to them. -/
def group : Nat → Extent
  | 0 => {}
  | 1 => ⟨1, wayRoom⟩
  | n + 2 => ⟨1, rangeRoom * (n + 2) + wayRoom⟩

/-- The states of a node and of all that follows it, after a number of bytes since the latest mark.
Each node chooses between its groups and the ends of texts. -/
def extent (count : Nat) : TextTree → Extent
  | leaf => ⟨(group count).states + 1, (group count).links⟩
  | mark earlier =>
    let rest := earlier.extent 0
    ⟨(group count).states + rest.states, (group count).links + wayRoom + rest.links⟩
  | byte _ following earlier =>
    let rest := earlier.extent (count + 1)
    if following.isLeaf then rest
    else
      let next := following.extent 0
      ⟨next.states + rest.states, next.links + rest.links⟩

end TextTree

/-- The states of a choice between texts. -/
def countTexts (texts : List (List Nat)) : Count Unit := do
  let extent := (texts.foldl (fun tree text => tree.insert text) TextTree.leaf).extent 0
  add (extent.states + 1) extent.links

/-! ## Atoms -/

/-- The direction in which an automaton reads. -/
inductive Direction where
  | forward
  | backward
  deriving DecidableEq

/-- An atom as an automaton reads it: the bytes of a text in the order in which they are read, the
number of ranges of an ASCII set, the sequences of another set, or a test of a place. -/
inductive Encoded where
  | text (bytes : List Nat)
  | ascii (ranges : Nat)
  | forward (tree : ByteTree)
  | backward (sequences : List (List ByteRange))
  | look

/-- An atom as it is read in a direction. -/
def Atom.encode (direction : Direction) : Atom → Encoded
  | text chars =>
    let bytes := chars.flatMap fun c => utf8 c.toNat
    match direction with
    | .forward => .text bytes
    | .backward => .text bytes.reverse
  | set s =>
    if s.isAscii then .ascii s.ranges.length
    else
      match direction with
      | .forward => .forward (.ofSequences s.sequences)
      | .backward => .backward s.sequences
  | look _ => .look

/-- Whether a byte at least is read in any case.  There is no answer for a set without members. -/
def Encoded.reads : Encoded → Option Bool
  | text bytes => some !bytes.isEmpty
  | ascii ranges => if ranges = 0 then none else some true
  | forward _ | backward _ => some true
  | look => some false

/-- The states of an atom.  An ASCII set takes a single one, and the one after it. -/
def Encoded.count : Encoded → Count Unit
  | text bytes => add bytes.length 0
  | ascii ranges => add 2 (rangeRoom * ranges)
  | forward tree => countForward tree
  | backward sequences => countBackward sequences
  | look => add 1 0

/-! ## Expressions -/

namespace Expression

mutual

/-- Whether a byte at least is read in any case.  There is no answer where some part cannot match
at all. -/
def reads : Expression Encoded → Option Bool
  | .empty => some false
  | .atom a => a.reads
  | .capture body => body.reads
  | .repeated body least _ _ => body.reads.map (least != 0 && ·)
  | .sequence items => (eachReads items).map fun each => each.any id
  | .alternatives branches => (eachReads branches).map fun each => each.all id

/-- The answers for expressions, if there is one for each. -/
def eachReads : List (Expression Encoded) → Option (List Bool)
  | [] => some []
  | e :: rest => do return (← e.reads) :: (← eachReads rest)

end

/-- The bytes of the text that an expression is. -/
def text? : Expression Encoded → Option (List Nat)
  | .atom (.text bytes) => some bytes
  | _ => none

mutual

/-- The states of an expression, and whether the last one chooses.  Only the forward automaton
marks where groups begin and end. -/
def count (direction : Direction) : Expression Encoded → Count Bool
  | .empty => do
    add 1 0
    return false
  | .atom a => do
    a.count
    return false
  | .capture body =>
    match direction with
    | .forward => do
      add 1 0
      let last ← body.count direction
      add 1 0
      leadOn last
      return false
    | .backward => body.count direction
  | .repeated body least most _ =>
    Pattern.repetition (body.count direction) (body.reads == some true) least most
  | .sequence items => countInTurn direction false items
  | .alternatives branches =>
    match branches.mapM text? with
    | some texts => do
      countTexts texts
      return false
    | none => do
      countBranches direction 0 branches
      return false

/-- The states of expressions one after the other, after one that ends as given. -/
def countInTurn (direction : Direction) (last : Bool) : List (Expression Encoded) → Count Bool
  | [] => return last
  | e :: rest => do
    let next ← e.count direction
    leadOn last
    countInTurn direction next rest

/-- The states of the branches of a choice, after the given number of them.  The states in which
the branches part and meet again come after the second one. -/
def countBranches (direction : Direction) (before : Nat) : List (Expression Encoded) → Count Unit
  | [] => return ()
  | e :: rest => do
    let last ← e.count direction
    if before = 1 then add 2 0
    add 0 wayRoom
    leadOn last
    countBranches direction (before + 1) rest

end

/-- The states of an automaton that searches for an expression.  Unless every match begins where
the automaton does, it also passes over any bytes before a match. -/
def countSearch (direction : Direction) (e : Expression Atom) : Count Unit := do
  let (e, start) := match direction with
    | .forward => (Expression.capture e, Look.textStart)
    | .backward => (e.reverse, Look.textEnd)
  if e.startsWith start then add 1 0 else add 3 (rangeRoom + 2 * wayRoom)
  let last ← (e.map (Atom.encode direction)).count direction
  add 1 0
  leadOn last

/-- How many texts a choice needs to be searched for without an automaton. -/
def manyTexts : Nat := 3000

/-- Whether an expression is a choice between a great many texts. -/
def isTextList : Expression Atom → Bool
  | .alternatives branches => manyTexts ≤ branches.length && branches.all fun e =>
    match e with
    | .atom (.text _) => true
    | _ => false
  | _ => false

/-- Whether the automata for an expression take no more room than there is. -/
def fits (e : Expression Atom) : Bool :=
  e.isTextList ||
    (((e.countSearch .forward).run {}).isSome && ((e.countSearch .backward).run {}).isSome)

end Expression

end FeatureFlags.Pattern
