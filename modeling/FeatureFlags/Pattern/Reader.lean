import FeatureFlags.Pattern.Tree

/-!
# Reading a pattern

A reader works through the characters of a pattern and builds its form.  It keeps the characters
that are left, whether blanks and comments are skipped, and the names of groups met so far, for no
two groups may share one.  A text that is no pattern gives nothing.

Every step of the two loops, over the items of a pattern and over the members of a class, removes
a character, so the number of characters bounds the number of steps.

## What is here

* `Tree.ofString?`: the form of a pattern.
-/

set_option autoImplicit false

namespace FeatureFlags.Pattern

open Unicode

/-- What a reader keeps: characters left, whether blanks are skipped, and names of groups. -/
structure ReaderState where
  rest : List Char
  skipsBlanks : Bool
  names : List String

/-- A step of reading, which may fail. -/
abbrev Reader (α : Type) := StateT ReaderState Option α

namespace Reader

/-! ## Characters -/

/-- Whether a character counts as a blank. -/
def isBlank (c : Char) : Bool := whiteSpace.contains c

/-- The text after blanks and comments.  A comment runs from a number sign to the end of its
line. -/
def dropBlanks : Bool → List Char → List Char
  | _, [] => []
  | true, c :: rest => dropBlanks (c != '\n') rest
  | false, c :: rest =>
    if isBlank c then dropBlanks false rest
    else if c = '#' then dropBlanks true rest
    else c :: rest

/-- The characters left. -/
def rest : Reader (List Char) := do return (← get).rest

/-- Replaces the characters left. -/
def setRest (cs : List Char) : Reader Unit := modify fun s => { s with rest := cs }

/-- Skips blanks if they are to be skipped. -/
def skipBlanks : Reader Unit :=
  modify fun s => if s.skipsBlanks then { s with rest := dropBlanks false s.rest } else s

/-- The next character, which is removed. -/
def next : Reader Char := do
  match ← rest with
  | [] => failure
  | c :: cs =>
    setRest cs
    return c

/-- Whether the next character is `c`, which is removed if so. -/
def accept (c : Char) : Reader Bool := do
  match ← rest with
  | d :: cs =>
    if d = c then
      setRest cs
      return true
    else return false
  | [] => return false

/-- Whether the text goes on with `word`, which is removed if so. -/
def acceptWord (word : String) : Reader Bool := do
  let cs ← rest
  if word.toList.isPrefixOf cs then
    setRest (cs.drop word.length)
    return true
  else return false

/-- Fails unless the condition holds. -/
def require (condition : Bool) : Reader Unit := if condition then pure () else failure

/-- Removes the expected character. -/
def expect (c : Char) : Reader Unit := do require (← accept c)

/-- Fails at the end of the text. -/
def notAtEnd : Reader Unit := do require (!(← rest).isEmpty)

/-! ## Escapes -/

/-- The value of a hexadecimal digit. -/
def hexDigit? (c : Char) : Option Nat :=
  if c.isDigit then some (c.toNat - '0'.toNat)
  else if 'a' ≤ c && c ≤ 'f' then some (c.toNat - 'a'.toNat + 10)
  else if 'A' ≤ c && c ≤ 'F' then some (c.toNat - 'A'.toNat + 10)
  else none

/-- The character of hexadecimal digits. -/
def hexChar (digits : List Nat) : Reader Char := do
  let n := digits.foldl (fun n d => n * 16 + d) 0
  if n.isValidChar then return Char.ofNat n else failure

/-- Exactly `count` hexadecimal digits. -/
def hexDigits : Nat → Reader (List Nat)
  | 0 => return []
  | count + 1 => do
    skipBlanks
    match hexDigit? (← next) with
    | none => failure
    | some d => return d :: (← hexDigits count)

/-- The characters up to a closing brace, which is removed. -/
def untilBrace : Nat → Reader (List Char)
  | 0 => failure
  | steps + 1 => do
    skipBlanks
    let c ← next
    if c = '\x7d' then return [] else return c :: (← untilBrace steps)

/-- The characters up to a closing brace. -/
def braced : Reader (List Char) := do untilBrace ((← rest).length + 1)

/-- A character given by its number, after the letter that says how many digits it has. -/
def hexLiteral (digits : Nat) : Reader Literal := do
  skipBlanks
  notAtEnd
  if ← accept '\x7b' then
    let cs ← braced
    skipBlanks
    match cs.mapM hexDigit? with
    | some [] => failure
    | some ds => return ⟨← hexChar ds, false⟩
    | none => failure
  else
    let c ← hexChar (← hexDigits digits)
    skipBlanks
    return ⟨c, digits == 2⟩

/-- The set of a property after its letter: one letter, a name in braces, or a name and a value in
braces.  The second component is true for a value that the property shall not have. -/
def propertyQuery : Reader (CharSet × Bool) := do
  skipBlanks
  let answer (set : Option CharSet) (unequal : Bool) : Reader (CharSet × Bool) :=
    match set with
    | some s => return (s, unequal)
    | none => failure
  if ← accept '\x7b' then
    let name ← braced
    let before (mark : Char) : String := String.ofList (name.takeWhile (· != mark))
    let after (mark : Char) : String := String.ofList ((name.dropWhile (· != mark)).drop 1)
    match name.splitOn '!' with
    | first :: ('=' :: second) :: more =>
      let value := '!' :: []
      answer (propertyValued? (String.ofList first)
        (String.ofList (value.intercalate (second :: more)))) true
    | _ =>
      if name.contains ':' then answer (propertyValued? (before ':') (after ':')) false
      else if name.contains '=' then answer (propertyValued? (before '=') (after '=')) false
      else answer (propertyNamed? (String.ofList name)) false
  else
    let c ← next
    skipBlanks
    if c = '\\' then failure else answer (propertyNamed? (String.singleton c)) false

/-- The characters with a meaning in patterns; escaped they stand for themselves. -/
def isMeta (c : Char) : Bool := "\\.+*?()|[]\x7b\x7d^$#&-~".toList.contains c

/-- Whether an escaped character stands for itself. -/
def standsForItself (c : Char) : Bool :=
  isMeta c || (c.toNat < 0x80 && !c.isAlphanum && c != '<' && c != '>')

/-- The kind of word boundary named in braces, if what follows begins like such a name. -/
def namedBoundary : Reader Anchor := do
  let isNameChar (c : Char) : Bool := c.isAlpha || c == '-'
  match ← rest with
  | '\x7b' :: _ =>
    let start ← get
    let _ ← next
    skipBlanks
    match ← rest with
    | [] => failure
    | c :: _ =>
      if !isNameChar c then
        set start
        return .wordBoundary
      else
        match String.ofList (← braced) with
        | "start" => return .wordStart
        | "end" => return .wordEnd
        | "start-half" => return .wordStartHalf
        | "end-half" => return .wordEndHalf
        | _ => failure
  | _ => return .wordBoundary

/-- What an escape can stand for. -/
inductive Escape where
  | literal (l : Literal)
  | anchor (a : Anchor)
  | shorthand (s : Shorthand) (negated : Bool)
  | property (set : CharSet) (negated : Bool)

/-- An escape, after its backslash. -/
def escape : Reader Escape := do
  let c ← next
  match c with
  | 'x' => return .literal (← hexLiteral 2)
  | 'u' => return .literal (← hexLiteral 4)
  | 'U' => return .literal (← hexLiteral 8)
  | 'p' =>
    let (set, unequal) ← propertyQuery
    return .property set unequal
  | 'P' =>
    let (set, unequal) ← propertyQuery
    return .property set (!unequal)
  | 'd' => return .shorthand .digit false
  | 's' => return .shorthand .space false
  | 'w' => return .shorthand .word false
  | 'D' => return .shorthand .digit true
  | 'S' => return .shorthand .space true
  | 'W' => return .shorthand .word true
  | 'a' => return .literal ⟨'\x07', false⟩
  | 'f' => return .literal ⟨'\x0c', false⟩
  | 't' => return .literal ⟨'\t', false⟩
  | 'n' => return .literal ⟨'\n', false⟩
  | 'r' => return .literal ⟨'\r', false⟩
  | 'v' => return .literal ⟨'\x0b', false⟩
  | 'A' => return .anchor .textStart
  | 'z' => return .anchor .textEnd
  | 'b' => return .anchor (← namedBoundary)
  | 'B' => return .anchor .notWordBoundary
  | '<' => return .anchor .wordStart
  | '>' => return .anchor .wordEnd
  | _ => if standsForItself c then return .literal ⟨c, false⟩ else failure

/-! ## Classes -/

/-- The start of a class after its bracket: whether it is negated, and the hyphens or the bracket
that stand for themselves there. -/
def classStart : Reader (Bool × List ClassTree) := do
  let literal (c : Char) : ClassTree := .literal ⟨c, false⟩
  skipBlanks
  notAtEnd
  let negated ← accept '^'
  if negated then
    skipBlanks
    notAtEnd
  let rec hyphens (steps : Nat) : Reader (List ClassTree) := do
    match steps with
    | 0 => return []
    | steps + 1 =>
      if ← accept '-' then
        skipBlanks
        notAtEnd
        return literal '-' :: (← hyphens steps)
      else return []
  let items ← hyphens (← rest).length
  if items.isEmpty && (← accept ']') then
    skipBlanks
    notAtEnd
    return (negated, [literal ']'])
  else return (negated, items)

/-- An ASCII class such as `[:alpha:]`, after its first bracket.  If what follows is none, nothing
is removed. -/
def asciiClass : Reader (Option ClassTree) := do
  match ← rest with
  | ':' :: cs =>
    let (negated, cs) := match cs with
      | '^' :: cs => (true, cs)
      | cs => (false, cs)
    let (name, after) := cs.span (· != ':')
    match after, asciiClass? (String.ofList name) with
    | ':' :: ']' :: after, some set =>
      setRest after
      return some (.ascii set negated)
    | _, _ => return none
  | _ => return none

/-- One member of a class: an escape or a character. -/
def classMember : Reader Escape := do
  let c ← next
  if c = '\\' then escape else return .literal ⟨c, false⟩

/-- A member that stands alone.  An anchor cannot. -/
def alone : Escape → Reader ClassTree
  | .literal l => return .literal l
  | .shorthand s negated => return .shorthand s negated
  | .property set negated => return .property set negated
  | .anchor _ => failure

/-- The character that tells what a hyphen before `cs` is.  If blanks are skipped this is the first
one that is no blank, also inside of a comment; in a text of nothing but blanks it is the one next
to the hyphen. -/
def afterHyphen (skips : Bool) (cs : List Char) : Option Char :=
  if skips then
    let seen := match cs.dropWhile isBlank with
      | '#' :: comment => comment.dropWhile isBlank
      | seen => seen
    seen.head? <|> cs.head?
  else cs.head?

/-- A member, or a range between two members.  A hyphen before a bracket or another hyphen begins
no range. -/
def classRange : Reader ClassTree := do
  let first ← classMember
  skipBlanks
  notAtEnd
  match ← rest with
  | '-' :: cs =>
    let seen := afterHyphen (← get).skipsBlanks cs
    if seen = some ']' || seen = some '-' then alone first
    else
      setRest cs
      skipBlanks
      notAtEnd
      match first, ← classMember with
      | .literal lo, .literal hi => if lo.char ≤ hi.char then return .range lo hi else failure
      | _, _ => failure
  | _ => alone first

/-- The contents made of members in reverse order. -/
def unionOf : List ClassTree → ClassTree
  | [] => .empty
  | [item] => item
  | items => .union items.reverse

/-- Applies an operation that still waits for its right side. -/
def applyPending : Option (SetOp × ClassTree) → ClassTree → ClassTree
  | none, right => right
  | some (kind, left), right => .op kind left right

/-- An operator between the members of a class, which is removed. -/
def setOperator : Reader (Option SetOp) := do
  if ← acceptWord "&&" then return some .intersection
  else if ← acceptWord "--" then return some .difference
  else if ← acceptWord "~~" then return some .symmetricDifference
  else return none

/-- The members of a class up to its closing bracket, after the members read so far and the
operation that waits for its right side.  Operations group to the left. -/
def classMembers : Nat → Option (SetOp × ClassTree) → List ClassTree → Reader ClassTree
  | 0, _, _ => failure
  | steps + 1, pending, members => do
    skipBlanks
    notAtEnd
    if ← accept '[' then
      match ← asciiClass with
      | some item => classMembers steps pending (item :: members)
      | none =>
        let (negated, items) ← classStart
        let contents ← classMembers steps none items.reverse
        classMembers steps pending (.bracketed negated contents :: members)
    else if ← accept ']' then return applyPending pending (unionOf members)
    else
      match ← setOperator with
      | some kind =>
        classMembers steps (some (kind, applyPending pending (unionOf members))) []
      | none => classMembers steps pending ((← classRange) :: members)

/-- A class, after its bracket. -/
def bracketedClass : Reader Tree := do
  let (negated, items) ← classStart
  let contents ← classMembers ((← rest).length + 1) none items.reverse
  return .bracketed negated contents

/-! ## Groups -/

/-- The flag of a letter. -/
def flag? : Char → Option Flag
  | 'i' => some .ignoreCase
  | 'm' => some .multiLine
  | 's' => some .dotMatchesNewline
  | 'U' => some .swapGreed
  | 'u' => some .unicode
  | 'R' => some .crlf
  | 'x' => some .ignoreBlanks
  | _ => none

/-- The changes of a directive up to a colon or a closing parenthesis.  After a hyphen, of which
there is at most one and never at the end, flags are turned off; no flag stands twice. -/
def directive : Bool → List Char → Reader (Directive × List Char)
  | _, [] => failure
  | negating, c :: cs =>
    if c = ':' || c = ')' then return ([], c :: cs)
    else if c = '-' then
      match negating, cs with
      | false, d :: _ => if d = ':' || d = ')' then failure else directive true cs
      | _, _ => failure
    else
      match flag? c with
      | none => failure
      | some flag => do
        let (changes, after) ← directive negating cs
        if changes.any fun change => change.1 == flag then failure
        else return ((flag, !negating) :: changes, after)

/-- Whether a character may stand in the name of a group. -/
def isNameChar (c : Char) (isFirst : Bool) : Bool :=
  c == '_' || alphabetic.contains c ||
    (!isFirst && (c == '.' || c == '[' || c == ']' ||
      (category ["Nd", "Nl", "No"]).contains c))

/-- The name of a group up to its closing angle bracket. -/
def groupName : Reader Unit := do
  let (name, after) := (← rest).span (· != '>')
  match name with
  | [] => failure
  | first :: more =>
    let known := (← get).names
    let text := String.ofList name
    if isNameChar first true && more.all (isNameChar · false) && !after.isEmpty &&
        !known.contains text then
      modify fun s => { s with rest := after.drop 1, names := text :: s.names }
    else failure

/-- What an opening parenthesis begins: a group, which captures or has its own directive, or a
directive alone. -/
inductive Opening where
  | group (captures : Bool) (d : Directive)
  | alone (d : Directive)

/-- What follows an opening parenthesis.  Looking ahead or behind is not supported. -/
def opening : Reader Opening := do
  skipBlanks
  if (← acceptWord "?=") || (← acceptWord "?!") || (← acceptWord "?<=") ||
      (← acceptWord "?<!") then failure
  else if (← acceptWord "?P<") || (← acceptWord "?<") then
    groupName
    return .group true []
  else if ← accept '?' then
    let (d, after) ← directive false (← rest)
    match after with
    | ':' :: after =>
      setRest after
      return .group false d
    | ')' :: after =>
      setRest after
      if d.isEmpty then failure else return .alone d
    | _ => failure
  else return .group true []

/-! ## Repetitions -/

/-- Repetition counts lie below this bound. -/
def countBound : Nat := Nat.pow 2 32

/-- The decimal digits that follow, with what is skipped after each. -/
def digits : Nat → Reader (List Char)
  | 0 => return []
  | steps + 1 => do
    match ← rest with
    | c :: cs =>
      if c.isDigit then
        setRest cs
        skipBlanks
        return c :: (← digits steps)
      else return []
    | [] => return []

/-- A count, with blanks around it. -/
def count : Reader Nat := do
  setRest ((← rest).dropWhile isBlank)
  let number ← digits (← rest).length
  setRest ((← rest).dropWhile isBlank)
  if number.isEmpty || countBound ≤ Text.number number then failure
  else return Text.number number

/-- The bounds of a counted repetition, after its opening brace. -/
def counts : Reader (Nat × Option Nat) := do
  skipBlanks
  let least ← count
  if ← accept ',' then
    skipBlanks
    if ← accept '\x7d' then return (least, none)
    else
      let most ← count
      expect '\x7d'
      if least ≤ most then return (least, some most) else failure
  else
    expect '\x7d'
    return (least, some least)

/-- Whether a pattern can be repeated: directives cannot. -/
def isRepeatable : Tree → Bool
  | .empty => false
  | .directive _ => false
  | _ => true

/-- The repetition of the last of the items read so far, in reverse order. -/
def repeatLast (least : Nat) (most : Option Nat) (greedy : Bool) :
    List Tree → Reader (List Tree)
  | [] => failure
  | item :: items =>
    if isRepeatable item then return .repetition item least most greedy :: items else failure

/-- The items read so far with the last one repeated, after the sign of repetition. -/
def repetition (sign : Char) (items : List Tree) : Reader (List Tree) := do
  let (least, most) ← match sign with
    | '?' => pure (0, some 1)
    | '*' => pure (0, none)
    | '+' => pure (1, none)
    | _ => do
      require (!items.isEmpty)
      let bounds ← counts
      skipBlanks
      pure bounds
  let lazy ← accept '?'
  repeatLast least most (!lazy) items

/-! ## Patterns -/

/-- The sequence of items in reverse order. -/
def sequenceOf : List Tree → Tree
  | [] => .empty
  | [item] => item
  | items => .sequence items.reverse

/-- The alternatives of branches in reverse order. -/
def alternativesOf : List Tree → Tree
  | [branch] => branch
  | branches => .alternatives branches.reverse

/-- The pattern that an escape stands for. -/
def treeOfEscape : Escape → Tree
  | .literal l => .literal l
  | .anchor a => .anchor a
  | .shorthand s negated => .shorthand s negated
  | .property set negated => .property set negated

/-- An item other than a group, a class or a repetition, from its first character on. -/
def item : Reader Tree := do
  let c ← next
  match c with
  | '\\' => return treeOfEscape (← escape)
  | '.' => return .dot
  | '^' => return .anchor .lineStart
  | '$' => return .anchor .lineEnd
  | _ => return .literal ⟨c, false⟩

/-- Sets whether blanks are skipped as a directive says. -/
def applyBlanks (d : Directive) : Reader Unit :=
  match d.value? .ignoreBlanks with
  | some value => modify fun s => { s with skipsBlanks := value }
  | none => pure ()

/-- A pattern up to a closing parenthesis or the end, after the branches and the items of the
current branch read so far, both in reverse order. -/
def pattern : Nat → List Tree → List Tree → Reader Tree
  | 0, _, _ => failure
  | steps + 1, branches, items => do
    skipBlanks
    match ← rest with
    | [] => return alternativesOf (sequenceOf items :: branches)
    | ')' :: _ => return alternativesOf (sequenceOf items :: branches)
    | '|' :: cs =>
      setRest cs
      pattern steps (sequenceOf items :: branches) []
    | '(' :: cs =>
      setRest cs
      match ← opening with
      | .alone d =>
        applyBlanks d
        pattern steps branches (.directive d :: items)
      | .group captures d =>
        let outer := (← get).skipsBlanks
        applyBlanks d
        let body ← pattern steps [] []
        expect ')'
        modify fun s => { s with skipsBlanks := outer }
        pattern steps branches (.group captures d body :: items)
    | '[' :: cs =>
      setRest cs
      pattern steps branches ((← bracketedClass) :: items)
    | c :: cs =>
      if c = '?' || c = '*' || c = '+' || c = '\x7b' then
        setRest cs
        pattern steps branches (← repetition c items)
      else
        pattern steps branches ((← item) :: items)

end Reader

/-- The form of a pattern. -/
def Tree.ofString? (text : String) : Option Tree := do
  let chars := text.toList
  let (tree, state) ← (Reader.pattern (chars.length + 1) [] []).run ⟨chars, false, []⟩
  if state.rest.isEmpty then some tree else none

end FeatureFlags.Pattern
