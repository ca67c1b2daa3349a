/-
# Reading patterns

A regular expression from its text.  A text that is no pattern has no tree; why it is none is not
recorded.  What makes a text no pattern:

* a group, set, repetition count, name or escape that is not closed;
* a repetition sign with nothing before it, or a count that is not a number or runs backwards;
* a look around a place, a reference to a group, an escape of a letter or digit that has no meaning;
* a flag that is unknown, doubled or negated in vain, a group name that is empty or doubled;
* nesting beyond 250 levels.

With the flag `x` blanks and comments are passed over at the places where a sign could begin.
-/
import JsonSieve.Pattern.Tree
import JsonSieve.Unicode.Property

namespace JsonSieve.Pattern

/-! ## 1. Moves -/

/-- What is left of a pattern, whether blanks in it mean nothing, and the names of its groups. -/
structure Source where
  rest : List Char
  freeSpacing : Bool
  names : List (List Char)

/-- A stage of reading, which fails on a text that is no pattern. -/
abbrev Scan := StateT Source Option

namespace Scan

/-- The text without the blanks and comments it opens with; the first argument tells whether it
opens inside a comment. -/
def dropIdle : Bool → List Char → List Char
  | _, [] => []
  | true, c :: s => dropIdle (c != '\n') s
  | false, c :: s =>
    if Text.isBlank c then dropIdle false s else if c = '#' then dropIdle true s else c :: s

/-- What is left. -/
def rest : Scan (List Char) := return (← get).rest

/-- Passes over blanks and comments where they mean nothing. -/
def idle : Scan Unit := modify fun s =>
  if s.freeSpacing then { s with rest := dropIdle false s.rest } else s

/-- The next character, which stays where it is. -/
def peek? : Scan (Option Char) := return (← rest).head?

/-- The next character, which has to be there and stays where it is. -/
def need : Scan Char := fun s => s.rest.head?.map fun c => (c, s)

/-- Passes over so many characters. -/
def skip (n : Nat) : Scan Unit := modify fun s => { s with rest := s.rest.drop n }

/-- Passes over a character and the blanks behind it. -/
def step : Scan Unit := do skip 1; idle

/-- Passes over a character, which has to be a given one. -/
def expect (c : Char) : Scan Unit := do
  guard ((← need) == c)
  skip 1

/-- The characters of a kind that come next, blanks between them passed over. -/
def spaced (p : Char → Bool) : Nat → Scan (List Char)
  | 0 => return []
  | fuel + 1 => do
    match ← peek? with
    | some c =>
      if p c then
        step
        return c :: (← spaced p fuel)
      else return []
    | none => return []

/-- The characters of a kind that come next, as many as there are. -/
def run (p : Char → Bool) : Scan (List Char) := do spaced p (← rest).length

/-- The next character after the one that comes next, blanks between them passed over.  Of a comment
no more is passed over than the sign it opens with and the blanks behind that. -/
def afterNext? : Scan (Option Char) := do
  let s ← get
  let behind := s.rest.drop 1
  if !s.freeSpacing then return behind.head?
  return match Text.dropBlanks behind with
    | '#' :: comment => (Text.dropBlanks comment).head?
    | behind => behind.head?

end Scan

open Scan

/-! ## 2. Numbers -/

/-- The number that digits in base sixteen denote. -/
def hexNumber? (ds : List Char) : Option Nat :=
  ds.foldlM (fun n c =>
    if c.isDigit then some (16 * n + (c.toNat - '0'.toNat))
    else if 'a' ≤ c && c ≤ 'f' then some (16 * n + (c.toNat - 'a'.toNat + 10))
    else if 'A' ≤ c && c ≤ 'F' then some (16 * n + (c.toNat - 'A'.toNat + 10))
    else none) 0

/-- The character of a number, which has to be one. -/
def charOf (n : Nat) : Scan Char := do
  guard n.isValidChar
  return Char.ofNat n

/-- So many digits in base sixteen. -/
def hexDigits : Nat → Scan (List Char)
  | 0 => return []
  | n + 1 => do
    let c ← need
    step
    return c :: (← hexDigits n)

/-- A character written by its number after `x`, `u` or `U`, which tell how many digits there are
unless they stand between braces. -/
def readNumbered (sign : Char) : Scan Tree := do
  step
  if (← need) == '\x7b' then
    step
    let ds ← run (· != '\x7d')
    let _ ← need
    step
    guard !ds.isEmpty
    return .char (← charOf (← hexNumber? ds)) false
  let ds ← hexDigits (if sign = 'x' then 2 else if sign = 'u' then 4 else 8)
  return .char (← charOf (← hexNumber? ds)) (sign = 'x')

/-- A number in decimal, blanks around it passed over.  It fits a word of 32 bits. -/
def readCount : Scan Nat := do
  modify fun s => { s with rest := Text.dropBlanks s.rest }
  let ds ← run Char.isDigit
  modify fun s => { s with rest := Text.dropBlanks s.rest }
  idle
  guard !ds.isEmpty
  let n := Nat.ofDigitChars 10 ds 0
  guard (n < 2 ^ 32)
  return n

/-! ## 3. Escapes -/

/-- The text before and after a separator, where it first stands. -/
def splitAt? (separator : List Char) : List Char → Option (List Char × List Char)
  | [] => none
  | c :: s =>
    if separator.isPrefixOf (c :: s) then some ([], (c :: s).drop separator.length)
    else (splitAt? separator s).map fun (before, after) => (c :: before, after)

/-- What is asked by the text between the braces of a class, and whether it is asked in the
negative. -/
def PropertyQuery.ofText (text : List Char) : PropertyQuery × Bool :=
  match splitAt? ['!', '='] text, splitAt? [':'] text, splitAt? ['='] text with
  | some (p, v), _, _ => (.valued p v, true)
  | none, some (p, v), _ => (.valued p v, false)
  | none, none, some (p, v) => (.valued p v, false)
  | none, none, none => (.named text, false)

/-- A class of code points by a property, after `p` or `P`. -/
def readProperty (negated : Bool) : Scan Tree := do
  step
  let c ← need
  if c == '\x7b' then
    step
    let text ← run (· != '\x7d')
    expect '\x7d'
    let (query, denied) := PropertyQuery.ofText text
    return .property query (negated != denied)
  guard (c != '\\')
  step
  return .property (.named [c]) negated

/-- A word boundary of a special kind that stands between braces after `b`.  What cannot be one is
left to be read as a repetition count. -/
def readBoundary : Scan Assertion := do
  let start ← get
  if (← peek?) != some '\x7b' then return .wordBoundary
  let isNameChar := fun (c : Char) => c.isAlpha || c == '-'
  step
  if !isNameChar (← need) then
    set start
    return .wordBoundary
  let name ← run isNameChar
  expect '\x7d'
  match String.ofList name with
  | "start" => return .wordStart
  | "end" => return .wordEnd
  | "start-half" => return .wordStartHalf
  | "end-half" => return .wordEndHalf
  | _ => failure

/-- Whether a character that is no ASCII letter or digit stands for itself after a backslash. -/
def isPlainEscape (c : Char) : Bool :=
  c.toNat < 0x80 && !c.isAlphanum && c != '<' && c != '>'

/-- What a backslash and the sign behind it stand for. -/
def readEscape : Scan Tree := do
  skip 1
  let c ← need
  if c == 'x' || c == 'u' || c == 'U' then readNumbered c
  else if c == 'p' || c == 'P' then readProperty (c == 'P')
  else
    skip 1
    if isPlainEscape c then return .char c false
    match c with
    | 'd' => return .shorthand .digit false
    | 'D' => return .shorthand .digit true
    | 's' => return .shorthand .space false
    | 'S' => return .shorthand .space true
    | 'w' => return .shorthand .word false
    | 'W' => return .shorthand .word true
    | 'a' => return .char '\x07' false
    | 'f' => return .char '\x0c' false
    | 't' => return .char '\t' false
    | 'n' => return .char '\n' false
    | 'r' => return .char '\r' false
    | 'v' => return .char '\x0b' false
    | 'A' => return .assertion .textStart
    | 'z' => return .assertion .textEnd
    | 'b' => return .assertion (← readBoundary)
    | 'B' => return .assertion .noWordBoundary
    | '<' => return .assertion .wordStart
    | '>' => return .assertion .wordEnd
    | _ => failure

/-- A sign that stands by itself: an escape, a dot, a line assertion or a character. -/
def readSign : Scan Tree := do
  let c ← need
  if c == '\\' then readEscape
  else
    skip 1
    match c with
    | '.' => return .dot
    | '^' => return .assertion .lineStart
    | '$' => return .assertion .lineEnd
    | c => return .char c false

/-! ## 4. Sets -/

/-- The ASCII classes by their names. -/
def asciiNames : List (String × AsciiClass) :=
  [("alnum", .alnum), ("alpha", .alpha), ("ascii", .ascii), ("blank", .blank), ("cntrl", .cntrl),
   ("digit", .digit), ("graph", .graph), ("lower", .lower), ("print", .print), ("punct", .punct),
   ("space", .space), ("upper", .upper), ("word", .word), ("xdigit", .xdigit)]

/-- An ASCII class between colons, if that is what comes next. -/
def asciiClass? (s : List Char) : Option (SetTree × List Char) :=
  match s with
  | '[' :: ':' :: s =>
    let (negated, s) := match s with
      | '^' :: s => (true, s)
      | s => (false, s)
    let name := s.takeWhile (· != ':')
    match s.drop name.length with
    | ':' :: ']' :: s =>
      (asciiNames.lookup (String.ofList name)).map fun cls => (.ascii cls negated, s)
    | _ => none
  | _ => none

/-- A sign inside a set, where only escapes are special. -/
def readSetSign : Scan Tree := do
  let c ← need
  if c == '\\' then readEscape
  else
    skip 1
    return .char c false

/-- A sign as an item of a set. -/
def toItem? : Tree → Option SetTree
  | .char c _ => some (.range c c)
  | .shorthand cls negated => some (.shorthand cls negated)
  | .property query negated => some (.property query negated)
  | _ => none

/-- A sign as an end of a range. -/
def toEnd? : Tree → Option Char
  | .char c _ => some c
  | _ => none

/-- An item of a set: a sign, or a range between two. -/
def readSetItem : Scan SetTree := do
  let first ← readSetSign
  idle
  let c ← need
  let behind ← afterNext?
  if c != '-' || behind == some ']' || behind == some '-' then
    return ← toItem? first
  step
  let _ ← need
  let last ← readSetSign
  let low ← toEnd? first
  let high ← toEnd? last
  guard (low ≤ high)
  return .range low high

/-- The hyphens that a set may open with, each as an item. -/
def readHyphens : Nat → Scan (List SetTree)
  | 0 => return []
  | fuel + 1 => do
    if (← need) == '-' then
      step
      return .range '-' '-' :: (← readHyphens fuel)
    else return []

/-- The opening of a set: whether it is negated, and the items that could not stand further on. -/
def readSetOpening : Scan (Bool × List SetTree) := do
  step
  let negated := (← need) == '^'
  if negated then step
  let hyphens ← readHyphens ((← rest).length + 1)
  if hyphens.isEmpty && (← need) == ']' then
    step
    let _ ← need
    return (negated, [.range ']' ']'])
  return (negated, hyphens)

/-- The operation that comes next in a set. -/
def setOperation? : List Char → Option SetOperation
  | '&' :: '&' :: _ => some .intersection
  | '-' :: '-' :: _ => some .difference
  | '~' :: '~' :: _ => some .symmetricDifference
  | _ => none

/-- A set with an operand that an operation waits for. -/
def joined (left? : Option (SetTree × SetOperation)) (right : SetTree) : SetTree :=
  match left? with
  | some (left, op) => .operation op left right
  | none => right

mutual

/-- A set with its brackets: whether it is negated, and what is between them. -/
def readSet : Nat → Scan (Bool × SetTree)
  | 0 => failure
  | fuel + 1 => do
    let (negated, items) ← readSetOpening
    return (negated, ← readSetRest none items.reverse fuel)

/-- The rest of a set up to its closing bracket.  `left?` is the operand before the last operation,
and `items` are the items since then, the last one first. -/
def readSetRest (left? : Option (SetTree × SetOperation)) (items : List SetTree) :
    Nat → Scan SetTree
  | 0 => failure
  | fuel + 1 => do
    idle
    let c ← need
    let s ← rest
    match asciiClass? s, setOperation? s with
    | some (item, s), _ =>
      modify fun source => { source with rest := s }
      readSetRest left? (item :: items) fuel
    | none, some op =>
      skip 2
      readSetRest (some (joined left? (.ofItems items.reverse), op)) [] fuel
    | none, none =>
      if c == '[' then
        let (negated, inner) ← readSet fuel
        readSetRest left? (.bracketed negated inner :: items) fuel
      else if c == ']' then
        skip 1
        return joined left? (.ofItems items.reverse)
      else readSetRest left? ((← readSetItem) :: items) fuel

end

/-! ## 5. Flags and groups -/

/-- The flag of a letter. -/
def flagOf? : Char → Option Flag
  | 'i' => some .ignoreCase
  | 'm' => some .multiLine
  | 's' => some .dotAll
  | 'U' => some .swapGreed
  | 'u' => some .unicode
  | 'R' => some .crlf
  | 'x' => some .freeSpacing
  | _ => none

/-- The flags that a text of letters sets; those after a hyphen are switched off.  No flag may stand
twice, and there has to be one after the hyphen. -/
def flagChanges? (on : Bool) (set : FlagChanges) : List Char → Option FlagChanges
  | [] => some []
  | ['-'] => none
  | '-' :: s => if on then flagChanges? false set s else none
  | c :: s => do
    let flag ← flagOf? c
    guard !(set.any fun change => change.1 == flag)
    return (flag, on) :: (← flagChanges? on ((flag, on) :: set) s)

/-- The new setting of a flag, if it is changed. -/
def setting? (changes : FlagChanges) (flag : Flag) : Option Bool := changes.lookup flag

/-- The name of a group up to its closing angle bracket. -/
def readGroupName : Scan Unit := do
  let s ← get
  let name := s.rest.takeWhile (· != '>')
  guard (name.length < s.rest.length)
  match name with
  | [] => failure
  | c :: cs =>
    guard (c == '_' || Unicode.Property.isAlphabetic c)
    guard (cs.all fun c => c == '_' || c == '.' || c == '[' || c == ']' ||
      Unicode.Property.isAlphanumeric c)
  guard !(s.names.contains name)
  set { s with rest := s.rest.drop (name.length + 1), names := name :: s.names }

/-- What opens with a parenthesis: flags for what follows, or a group with flags of its own. -/
inductive Opening where
  | flags (changes : FlagChanges)
  | group (changes : FlagChanges) (capturing : Bool)

/-- Everything from an opening parenthesis up to the pattern inside the group, if it is a group. -/
def readOpening : Scan Opening := do
  step
  let s ← rest
  guard !(["?=", "?!", "?<=", "?<!"].any fun look => look.toList.isPrefixOf s)
  if ["?P<", "?<"].any fun sign => sign.toList.isPrefixOf s then
    skip (if "?P".toList.isPrefixOf s then 3 else 2)
    readGroupName
    return .group [] true
  if s.head? != some '?' then return .group [] true
  skip 1
  let letters := (← rest).takeWhile fun c => c != ':' && c != ')'
  skip letters.length
  let closing ← need
  skip 1
  let changes ← flagChanges? true [] letters
  if closing == ':' then return .group changes false
  guard !changes.isEmpty
  return .flags changes

/-! ## 6. Repetitions -/

/-- Passes over the sign that makes a repetition lazy. -/
def skipLazy : Scan Unit := do if (← peek?) == some '?' then skip 1

/-- A count between braces: the least number of times, and the most unless there is no end. -/
def readCounts : Scan (Nat × Option Nat) := do
  step
  let least ← readCount
  let most ← if (← need) == ',' then do
      step
      if (← need) == '\x7d' then pure none else some <$> readCount
    else pure (some least)
  guard ((← need) == '\x7d')
  step
  skipLazy
  guard (most.all (least ≤ ·))
  return (least, most)

/-- How often a sign says that what is before it is repeated. -/
def readTimes : Scan (Nat × Option Nat) := do
  match ← need with
  | '\x7b' => readCounts
  | c =>
    skip 1
    skipLazy
    return (if c == '+' then 1 else 0, if c == '?' then some 1 else none)

/-- The last pattern read, repeated.  Flags cannot be repeated. -/
def repeatLast (least : Nat) (most : Option Nat) : List Tree → Option (List Tree)
  | [] | .empty :: _ | .flags _ :: _ => none
  | t :: ts => some (.repetition t least most :: ts)

/-- A sign that says how often something is repeated. -/
def isRepetition (c : Char) : Bool := c == '?' || c == '*' || c == '+' || c == '\x7b'

/-! ## 7. Patterns -/

mutual

/-- Choices up to the end of the group or text they are in. -/
def readChoices : Nat → Scan (List Tree)
  | 0 => failure
  | fuel + 1 => do
    let t ← readSequence [] fuel
    if (← peek?) == some '|' then
      skip 1
      return t :: (← readChoices fuel)
    else return [t]

/-- Patterns one after the other; `done` are those already read, the last one first. -/
def readSequence (done : List Tree) : Nat → Scan Tree
  | 0 => failure
  | fuel + 1 => do
    idle
    match ← peek? with
    | none | some ')' | some '|' => return .ofSequence done.reverse
    | some '(' => readSequence ((← readGroup fuel) :: done) fuel
    | some '[' =>
      let (negated, inner) ← readSet fuel
      readSequence (.set negated inner :: done) fuel
    | some c =>
      if isRepetition c then
        let (least, most) ← readTimes
        readSequence (← repeatLast least most done) fuel
      else readSequence ((← readSign) :: done) fuel

/-- A group, or flags for the rest of the group they are in. -/
def readGroup : Nat → Scan Tree
  | 0 => failure
  | fuel + 1 => do
    let outer := (← get).freeSpacing
    match ← readOpening with
    | .flags changes =>
      modify fun s => { s with freeSpacing := (setting? changes .freeSpacing).getD outer }
      return .flags changes
    | .group changes capturing =>
      modify fun s => { s with freeSpacing := (setting? changes .freeSpacing).getD outer }
      let ts ← readChoices fuel
      expect ')'
      modify fun s => { s with freeSpacing := outer }
      return .group changes capturing (.ofChoices ts)

end

/-- How deep a pattern may be nested. -/
def maxDepth : Nat := 250

/-- The tree of a text, if it is a pattern.  Every step reads a character or is followed by one that
does. -/
def read? (text : List Char) : Option Tree :=
  match readChoices (4 * text.length + 4) ⟨text, false, []⟩ with
  | some (ts, ⟨[], _, _⟩) => some (Tree.ofChoices ts) |>.filter fun t => t.depth ≤ maxDepth
  | _ => none

end JsonSieve.Pattern
