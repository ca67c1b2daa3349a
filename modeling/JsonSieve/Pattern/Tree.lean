/-
# Patterns as they are written

The tree of a regular expression before anything is said about what it matches.  Flags stand where
they were written, sets of characters keep their nesting, and classes keep their names.
-/

namespace JsonSieve.Pattern

/-! ## 1. Parts -/

/-- A switch that a pattern can set for what follows. -/
inductive Flag where
  /-- `i`: case is ignored. -/
  | ignoreCase
  /-- `m`: the line assertions hold at line ends. -/
  | multiLine
  /-- `s`: a dot stands for line ends too. -/
  | dotAll
  /-- `U`: repetition signs change between greedy and lazy, which no search can tell. -/
  | swapGreed
  /-- `u`: classes hold code points of all scripts and not ASCII alone. -/
  | unicode
  /-- `R`: a carriage return ends a line too. -/
  | crlf
  /-- `x`: blanks and comments in the pattern mean nothing. -/
  | freeSpacing
deriving DecidableEq, Repr

/-- Switches with their new settings, as they were written. -/
abbrev FlagChanges := List (Flag × Bool)

/-- A condition on a place between two characters. -/
inductive Assertion where
  | lineStart
  | lineEnd
  | textStart
  | textEnd
  | wordBoundary
  | noWordBoundary
  | wordStart
  | wordEnd
  | wordStartHalf
  | wordEndHalf
deriving DecidableEq, Repr

/-- A class of characters with a sign of its own. -/
inductive Shorthand where
  | digit
  | space
  | word
deriving DecidableEq, Repr

/-- A class of ASCII characters that a set can name. -/
inductive AsciiClass where
  | alnum
  | alpha
  | ascii
  | blank
  | cntrl
  | digit
  | graph
  | lower
  | print
  | punct
  | space
  | upper
  | word
  | xdigit
deriving DecidableEq, Repr

/-- What is asked of a code point: a property or category by its name, or a value of a property. -/
inductive PropertyQuery where
  | named (name : List Char)
  | valued (property value : List Char)
deriving DecidableEq, Repr

/-- How two sets are put together. -/
inductive SetOperation where
  | intersection
  | difference
  | symmetricDifference
deriving DecidableEq, Repr

/-! ## 2. Trees -/

/-- A set of characters as it is written between brackets. -/
inductive SetTree where
  | nothing
  | range (first last : Char)
  | ascii (cls : AsciiClass) (negated : Bool)
  | shorthand (cls : Shorthand) (negated : Bool)
  | property (query : PropertyQuery) (negated : Bool)
  | bracketed (negated : Bool) (inner : SetTree)
  | union (items : List SetTree)
  | operation (op : SetOperation) (left right : SetTree)

/-- A pattern as it is written. -/
inductive Tree where
  | empty
  | flags (changes : FlagChanges)
  /-- A character; `octet` tells one that was written as two digits of an octet. -/
  | char (c : Char) (octet : Bool)
  | dot
  | assertion (a : Assertion)
  | shorthand (cls : Shorthand) (negated : Bool)
  | property (query : PropertyQuery) (negated : Bool)
  | set (negated : Bool) (inner : SetTree)
  | repetition (t : Tree) (least : Nat) (most : Option Nat)
  | group (changes : FlagChanges) (capturing : Bool) (t : Tree)
  | alternation (ts : List Tree)
  | concat (ts : List Tree)

/-! ## 3. Nesting -/

mutual

/-- How deep a set is nested, not counting the brackets around it. -/
def SetTree.depth : SetTree → Nat
  | .bracketed _ s => s.depth + 1
  | .union ss => SetTree.depths ss + 1
  | .operation _ l r => max l.depth r.depth + 1
  | _ => 0

/-- How deep the deepest of several sets is nested. -/
def SetTree.depths : List SetTree → Nat
  | [] => 0
  | s :: ss => max s.depth (SetTree.depths ss)

end

mutual

/-- How deep a pattern is nested. -/
def Tree.depth : Tree → Nat
  | .set _ s => s.depth + 1
  | .repetition t _ _ => t.depth + 1
  | .group _ _ t => t.depth + 1
  | .alternation ts => Tree.depths ts + 1
  | .concat ts => Tree.depths ts + 1
  | _ => 0

/-- How deep the deepest of several patterns is nested. -/
def Tree.depths : List Tree → Nat
  | [] => 0
  | t :: ts => max t.depth (Tree.depths ts)

end

/-- Patterns one after the other; nothing is put around a single one. -/
def Tree.ofSequence : List Tree → Tree
  | [] => .empty
  | [t] => t
  | ts => .concat ts

/-- Patterns side by side; nothing is put around a single one. -/
def Tree.ofChoices : List Tree → Tree
  | [t] => t
  | ts => .alternation ts

/-- Sets written one after the other; nothing is put around a single one. -/
def SetTree.ofItems : List SetTree → SetTree
  | [] => .nothing
  | [s] => s
  | ss => .union ss

end JsonSieve.Pattern
