/-
# What patterns mean

From the tree of a pattern to an expression over sets of code points.  Flags are carried along from
left to right and reach to the end of the group they stand in.  Not every tree has a meaning: a
class may be unknown, and without the flag `u` nothing may stand for a code point beyond ASCII that
is not written as itself.

Case is ignored by widening sets: a set takes in all that is the same letter as a member before it
is negated, and so does each operand of a set operation.
-/
import JsonSieve.Pattern.Tree
import JsonSieve.Unicode.Age
import JsonSieve.Unicode.Break

namespace JsonSieve.Pattern

open Unicode (CodeSet)

/-! ## 1. Expressions -/

/-- The flags that bear on what a pattern matches. -/
structure Settings where
  ignoreCase : Bool
  multiLine : Bool
  dotAll : Bool
  unicode : Bool
  crlf : Bool
deriving DecidableEq, Repr

/-- Case is ignored, and classes hold code points of all scripts. -/
def Settings.usual : Settings := ⟨true, false, false, true, false⟩

/-- The settings with one flag changed. -/
def Settings.change (st : Settings) : Flag × Bool → Settings
  | (.ignoreCase, on) => { st with ignoreCase := on }
  | (.multiLine, on) => { st with multiLine := on }
  | (.dotAll, on) => { st with dotAll := on }
  | (.unicode, on) => { st with unicode := on }
  | (.crlf, on) => { st with crlf := on }
  | (.swapGreed, _) | (.freeSpacing, _) => st

/-- The settings with several flags changed. -/
def Settings.changes (st : Settings) (changes : FlagChanges) : Settings :=
  changes.foldl Settings.change st

/-- A set of texts, by the ways to put it together. -/
inductive Expr where
  | empty
  | one (members : CodeSet)
  | place (a : Assertion) (st : Settings)
  | seq (e f : Expr)
  | alt (e f : Expr)
  | times (e : Expr) (least : Nat) (most : Option Nat)
  | capture (e : Expr)

/-- Whether an expression matches nothing but the empty text. -/
def Expr.isIdle : Expr → Bool
  | empty => true
  | one _ => false
  | place _ _ => true
  | seq e f => e.isIdle && f.isIdle
  | alt e f => e.isIdle && f.isIdle
  | times e _ most => e.isIdle || most == some 0
  | capture e => e.isIdle

/-- An expression so many times over.  What matches nothing but the empty text is as good once as
any number of times. -/
def Expr.repeated (e : Expr) (least : Nat) (most : Option Nat) : Expr :=
  let (least, most) := if e.isIdle then (min least 1, some ((most.getD 1).min 1)) else (least, most)
  if most = some 0 then .empty else if least = 1 && most = some 1 then e else .times e least most

/-! ## 2. Classes -/

/-- The code points of a class with a sign of its own. -/
def Shorthand.members (unicode : Bool) : Shorthand → CodeSet
  | .digit => if unicode then Unicode.Category.decimalNumber else .range 0x30 0x39
  | .space =>
    if unicode then Unicode.Property.whiteSpace else .ofRanges [(0x09, 0x0D), (0x20, 0x20)]
  | .word =>
    if unicode then Unicode.Property.wordCharacter
    else .ofRanges [(0x30, 0x39), (0x41, 0x5A), (0x5F, 0x5F), (0x61, 0x7A)]

/-- The code points of a class of ASCII characters. -/
def AsciiClass.members : AsciiClass → CodeSet
  | alnum => .ofRanges [(0x30, 0x39), (0x41, 0x5A), (0x61, 0x7A)]
  | alpha => .ofRanges [(0x41, 0x5A), (0x61, 0x7A)]
  | ascii => .range 0x00 0x7F
  | blank => .ofRanges [(0x09, 0x09), (0x20, 0x20)]
  | cntrl => .ofRanges [(0x00, 0x1F), (0x7F, 0x7F)]
  | digit => .range 0x30 0x39
  | graph => .range 0x21 0x7E
  | lower => .range 0x61 0x7A
  | print => .range 0x20 0x7E
  | punct => .ofRanges [(0x21, 0x2F), (0x3A, 0x40), (0x5B, 0x60), (0x7B, 0x7E)]
  | space => .ofRanges [(0x09, 0x0D), (0x20, 0x20)]
  | upper => .range 0x41 0x5A
  | word => .ofRanges [(0x30, 0x39), (0x41, 0x5A), (0x5F, 0x5F), (0x61, 0x7A)]
  | xdigit => .ofRanges [(0x30, 0x39), (0x41, 0x46), (0x61, 0x66)]

/-- A name as names are compared: ASCII letters in lower case, without blanks, hyphens and
underscores, and without an `is` that it opens with unless all that remains is a `c`. -/
def looseName (name : List Char) : String :=
  let fold := fun (s : List Char) =>
    (s.filter fun c => c.toNat < 0x80 && c != ' ' && c != '_' && c != '-').map Char.toLower
  match name with
  | a :: b :: s =>
    if a.toLower == 'i' && b.toLower == 's' then
      if fold s == ['c'] then "isc" else String.ofList (fold s)
    else String.ofList (fold name)
  | _ => String.ofList (fold name)

/-- What goes by a name in a table of names. -/
def lookUp (table : Unicode.Category.Named) (name : String) : Option CodeSet :=
  (table.find? fun entry => entry.1.contains name).map Prod.snd

/-- The code points that a property is asked of.  A single name is that of a property, else that of
a category, else that of a script. -/
def PropertyQuery.members? : PropertyQuery → Option CodeSet
  | named name =>
    let name := looseName name
    (lookUp Unicode.Property.named name).or <|
      (lookUp Unicode.Category.named name).or (Unicode.Script.find? name)
  | valued property value =>
    let value := looseName value
    match looseName property with
    | "gc" | "generalcategory" => lookUp Unicode.Category.named value
    | "sc" | "script" => Unicode.Script.find? value
    | "scx" | "scriptextensions" => Unicode.Script.findExtended? value
    | "age" => Unicode.Age.find? value
    | "gcb" | "graphemeclusterbreak" => lookUp Unicode.Break.characterClasses value
    | "wb" | "wordbreak" => lookUp Unicode.Break.wordClasses value
    | "sb" | "sentencebreak" => lookUp Unicode.Break.sentenceClasses value
    | _ => none

/-! ## 3. Sets -/

/-- The set with all that is the same letter as a member, where case is ignored. -/
def fold (st : Settings) (s : CodeSet) : CodeSet :=
  if st.ignoreCase then (if st.unicode then s.ignoringCase else s.ignoringAsciiCase) else s

/-- The set or all that is not in it, which goes beyond ASCII. -/
def negate? (st : Settings) (negated : Bool) (s : CodeSet) : Option CodeSet :=
  if negated then (if st.unicode then some s.compl else none) else some s

/-- The code points of a property, which go beyond ASCII. -/
def propertyMembers? (st : Settings) (query : PropertyQuery) (negated : Bool) : Option CodeSet :=
  if st.unicode then query.members?.bind fun s => negate? st negated (fold st s) else none

/-- Two sets put together. -/
def SetOperation.apply : SetOperation → CodeSet → CodeSet → CodeSet
  | intersection, s, t => s.inter t
  | difference, s, t => s.diff t
  | symmetricDifference, s, t => s.symmDiff t

mutual

/-- The code points of a set. -/
def SetTree.members? (st : Settings) : SetTree → Option CodeSet
  | .nothing => some .empty
  | .range first last =>
    if st.unicode || last.toNat < 0x80 then some (.range first.toNat last.toNat) else none
  | .ascii cls negated => negate? st negated (fold st cls.members)
  | .shorthand cls negated => negate? st negated (cls.members st.unicode)
  | .property query negated => propertyMembers? st query negated
  | .bracketed negated inner => (inner.members? st).bind fun s => negate? st negated (fold st s)
  | .union items => SetTree.membersOfAll? st items
  | .operation op left right => do
    return op.apply (fold st (← left.members? st)) (fold st (← right.members? st))

/-- The code points of several sets together. -/
def SetTree.membersOfAll? (st : Settings) : List SetTree → Option CodeSet
  | [] => some .empty
  | s :: ss => do return (← s.members? st) ∪ (← SetTree.membersOfAll? st ss)

end

/-! ## 4. Patterns -/

/-- What a single character stands for.  Without the flag `u` only ASCII letters have two cases, and
an octet has to be an ASCII character. -/
def charMembers? (st : Settings) (c : Char) (octet : Bool) : Option CodeSet :=
  if !st.unicode && octet && 0x80 ≤ c.toNat then none else some (fold st (.singleton c))

/-- What a dot stands for: anything, but for line ends unless the flag `s` is set. -/
def dotMembers (st : Settings) : CodeSet :=
  if st.dotAll then .range 0 0x10FFFF
  else if st.crlf then .compl (.ofRanges [(0x0A, 0x0A), (0x0D, 0x0D)])
  else .compl (.range 0x0A 0x0A)

mutual

/-- What a pattern means, and the settings for what stands behind it. -/
def Tree.meaning? (st : Settings) : Tree → Option (Expr × Settings)
  | .empty => some (.empty, st)
  | .flags changes => some (.empty, st.changes changes)
  | .char c octet => (charMembers? st c octet).map fun s => (.one s, st)
  | .dot => if st.unicode then some (.one (dotMembers st), st) else none
  | .assertion a => some (.place a st, st)
  | .shorthand cls negated =>
    (negate? st negated (cls.members st.unicode)).map fun s => (.one s, st)
  | .property query negated => (propertyMembers? st query negated).map fun s => (.one s, st)
  | .set negated inner =>
    ((inner.members? st).bind fun s => negate? st negated (fold st s)).map fun s => (.one s, st)
  | .repetition t least most =>
    (t.meaning? st).map fun (e, st) => (e.repeated least most, st)
  | .group changes capturing t =>
    (t.meaning? (st.changes changes)).map fun (e, _) => (if capturing then .capture e else e, st)
  | .alternation ts => Tree.choicesMeaning? st ts
  | .concat ts => Tree.sequenceMeaning? st ts

/-- What patterns one after the other mean. -/
def Tree.sequenceMeaning? (st : Settings) : List Tree → Option (Expr × Settings)
  | [] => some (.empty, st)
  | [t] => t.meaning? st
  | t :: ts => do
    let (e, st) ← t.meaning? st
    let (f, st) ← Tree.sequenceMeaning? st ts
    return (.seq e f, st)

/-- What patterns side by side mean; flags reach from one to the next. -/
def Tree.choicesMeaning? (st : Settings) : List Tree → Option (Expr × Settings)
  | [] => some (.empty, st)
  | [t] => t.meaning? st
  | t :: ts => do
    let (e, st) ← t.meaning? st
    let (f, st) ← Tree.choicesMeaning? st ts
    return (.alt e f, st)

end

end JsonSieve.Pattern
