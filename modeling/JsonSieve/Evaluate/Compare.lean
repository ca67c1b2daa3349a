/-
# Comparing fields with literals

When a clause holds of a field.  A field is compared as a scalar or, if it is an array of scalars of
one sort, element by element, every element or some element having to satisfy the comparison as the
operator says.  Anything else satisfies none.

A comparison between sorts fails, also a negated one: `!=` asks for a different value of the same
sort.  Text comparisons are of text only; a pattern that is none is neither found nor missing.

Comparisons are total.  Where one of them has no answer, because the sorts differ or a pattern is
none, the helper that it asks has none either (`numbersEqual?`, `orderTo?`, `like?`), and the
comparison is false.  A comparison and its negation ask the same helper.
-/
import JsonSieve.Json.Basic
import JsonSieve.Query.Basic
import JsonSieve.Pattern.Search
import JsonSieve.Text.Character

namespace JsonSieve

/-! ## 1. What is compared -/

/-- A field as a comparison sees it (`Candidate`). -/
inductive Candidate where
  | scalar (s : Scalar)
  | scalars (ss : List Scalar)
  | unsupported
deriving DecidableEq

/-- Whether all scalars are of the sort of the first one.  An array without elements has no first
one, and it takes part in comparisons. -/
def ofOneFamily : List Scalar → Bool
  | [] => true
  | s :: ss => ss.all fun t => t.family == s.family

/-- A value as a comparison sees it (`from_node` of a candidate).  An array with an element that is
no scalar, or with scalars of different sorts, is as good as no value at all. -/
def Candidate.ofJson : Json → Candidate
  | .array es => match es.mapM Json.scalar? with
    | some ss => if ofOneFamily ss then scalars ss else unsupported
    | none => unsupported
  | v => match v.scalar? with
    | some s => scalar s
    | none => unsupported

/-! ## 2. Values -/

/-- Whether two numbers are equal by value (`numbers_equal`): two integers are compared as such, any
other two numbers in the double format. -/
def numbersEqual? : Literal → Scalar → Option Bool
  | .integer a, .integer b => some (a == b)
  | l, s => do return (← l.toReal?).equals (← s.toReal?)

/-- Whether a scalar is the same as a literal, unless they are of different sorts.  This is what
`equals`, if it is strict, and `differs` come to: the one asks for a yes, the other for a no. -/
def sameAs? : Literal → Scalar → Option Bool
  | .bool a, .bool b => some (a == b)
  | .null, .null => some true
  | .text raw, .text s => some (s.toList == unquote raw.toList)
  | l, s => numbersEqual? l s

/-- Whether a scalar loosely equals a literal (`equals`, if it is loose): it is the same, or a text
that holds the literal's characters but for quotes.  Quotes are left out of the literal only, so a
text with a quote in it may fail to equal itself. -/
def looselyEquals : Literal → Scalar → Bool
  | .text raw, .text s => Text.occursIn ((unquote raw.toList).filter (· != '"')) s.toList
  | l, s => sameAs? l s == some true

/-- The order of a scalar relative to a literal (`ordering`), if there is one between them.  Two
integers are compared as such, other numbers in the double format, and texts by code points. -/
def orderTo? : Literal → Scalar → Option Ordering
  | .integer a, .integer b => some (compare b a)
  | .text raw, .text s => some (compare s (String.ofList (unquote raw.toList)))
  | l, s => do (← s.toReal?).compare? (← l.toReal?)

/-! ## 3. Texts -/

/-- Whether a text holds another one, case ignored (`contains`).  Each is lowered by itself, as a
whole text. -/
def containsIgnoringCase (needle s : List Char) : Bool :=
  Text.occursIn (Text.lowercase needle) (Text.lowercase s)

/-- A test of a text, as a test of a scalar: of anything but a text it has no answer. -/
def onText (test : List Char → Bool) : Scalar → Option Bool
  | .text s => some (test s.toList)
  | _ => none

namespace Filter

/-- The pattern of a clause (`pattern`), if its operator takes one and its literal is one. -/
def pattern? (f : Filter) : Option Pattern :=
  if f.op.takesPattern then Pattern.compile? f.content else none

/-- Whether the pattern of a clause is found in a text (`like`).  There is no answer for a scalar
that is no text, and none for any scalar if the pattern is none. -/
def like? (f : Filter) (s : Scalar) : Option Bool :=
  f.pattern?.bind fun p => onText p.foundIn s

/-! ## 4. Clauses -/

/-- Whether a scalar satisfies the comparison of a clause (`compare`).  Operators in pairs share a
helper, and `!==` and `!=` are the same comparison. -/
def compares (f : Filter) (s : Scalar) : Bool :=
  match f.op with
  | .strictEq => sameAs? f.literal s == some true
  | .looseEq => looselyEquals f.literal s
  | .strictDiff | .looseDiff => sameAs? f.literal s == some false
  | .gt => orderTo? f.literal s == some .gt
  | .gte => orderTo? f.literal s == some .gt || orderTo? f.literal s == some .eq
  | .lt => orderTo? f.literal s == some .lt
  | .lte => orderTo? f.literal s == some .lt || orderTo? f.literal s == some .eq
  | .contains => onText (containsIgnoringCase f.content) s == some true
  | .notContains => onText (containsIgnoringCase f.content) s == some false
  | .like => f.like? s == some true
  | .notLike => f.like? s == some false

/-- Whether a field satisfies the comparison of a clause (`apply`, which `matches` of a clause
calls).  An array is folded as the operator says, and no element is compared before that is
settled. -/
def accepts (f : Filter) : Candidate → Bool
  | .scalar s => f.compares s
  | .scalars ss => match f.op.fold with
    | .every => ss.all f.compares
    | .some => ss.any f.compares
  | .unsupported => false

/-- Whether a clause holds of an object (`admits` of a clause): the field of its key is there and
satisfies it.  A field that is missing fails every clause, also a negated one. -/
def admits (f : Filter) (v : Json) : Bool :=
  (v.get? f.key).any fun field => f.accepts (.ofJson field)

end Filter
end JsonSieve
