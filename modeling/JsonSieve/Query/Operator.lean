/-
# Operators

The twelve comparisons of a filter clause: the symbol of each, and how it treats an array.

`===` and `==` compare strictly and loosely.  Their negations `!==` and `!=` do not: both ask for a
value that is not the same, and only the way they treat an array tells them apart.  The text
operators `:` and `::` have a negation each.
-/

namespace JsonSieve

/-- A comparison between a field of a document and the literal of a clause.  The names are those of
`Operation`: four of equality, four of order and four of text. -/
inductive Operator where
  /-- `===`: the same value. -/
  | strictEq
  /-- `==`: the same value, or a text with the literal inside it. -/
  | looseEq
  /-- `!==`: a different value of the same sort. -/
  | strictDiff
  /-- `!=`: a different value of the same sort; it folds the other way. -/
  | looseDiff
  /-- `>`: a greater value. -/
  | gt
  /-- `>=`: a greater value or an equal one. -/
  | gte
  /-- `<`: a smaller value. -/
  | lt
  /-- `<=`: a smaller value or an equal one. -/
  | lte
  /-- `:`: a text with the literal inside it, case ignored. -/
  | contains
  /-- `!:`: a text without the literal inside it, case ignored. -/
  | notContains
  /-- `::`: a text in which the pattern is found. -/
  | like
  /-- `!::`: a text in which the pattern is not found. -/
  | notLike
deriving DecidableEq, Repr

/-- How many elements of an array have to satisfy a comparison: all of them, or one at least. -/
inductive Fold where
  | every
  | some
deriving DecidableEq, Repr

namespace Operator

/-- Every operator (`ALL`), those with the longest symbols first. -/
def all : List Operator :=
  [strictEq, strictDiff, notLike, looseEq, looseDiff, gte, lte, notContains, like, gt, lt, contains]

/-- The symbol of an operator (`symbol`), which is also how it is shown. -/
def symbol : Operator → String
  | strictEq => "==="
  | looseEq => "=="
  | strictDiff => "!=="
  | looseDiff => "!="
  | gt => ">"
  | gte => ">="
  | lt => "<"
  | lte => "<="
  | contains => ":"
  | notContains => "!:"
  | like => "::"
  | notLike => "!::"

/-- The operator that a symbol stands for (`from_symbol`): the whole symbol has to be its own, so a
longer run of symbol characters is no operator even if it begins with one. -/
def ofSymbol? (symbol : String) : Option Operator := all.find? fun op => op.symbol == symbol

/-- Strict comparisons and negated text comparisons ask for every element, the others for one
(`fold`).  So the strict ones and the negated text ones hold of an empty array, and the others never
do. -/
def fold : Operator → Fold
  | strictEq | strictDiff | notContains | notLike => .every
  | looseEq | looseDiff | gt | gte | lt | lte | contains | like => .some

/-- Whether an operator reads its literal as a pattern.  Only for these two is a pattern compiled
when a clause is made. -/
def takesPattern : Operator → Bool
  | like | notLike => true
  | _ => false

/-- A character that a symbol may be made of (`is_symbol_char`). -/
def isSymbolChar (c : Char) : Bool := c = '=' || c = '!' || c = '<' || c = '>' || c = ':'

theorem mem_all (op : Operator) : op ∈ all := by cases op <;> decide

/-- **An operator is found by its symbol.** -/
theorem ofSymbol?_symbol (op : Operator) : ofSymbol? op.symbol = some op := by
  cases op <;> decide

/-- **Only an operator's own symbol finds it.** -/
theorem ofSymbol?_eq_some {s : String} {op : Operator} (h : ofSymbol? s = some op) :
    op.symbol = s := by
  simpa using List.find?_some h

/-- Operators with the same symbol are the same. -/
theorem symbol_injective {a b : Operator} (h : a.symbol = b.symbol) : a = b := by
  have := ofSymbol?_symbol a
  rw [h, ofSymbol?_symbol b] at this
  exact (Option.some.inj this).symm

/-- A symbol consists of symbol characters. -/
theorem isSymbolChar_of_mem_symbol (op : Operator) : op.symbol.toList.all isSymbolChar = true := by
  cases op <;> decide

end Operator
end JsonSieve
