/-
# Numerals and how they are rounded

A number of a document is either kept as the integer it is written as, or it becomes a number of the
double format.  The grammar of JSON says which characters make up a number; it does not say which
number of the format is meant by a decimal that is none of them.  Readers differ there, and so the
rounding is a parameter of everything that reads a document:

* `Rounding.nearest` takes the number of the format that is nearest to the decimal, halfway cases to
  the even neighbour.
* `Rounding.bestEffort` is what the program runs with.  It is how its JSON library builds a number
  from its parts (`f64_from_parts`) unless it is asked for more: the digits are gathered into a word
  of 64 bits, the word is rounded, and the result is multiplied with, or divided by, a power of ten,
  which is rounded as well.  Each of the steps is correct, but their errors add up, so that a
  decimal of sixteen or seventeen digits may be read as a neighbour of the number it stands for.

What a statement needs of a rounding it names as a hypothesis: mostly that the decimal which is
written for a number is read as that number again.  `nearest` always does so, `bestEffort` for most
numbers.
-/
import JsonSieve.Binary64.Read

namespace JsonSieve

/-! ## 1. Numerals -/

/-- A number as it is written, without its sign: the digits before the point, the digits behind it,
and the power of ten behind an `e`. -/
structure Numeral where
  whole : List Char
  fraction : List Char
  power : Int
deriving DecidableEq, Repr

/-- The decimal that a numeral denotes. -/
def Numeral.value (w : Numeral) : Decimal :=
  ⟨digitsValue (w.whole ++ w.fraction), w.power - w.fraction.length⟩

/-- How numerals become numbers of the double format: the count of units that a numeral is taken
for, unless it is out of range.  The sign of a number has no part in it. -/
structure Rounding where
  magnitude? : Numeral → Option Magnitude

namespace Rounding

/-- Every numeral is taken for the count that is nearest to the decimal it denotes. -/
def nearest : Rounding := ⟨fun w => w.value.magnitude?⟩

@[simp] theorem magnitude?_nearest (w : Numeral) : nearest.magnitude? w = w.value.magnitude? := rfl

/-! ## 2. Rounding by parts -/

/-- Reads digits onto a number while it stays below `2⁶⁴`, and says which digits are left.  The
first digit that does not fit ends it, as `parse_integer` and `parse_decimal` have it. -/
def gather : Nat → List Char → Nat × List Char
  | n, [] => (n, [])
  | n, c :: cs =>
    let m := 10 * n + (c.toNat - '0'.toNat)
    if m < 2 ^ 64 then gather m cs else (n, c :: cs)

/-- The power of ten as a number of the format, which it is exactly up to `10²²`. -/
def tenPower? (e : Nat) : Option Magnitude := Magnitude.ofNat? (10 ^ e)

/-- A count divided by `10³⁰⁸` so many times and then by another power of ten.  A count that has
become zero stays one. -/
def divided (e : Nat) : Nat → Magnitude → Option Magnitude
  | 0, m => (tenPower? e).bind m.over?
  | steps + 1, m =>
    if m.units = 0 then some .zero
    else ((tenPower? 308).bind m.over?).bind (divided e steps)

/-- A count scaled by a power of ten.  The powers at hand end with `10³⁰⁸`: above it every count but
zero is out of range, and below `10⁻³⁰⁸` the division is done in steps. -/
def scaled? (m : Magnitude) : Int → Option Magnitude
  | .ofNat e =>
    if e ≤ 308 then (tenPower? e).bind m.times?
    else if m.units = 0 then some .zero else none
  | .negSucc e => divided (e % 308 + 1) (e / 308) m

/-- The digits are gathered into a word, the word is rounded, and what was found is scaled.  Whole
digits that do not fit into the word count for the scale; those behind the point are ignored. -/
def bestEffort : Rounding where
  magnitude? w :=
    let (n, dropped) := gather 0 w.whole
    let (n, ignored) := gather n w.fraction
    let taken : Nat := w.fraction.length - ignored.length
    (Magnitude.ofNat? n).bind fun m => scaled? m (w.power + dropped.length - taken)

end Rounding
end JsonSieve
