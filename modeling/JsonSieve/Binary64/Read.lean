/-
# Reading numbers from text

The integer and the floating forms in which a number may be written where text is typed by its
looks: an optional sign of either kind, then digits, digits with a point on either side of which
they may be missing (not on both), an exponent, or one of the words for what is not finite.
-/
import JsonSieve.Binary64.Round

namespace JsonSieve

/-! ## 1. Signs and digits -/

/-- Whether a text begins with a minus sign, and the text without its sign. -/
def splitSign : List Char → Bool × List Char
  | '-' :: s => (true, s)
  | '+' :: s => (false, s)
  | s => (false, s)

/-- The digits a text opens with, and what follows them. -/
def splitDigits (s : List Char) : List Char × List Char :=
  (s.takeWhile Char.isDigit, s.dropWhile Char.isDigit)

/-- The number that a run of decimal digits denotes. -/
def digitsValue (ds : List Char) : Nat := Nat.ofDigitChars 10 ds 0

/-- The natural number a text of digits denotes. -/
def readNatural? (s : List Char) : Option Nat :=
  if s.isEmpty then none else if s.all Char.isDigit then some (digitsValue s) else none

/-- An integer with an optional sign. -/
def readInteger? (s : List Char) : Option Int :=
  let (negative, ds) := splitSign s
  (readNatural? ds).map fun n => if negative then -(n : Int) else n

/-! ## 2. The integers of 64 bits -/

/-- Whether an integer fits a signed word of 64 bits. -/
def fitsWord (n : Int) : Bool := -(2 ^ 63) ≤ n && n < 2 ^ 63

/-- An integer of 64 bits with an optional sign. -/
def readWord? (s : List Char) : Option Int := (readInteger? s).filter fitsWord

/-! ## 3. Decimals -/

/-- The exponent at the end of a decimal: nothing, or an `e` of either case and an integer. -/
def readExponent? : List Char → Option Int
  | [] => some 0
  | c :: s => if c = 'e' || c = 'E' then readInteger? s else none

/-- A decimal without a sign.  There must be a digit before the point or after it. -/
def readDecimal? (s : List Char) : Option Decimal :=
  let (whole, rest) := splitDigits s
  let (fraction, rest) := match rest with
    | '.' :: rest => splitDigits rest
    | rest => ([], rest)
  if whole.isEmpty && fraction.isEmpty then none
  else (readExponent? rest).map fun e => ⟨digitsValue (whole ++ fraction), e - fraction.length⟩

/-- Whether a text is a word of lower-case letters, whatever the case it is written in. -/
def isWordInAnyCase (word : String) (s : List Char) : Bool := s.map Char.toLower == word.toList

namespace Binary64

/-- The number that a text denotes, if it has the form of one. -/
def read? (s : List Char) : Option Binary64 :=
  let (negative, s) := splitSign s
  if isWordInAnyCase "inf" s || isWordInAnyCase "infinity" s then some (.infinite negative)
  else if isWordInAnyCase "nan" s then some .nan
  else (readDecimal? s).map (ofDecimal negative)

end Binary64
end JsonSieve
