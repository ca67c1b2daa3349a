/-
# Characters by the tables of the standard

Two things that are done with a text character by character, but not without looking around or into
a table.

The lower-case form of a whole text is found letter by letter but for two letters: a capital I with
a dot becomes two characters, and a capital sigma has a form of its own at the end of a word.  A
sigma ends a word when a letter with case stands before it and none after it, signs that are passed
over not counted on either side.

A text between quotes is one in which every character can be seen: what has no shape of its own, or
would attach itself to the character before it, is written by its number.
-/
import JsonSieve.Unicode.Property

namespace JsonSieve.Text

open Unicode

/-! ## 1. Lower case -/

/-- The capital sigma. -/
def capitalSigma : Char := 'Σ'

/-- Whether the first character that is not passed over has case.  Apostrophes and combining marks
are passed over, for instance. -/
def nextIsCased (s : List Char) : Bool :=
  match s.dropWhile isPassedOver with
  | [] => false
  | c :: _ => isCased c

/-- The lower-case form of a character, for all but the capital sigma.  It does not depend on what
stands around the character, and it is one character but for the capital I with a dot. -/
def lowerChar (c : Char) : List Char :=
  if c = 'İ' then ['i', '\u0307'] else [Char.ofNat (lower c.toNat)]

/-- The lower-case form of the text ahead; `behind` is the text before it, read backwards. -/
def lowerFrom (behind : List Char) : List Char → List Char
  | [] => []
  | c :: s =>
    (if c = capitalSigma then [if nextIsCased behind && !nextIsCased s then 'ς' else 'σ']
      else lowerChar c) ++ lowerFrom (c :: behind) s

/-- The lower-case form of a text (`to_lowercase`), with which `:` and `!:` ignore case. -/
def lowercase (s : List Char) : List Char := lowerFrom [] s

/-- **Text without a capital sigma is lowered letter by letter.** -/
theorem lowerFrom_eq_flatMap : ∀ (behind s : List Char), capitalSigma ∉ s →
    lowerFrom behind s = s.flatMap lowerChar
  | _, [], _ => rfl
  | behind, c :: s, h => by
    have hc : c ≠ capitalSigma := fun e => h (e ▸ List.mem_cons_self)
    have hs : capitalSigma ∉ s := fun e => h (List.mem_cons_of_mem c e)
    simp [lowerFrom, hc, lowerFrom_eq_flatMap (c :: behind) s hs]

/-! ## 2. Quoted text -/

/-- The characters without a shape of their own, the blank apart. -/
def shapeless : CodeSet :=
  .unions [Category.other, Category.surrogate, Category.separator] \ Addition.assigned

/-- The characters that attach themselves to the one before them. -/
def attached : CodeSet := Property.graphemeExtend ∪ Addition.graphemeExtend

/-- Whether a character is written by its number. -/
def isHidden (c : Char) : Bool := c != ' ' && (shapeless.contains c || attached.contains c)

/-- What stands for a character between quotes: itself, if it can be seen and ends nothing there. -/
def visible (c : Char) : List Char :=
  match c with
  | '\x00' => ['\\', '0']
  | '\t' => ['\\', 't']
  | '\n' => ['\\', 'n']
  | '\r' => ['\\', 'r']
  | '"' => ['\\', '"']
  | '\\' => ['\\', '\\']
  | c =>
    if isHidden c then ['\\', 'u', '\x7b'] ++ Nat.toDigits 16 c.toNat ++ ['\x7d'] else [c]

/-- A text between quotes. -/
def quoted (s : String) : String :=
  String.ofList ('"' :: s.toList.flatMap visible ++ ['"'])

end JsonSieve.Text
