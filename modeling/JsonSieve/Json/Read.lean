/-
# Reading JSON

The document that a text denotes, by the strict grammar: white space is the blank, the tab and the
two line ends, control characters may not stand in strings, surrogates come in pairs, and containers
nest at most 127 deep.  A name that is repeated in an object keeps its first place and its last
value.

A text that is not a document is `incomplete` when it ends inside a value, and `malformed` when
something stands where it may not, whichever is met first from the left.

Every stage takes the characters that remain and returns what it read with those that follow.  The
grammar settles all but one thing: which number of the double format a decimal becomes is left to a
`Rounding`, which every stage that may meet a number is given.  It has no say in what is a document,
except that a number may be out of its range.
-/
import JsonSieve.Json.Numeral
import JsonSieve.Json.Basic

namespace JsonSieve

/-- Why a text is not a document. -/
inductive ReadError where
  | incomplete
  | malformed
deriving DecidableEq, Repr

namespace Json.Reader

/-! ## 1. Signs and words -/

/-- What may stand between the signs of a document. -/
def isSpace (c : Char) : Bool := c = ' ' || c = '\t' || c = '\n' || c = '\r'

/-- The text without the white space it opens with. -/
def dropSpace (s : List Char) : List Char := s.dropWhile isSpace

/-- What follows a given word, which has to be there in full. -/
def expect : List Char → List Char → Except ReadError (List Char)
  | [], s => .ok s
  | _ :: _, [] => .error .incomplete
  | c :: word, d :: s => if c = d then expect word s else .error .malformed

/-- The error of something missing: the text may have ended, or something else stands there. -/
def missing {α : Type} (s : List Char) : Except ReadError α :=
  .error (if s.isEmpty then .incomplete else .malformed)

/-! ## 2. Strings -/

/-- The value of a digit in base sixteen, in either case. -/
def hexValue? (c : Char) : Option Nat :=
  if c.isDigit then some (c.toNat - '0'.toNat)
  else if 'a' ≤ c && c ≤ 'f' then some (c.toNat - 'a'.toNat + 10)
  else if 'A' ≤ c && c ≤ 'F' then some (c.toNat - 'A'.toNat + 10)
  else none

/-- The number that four digits in base sixteen denote. -/
def hexNumber? (ds : List Char) : Option Nat :=
  (ds.mapM hexValue?).map fun vs => vs.foldl (fun n v => 16 * n + v) 0

/-- A unit of sixteen bits, written as four digits.  The text has ended when fewer than four octets
of its encoding are left. -/
def readUnit (s : List Char) : Except ReadError (Nat × List Char) :=
  let ds := s.take 4
  if ds.foldl (fun size c => size + c.utf8Size) 0 < 4 then .error .incomplete
  else match ds.length == 4, hexNumber? ds with
    | true, some n => .ok (n, s.drop 4)
    | _, _ => .error .malformed

/-- The character that stands for itself or for another one after a backslash. -/
def simpleEscape? (c : Char) : Option Char :=
  match c with
  | '"' => some '"'
  | '\\' => some '\\'
  | '/' => some '/'
  | 'b' => some '\x08'
  | 'f' => some '\x0c'
  | 'n' => some '\n'
  | 'r' => some '\r'
  | 't' => some '\t'
  | _ => none

/-- The character that one unit denotes, or a unit and the one that has to follow it. -/
def readNumbered (s : List Char) : Except ReadError (Char × List Char) := do
  let (high, s) ← readUnit s
  if high < 0xD800 || 0xDFFF < high then .ok (Char.ofNat high, s)
  else if 0xDC00 ≤ high then .error .malformed
  else
    let s ← expect ['\\', 'u'] s
    let (low, s) ← readUnit s
    if 0xDC00 ≤ low && low ≤ 0xDFFF then
      .ok (Char.ofNat (0x10000 + (high - 0xD800) * 0x400 + (low - 0xDC00)), s)
    else .error .malformed

/-- The character that follows a backslash denotes. -/
def readEscape : List Char → Except ReadError (Char × List Char)
  | [] => .error .incomplete
  | c :: s => match simpleEscape? c with
    | some d => .ok (d, s)
    | none => if c = 'u' then readNumbered s else .error .malformed

/-- The characters up to the closing quote.  Each step reads one character or one escape. -/
def readChars : Nat → List Char → Except ReadError (List Char × List Char)
  | 0, _ => .error .incomplete
  | _, [] => .error .incomplete
  | fuel + 1, c :: s =>
    if c = '"' then .ok ([], s)
    else if c.toNat < 0x20 then .error .malformed
    else do
      let (d, s) ← if c = '\\' then readEscape s else .ok (c, s)
      let (ds, s) ← readChars fuel s
      .ok (d :: ds, s)

/-- A string after its opening quote. -/
def readString (s : List Char) : Except ReadError (String × List Char) :=
  (readChars (s.length + 1) s).map fun (cs, rest) => (String.ofList cs, rest)

/-! ## 3. Numbers -/

/-- Whether an integer is kept as one: it is a word of 64 bits, with a sign or without. -/
def isKept (n : Int) : Bool := -(2 ^ 63) ≤ n && n < 2 ^ 64

/-- The power of ten behind an `e`: an optional sign and at least one digit. -/
def readPower (s : List Char) : Except ReadError (Int × List Char) :=
  let (negative, s) := splitSign s
  let (ds, rest) := splitDigits s
  if ds.isEmpty then missing rest else .ok (Binary64.signed negative (digitsValue ds), rest)

section

variable (ρ : Rounding)

/-- The number of the double format that a numeral is taken for; a numeral out of range is an
error. -/
def toFinite (negative : Bool) (w : Numeral) : Except ReadError Number :=
  match ρ.magnitude? w with
  | some m => .ok (.real (.finite negative m))
  | none => .error .malformed

/-- A number written as an integer.  It is taken for a number of the double format if it is no word
of 64 bits, and so is a zero with a minus sign, which is the negative zero. -/
def ofWhole (negative : Bool) (ds : List Char) : Except ReadError Number :=
  let n : Int := Binary64.signed negative (digitsValue ds)
  if isKept n && !(negative && n == 0) then .ok (.integer n)
  else toFinite ρ negative ⟨ds, [], 0⟩

/-- The rest of a number whose digits are known: a power of ten, if there is one. -/
def readScale (negative : Bool) (whole fraction : List Char) (s : List Char) :
    Except ReadError (Number × List Char) := do
  let (power, rest) ← match s with
    | 'e' :: s => readPower s
    | 'E' :: s => readPower s
    | s => .ok (0, s)
  .ok (← toFinite ρ negative ⟨whole, fraction, power⟩, rest)

/-- The rest of a number after the digits of its whole part. -/
def readFraction (negative : Bool) (whole : List Char) :
    List Char → Except ReadError (Number × List Char)
  | '.' :: s =>
    let (fraction, rest) := splitDigits s
    if fraction.isEmpty then missing rest else readScale ρ negative whole fraction rest
  | 'e' :: s => readScale ρ negative whole [] ('e' :: s)
  | 'E' :: s => readScale ρ negative whole [] ('E' :: s)
  | s => (ofWhole ρ negative whole).map fun n => (n, s)

/-- A number after its sign.  A zero that opens the whole part is all of it. -/
def readNumber (negative : Bool) (s : List Char) : Except ReadError (Number × List Char) :=
  match splitDigits s with
  | ([], rest) => missing rest
  | ('0' :: _ :: _, _) => .error .malformed
  | (whole, rest) => readFraction ρ negative whole rest

end

/-! ## 4. Values -/

/-- The members with one more: in the place of the member of that name, or at the end. -/
def put (ms : List (String × Json)) (m : String × Json) : List (String × Json) :=
  if ms.any fun old => old.1 == m.1 then
    ms.map fun old => if old.1 == m.1 then m else old
  else ms ++ [m]

/-- The members of an object, each name once: where it came first, with the value it had last. -/
def settle (ms : List (String × Json)) : List (String × Json) := ms.foldl put []

/-- What stands after the comma of a container, which has to be another part of it. -/
def afterComma (close : Char) (s : List Char) : Except ReadError (List Char) :=
  match dropSpace s with
  | [] => .error .incomplete
  | c :: s => if c = close then .error .malformed else .ok (c :: s)

section

variable (ρ : Rounding)

mutual

/-- A value, when `depth` levels of containers may still be opened. -/
def readValue : Nat → Nat → List Char → Except ReadError (Json × List Char)
  | 0, _, _ => .error .incomplete
  | fuel + 1, depth, s => match dropSpace s with
    | [] => .error .incomplete
    | c :: s => match c with
      | 'n' => (expect ['u', 'l', 'l'] s).map fun s => (.null, s)
      | 't' => (expect ['r', 'u', 'e'] s).map fun s => (.bool true, s)
      | 'f' => (expect ['a', 'l', 's', 'e'] s).map fun s => (.bool false, s)
      | '"' => (readString s).map fun (t, s) => (.string t, s)
      | '-' => (readNumber ρ true s).map fun (n, s) => (.number n, s)
      | '[' => match depth with
        | 0 => .error .malformed
        | depth + 1 => match dropSpace s with
          | [] => .error .incomplete
          | ']' :: s => .ok (.array [], s)
          | s => (readElements fuel depth s).map fun (es, s) => (.array es, s)
      | '{' => match depth with
        | 0 => .error .malformed
        | depth + 1 => match dropSpace s with
          | [] => .error .incomplete
          | '}' :: s => .ok (.object [], s)
          | s => (readMembers fuel depth s).map fun (ms, s) => (.object (settle ms), s)
      | c => if c.isDigit then (readNumber ρ false (c :: s)).map fun (n, s) => (.number n, s)
        else .error .malformed

/-- The elements of an array up to its end; there is at least one. -/
def readElements : Nat → Nat → List Char → Except ReadError (List Json × List Char)
  | 0, _, _ => .error .incomplete
  | fuel + 1, depth, s => do
    let (e, s) ← readValue fuel depth s
    match dropSpace s with
    | [] => .error .incomplete
    | ']' :: s => .ok ([e], s)
    | ',' :: s =>
      let (es, s) ← readElements fuel depth (← afterComma ']' s)
      .ok (e :: es, s)
    | _ => .error .malformed

/-- The members of an object up to its end; there is at least one. -/
def readMembers : Nat → Nat → List Char → Except ReadError (List (String × Json) × List Char)
  | 0, _, _ => .error .incomplete
  | fuel + 1, depth, s => do
    let (k, s) ← readString (← expect ['"'] s)
    let s ← expect [':'] (dropSpace s)
    let (v, s) ← readValue fuel depth s
    match dropSpace s with
    | [] => .error .incomplete
    | '}' :: s => .ok ([(k, v)], s)
    | ',' :: s =>
      let (ms, s) ← readMembers fuel depth (← afterComma '}' s)
      .ok ((k, v) :: ms, s)
    | _ => .error .malformed

end

end

/-- How many levels of containers a document may have. -/
def maxDepth : Nat := 127

end Json.Reader

open Json.Reader in
/-- The document that a text denotes, if its decimals are rounded in a given way.  Every step reads
a character or is followed by one that does, so twice the length of the text bounds the steps. -/
def Json.read (ρ : Rounding) (text : String) : Except ReadError Json := do
  let s := text.toList
  let (v, rest) ← readValue ρ (2 * s.length + 2) maxDepth s
  if (dropSpace rest).isEmpty then .ok v else .error .malformed

end JsonSieve
