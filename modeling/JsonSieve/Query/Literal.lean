/-
# Literals

The right-hand side of a filter clause.  The token is typed by its looks: a keyword, an integer of
64 bits, a number of the double format, and otherwise a text, which keeps the quotes it was written
in until its content is asked for.
-/
import JsonSieve.Binary64.Read
import JsonSieve.Binary64.Shortest

namespace JsonSieve

/-! ## 1. Quotes -/

/-- The text with every backslash resolved into the character it protects (the loop of `unquote`);
one at the end of the text protects nothing and is dropped. -/
def resolveEscapes : List Char → List Char
  | '\\' :: c :: s => c :: resolveEscapes s
  | ['\\'] => []
  | c :: s => c :: resolveEscapes s
  | [] => []

/-- The text without one pair of quotes around it, the escapes between them resolved (`unquote`).  A
text that is not between quotes is left as it is, backslashes included. -/
def unquote : List Char → List Char
  | '"' :: s => if s.getLast? = some '"' then resolveEscapes s.dropLast else '"' :: s
  | s => s

/-- A text with a backslash before every quote and every backslash. -/
def protect : List Char → List Char
  | [] => []
  | c :: s => if c = '"' || c = '\\' then '\\' :: c :: protect s else c :: protect s

/-- **Resolving escapes undoes protecting.** -/
theorem resolveEscapes_protect : ∀ s : List Char, resolveEscapes (protect s) = s
  | [] => rfl
  | c :: s => by
    have ih := resolveEscapes_protect s
    unfold protect
    split
    · simp [resolveEscapes, ih]
    · next h =>
      have hc : c ≠ '\\' := fun e => by simp [e] at h
      rw [resolveEscapes, ih]
      · exact fun _ _ e => absurd e hc
      · exact fun e => absurd e hc

/-- **A protected text between quotes has the text itself as its content.** -/
theorem unquote_protect (s : List Char) : unquote ('"' :: protect s ++ ['"']) = s := by
  simp [unquote, resolveEscapes_protect]

/-! ## 2. Typed tokens -/

/-- The constant that a clause compares with (`Literal`).  A text is kept verbatim: its quotes are
only taken off when its content is asked for. -/
inductive Literal where
  | bool (b : Bool)
  | null
  | integer (n : Int)
  | real (x : Binary64)
  | text (token : String)
deriving DecidableEq

namespace Literal

/-- The literal that a token is (`typed`): the three keywords are matched with their case, then a
word of 64 bits is tried, then a number of the double format, and whatever is left is a text.
Infinities and NaN are numbers of the format, so words that spell them are no texts. -/
def typed (token : String) : Literal :=
  if token = "true" then bool true
  else if token = "false" then bool false
  else if token = "null" then null
  else match readWord? token.toList with
    | some n => integer n
    | none => match Binary64.read? token.toList with
      | some x => real x
      | none => text token

/-- The number in the double format, for a number (`as_f64`); an integer is rounded to it. -/
def toReal? : Literal → Option Binary64
  | integer n => some (.ofInt n)
  | real x => some x
  | _ => none

/-- The literal as it is shown; a text keeps its quotes. -/
def shown : Literal → String
  | bool b => if b then "true" else "false"
  | null => "null"
  | integer n => String.ofList (Layout.integer n)
  | real x => x.plainText
  | text token => token

/-- What a literal says (`text`): a text without its quotes, anything else as it is shown. -/
def content : Literal → String
  | text token => String.ofList (unquote token.toList)
  | l => l.shown

end Literal
end JsonSieve
