/-
# Writing JSON

The text of a document, either in one line or with a line for each element and member.  One printer
does both; what differs is the record `Spacing`.

A number that is whole and below `2⁵³` is written as an integer, whatever form it came in.  Other
finite numbers of the double format are written in the marked layout, and what is not finite, having
no form in JSON, becomes `null`.
-/
import JsonSieve.Json.Basic
import JsonSieve.Binary64.Shortest

namespace JsonSieve

/-! ## 1. Strings -/

/-- A character that is written by its number: those of the category `Cc`. -/
def isControl (c : Char) : Bool := c.toNat < 0x20 || (0x7F ≤ c.toNat && c.toNat < 0xA0)

/-- What stands for a character between the quotes of a string: itself, unless it would end the
string or cannot be seen. -/
def escape (c : Char) : List Char :=
  if c = '"' then ['\\', '"']
  else if c = '\\' then ['\\', '\\']
  else if c = '\n' then ['\\', 'n']
  else if c = '\r' then ['\\', 'r']
  else if c = '\t' then ['\\', 't']
  else if isControl c then
    ['\\', 'u', '0', '0', Nat.digitChar (c.toNat / 16), Nat.digitChar (c.toNat % 16)]
  else [c]

/-- A string between its quotes (`write_string`). -/
def quote (s : String) : List Char := '"' :: s.toList.flatMap escape ++ ['"']

/-! ## 2. Numbers -/

namespace Binary64

/-- The integer that a whole number of at most 53 bits is.  Both zeros are the integer zero. -/
def smallWhole? : Binary64 → Option Int
  | .finite negative m =>
    if m.isWhole && m.ones < 2 ^ 53 then some (signed negative m.ones) else none
  | _ => none

/-- The JSON text of a number (`write_number`).  A whole number that the mantissa holds has no
point, another finite one is written so that the nearest number to the text is the number itself. -/
def jsonText (x : Binary64) : List Char :=
  if x.isFinite then
    match x.smallWhole? with
    | some n => Layout.integer n
    | none => x.layOut .marked
  else ['n', 'u', 'l', 'l']

end Binary64

/-- The JSON text of a scalar (`write_scalar`). -/
def Scalar.jsonText : Scalar → List Char
  | .null => ['n', 'u', 'l', 'l']
  | .bool true => ['t', 'r', 'u', 'e']
  | .bool false => ['f', 'a', 'l', 's', 'e']
  | .integer n => Layout.integer n
  | .real x => x.jsonText
  | .text s => quote s

/-! ## 3. Trees -/

/-- The white space between the signs of a text, which is all that the two ways of printing differ
in (`pretty`). -/
structure Spacing where
  /-- What separates the parts of a container that is so many levels deep. -/
  line : Nat → List Char
  /-- What follows the colon of a member. -/
  afterColon : List Char

namespace Spacing

/-- No white space at all. -/
def compact : Spacing := ⟨fun _ => [], []⟩

/-- A new line for every part, indented by two blanks for every level (`newline`). -/
def indented : Spacing := ⟨fun level => '\n' :: List.replicate (2 * level) ' ', [' ']⟩

end Spacing

namespace Json

mutual

/-- The text of a value that stands so many levels deep (`print_node`).  A container without parts
is two brackets in either spacing, with no line between them. -/
def render (sp : Spacing) (level : Nat) : Json → List Char
  | array [] => ['[', ']']
  | array (e :: es) =>
    '[' :: sp.line (level + 1) ++ render sp (level + 1) e ++ renderElements sp level es
  | object [] => ['{', '}']
  | object ((k, v) :: ms) =>
    '{' :: sp.line (level + 1) ++ quote k ++ ':' :: sp.afterColon ++ render sp (level + 1) v ++
      renderMembers sp level ms
  | null => Scalar.null.jsonText
  | bool b => (Scalar.bool b).jsonText
  | number n => n.toScalar.jsonText
  | string s => quote s

/-- The elements after the first, and the end of the array (the loop of `print_array`). -/
def renderElements (sp : Spacing) (level : Nat) : List Json → List Char
  | [] => sp.line level ++ [']']
  | e :: es =>
    ',' :: sp.line (level + 1) ++ render sp (level + 1) e ++ renderElements sp level es

/-- The members after the first, and the end of the object (the loop of `print_object`). -/
def renderMembers (sp : Spacing) (level : Nat) : List (String × Json) → List Char
  | [] => sp.line level ++ ['}']
  | (k, v) :: ms =>
    ',' :: sp.line (level + 1) ++ quote k ++ ':' :: sp.afterColon ++ render sp (level + 1) v ++
      renderMembers sp level ms

end

/-- The text of a document in one line (`to_json`; `write_node` is the same text behind what has
been written before). -/
def compact (v : Json) : String := String.ofList (v.render .compact 0)

/-- The text of a document over several lines (`to_json_pretty`). -/
def indented (v : Json) : String := String.ofList (v.render .indented 0)

/-- **A scalar is written as its value, whatever the spacing.** -/
theorem render_of_scalar? {v : Json} {s : Scalar} (h : v.scalar? = some s) (sp : Spacing)
    (level : Nat) : v.render sp level = s.jsonText := by
  cases v with
  | array _ | object _ => cases h
  | _ =>
    cases h
    rfl

end Json
end JsonSieve
