/-
# The tokens of a query

How a query is cut into tokens, from a cursor on the text.  There are two ways to go on from a
cursor: `token` reads what the structure of a query is made of, and `literal` reads the literal that
follows an operator, for which almost every character may be used.

Both skip blanks first, and both say where the cursor stands afterwards, also when they fail:

* an unexpected character is not passed over;
* a run of symbol characters that is no operator is;
* a literal without its closing quote takes the rest of the text.

The caller decides which way to go.  A literal is asked for right behind an operator and nowhere
else, so the two sets of characters never compete.
-/
import JsonSieve.Query.Operator
import JsonSieve.Text.Basic

namespace JsonSieve

/-! ## 1. Tokens and errors -/

/-- A piece of the structure of a query.  Literals are none: they are read in a way of their own. -/
inductive Token where
  | word (w : String)
  | operator (op : Operator)
  | both
  | openBrace
  | closeBrace
  | openParen
  | closeParen
  | comma
  | ending
deriving DecidableEq, Repr

/-- How a token is named in a message: a word as it is, all else by its sign. -/
def Token.shown : Token → String
  | word w => "'" ++ w ++ "'"
  | operator op => "operator '" ++ op.symbol ++ "'"
  | both => "'&&'"
  | openBrace => "'\x7b'"
  | closeBrace => "'\x7d'"
  | openParen => "'('"
  | closeParen => "')'"
  | comma => "','"
  | ending => "end of input"

/-- Why a text could not be cut at some offset (`LexError`).  Offsets count characters. -/
inductive TokenError where
  | unexpected (c : Char) (offset : Nat)
  | notAnOperator (symbol : String) (offset : Nat)
  | unclosed (fragment : String) (offset : Nat)
deriving DecidableEq, Repr

/-- A place in the text, as a message names it. -/
def place (offset : Nat) : String := "position " ++ toString offset

/-- The wording of an error. -/
def TokenError.message : TokenError → String
  | unexpected c offset => "unexpected character '" ++ c.toString ++ "' at " ++ place offset
  | notAnOperator symbol offset => "unrecognized operator '" ++ symbol ++ "' at " ++ place offset
  | unclosed fragment offset =>
    "unterminated quoted literal '" ++ fragment ++ "' starting at " ++ place offset

/-! ## 2. Characters -/

/-- A character with a meaning of its own in a query, inside of literals without quotes as well. -/
def isPunctuation (c : Char) : Bool :=
  c = '\x7b' || c = '\x7d' || c = '(' || c = ')' || c = '&' || c = '"'

/-- A character that a literal without quotes may be made of (`is_literal_char`): symbols and commas
are among them. -/
def isLiteralChar (c : Char) : Bool := !Text.isBlank c && !isPunctuation c

/-- A character that a name may be made of (`is_word_char`). -/
def isWordChar (c : Char) : Bool := isLiteralChar c && !Operator.isSymbolChar c && c != ','

/-! ## 3. Cursors -/

/-- A place in a text: how many characters are behind it, and the characters ahead.  The characters
behind are not kept, since no stage goes back further than to a cursor that it has. -/
structure Cursor where
  offset : Nat
  rest : List Char
deriving DecidableEq, Repr

namespace Cursor

/-- The cursor before the first character of a text. -/
def start (text : String) : Cursor := ⟨0, text.toList⟩

/-- The cursor so many characters further on (`advance`). -/
def skip (c : Cursor) (n : Nat) : Cursor := ⟨c.offset + n, c.rest.drop n⟩

/-- The characters that come next and are all of a kind (`read_while`, without the move). -/
def run (c : Cursor) (p : Char → Bool) : List Char := c.rest.takeWhile p

/-- The cursor behind the blanks that come next (`skip_whitespace`). -/
def skipBlanks (c : Cursor) : Cursor := c.skip (c.run Text.isBlank).length

/-- How many characters a quoted literal has after its opening quote, the closing quote included
(`read_quoted`).  A backslash keeps the character after it from closing the literal. -/
def quotedLength? : List Char → Option Nat
  | [] => none
  | '"' :: _ => some 1
  | '\\' :: _ :: s => (quotedLength? s).map (· + 2)
  | _ :: s => (quotedLength? s).map (· + 1)

/-- The token that comes next, and the cursor behind it (`next_token`).  A single `&` is no token
and is not passed over; a run of symbol characters is taken whole (`read_operator`). -/
def token (c : Cursor) : Except TokenError Token × Cursor :=
  let c := c.skipBlanks
  match c.rest with
  | [] => (.ok .ending, c)
  | '\x7b' :: _ => (.ok .openBrace, c.skip 1)
  | '\x7d' :: _ => (.ok .closeBrace, c.skip 1)
  | '(' :: _ => (.ok .openParen, c.skip 1)
  | ')' :: _ => (.ok .closeParen, c.skip 1)
  | ',' :: _ => (.ok .comma, c.skip 1)
  | '&' :: '&' :: _ => (.ok .both, c.skip 2)
  | first :: _ =>
    if Operator.isSymbolChar first then
      let symbol := c.run Operator.isSymbolChar
      match Operator.ofSymbol? (String.ofList symbol) with
      | some op => (.ok (.operator op), c.skip symbol.length)
      | none => (.error (.notAnOperator (String.ofList symbol) c.offset), c.skip symbol.length)
    else if isWordChar first then
      let word := c.run isWordChar
      (.ok (.word (String.ofList word)), c.skip word.length)
    else (.error (.unexpected first c.offset), c)

/-- The literal that comes next, quotes included, and the cursor behind it (`read_literal`).  The
literal is empty if the next character cannot be part of one. -/
def literal (c : Cursor) : Except TokenError String × Cursor :=
  let c := c.skipBlanks
  match c.rest with
  | '"' :: s => match quotedLength? s with
    | some n => (.ok (String.ofList (c.rest.take (n + 1))), c.skip (n + 1))
    | none => (.error (.unclosed (String.ofList c.rest) c.offset), c.skip c.rest.length)
  | _ =>
    let bare := c.run isLiteralChar
    (.ok (String.ofList bare), c.skip bare.length)

/-- The token that comes next, found without moving (`peek_token`): the cursor stays also when there
is none. -/
def peek (c : Cursor) : Except TokenError Token × Cursor := (c.token.1, c)

/-- The characters between two cursors on the same text. -/
def between (c d : Cursor) : List Char := c.rest.take (d.offset - c.offset)

end Cursor

/-- The part of a text between two offsets, cut off at the end of the text (`fragment`). -/
def fragment (text : String) (start stop : Nat) : String :=
  String.ofList ((text.toList.take stop).drop start)

end JsonSieve
