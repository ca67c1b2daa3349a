/-
# Reading queries

A query from its text, by descent along its grammar:

    query   = [ word ] [ '(' clause { '&&' clause } ')' ] body
    clause  = word operator literal
    body    = '{' [ item { ',' item } ] '}'
    item    = word | word [ '(' … ')' ] body

The word before a whole query names nothing and is dropped.  No name may stand twice in one body.

The reader keeps the cursor where it stopped when it fails, so that reading can be taken up again
from there.  Every error carries the part of the text or the offset that it is about.

Each stage follows one function of the recursive descent, from `parse` for a whole query down to
`parse_clause`, and a loop there becomes a stage that is given what comes after one round of it.  No
stage runs out of steps: a round passes over one token at least, so a bound in the number of
characters is enough (`readWhole`).
-/
import JsonSieve.Query.Basic
import JsonSieve.Query.Token
import JsonSieve.Text.Character

namespace JsonSieve

/-! ## 1. Errors -/

/-- What the grammar asks for at a place where something else was found. -/
inductive Expectation where
  | body
  | clauseEnd
  | name
  | itemEnd
deriving DecidableEq, Repr

/-- How an expectation is named in the message of an unexpected token. -/
def Expectation.shown : Expectation → String
  | body => "'\x7b'"
  | clauseEnd => "'&&' or ')'"
  | name => "a field name"
  | itemEnd => "',' or '\x7d'"

/-- Why a text is not a query (`ParseError`).  Each error names the fragment of the text that it is
about, or the place of it, or the names that were read there. -/
inductive QueryError where
  | token (e : TokenError)
  | unclosedBody (fragment : String)
  | unclosedFilter (fragment : String)
  | missingBody (fragment : String)
  | emptyFilter (offset : Nat)
  | missingKey (fragment : String)
  | missingOperator (key : String)
  | missingLiteral (key : String) (op : Operator)
  | missingName (offset : Nat)
  | emptyField (offset : Nat)
  | repeated (name : String)
  | expected (what : Expectation) (found : Token) (offset : Nat)
  | trailing (fragment : String)
deriving DecidableEq, Repr

/-- The wording of an error; that of a token is passed on as it is. -/
def QueryError.message : QueryError → String
  | token e => e.message
  | unclosedBody fragment => "unterminated '\x7b' in '" ++ fragment ++ "'"
  | unclosedFilter fragment => "unterminated '(' in '" ++ fragment ++ "'"
  | missingBody fragment => "query '" ++ fragment ++ "' has no '\x7b...\x7d' body"
  | emptyFilter offset => "empty filter clause at " ++ place offset
  | missingKey fragment => "filter clause '" ++ fragment ++ "' is missing its key"
  | missingOperator key => "filter clause on '" ++ key ++ "' is missing its operator"
  | missingLiteral key op =>
    "filter clause '" ++ key ++ " " ++ op.symbol ++ "' is missing its literal"
  | missingName offset => "nested query at " ++ place offset ++ " has no field name"
  | emptyField offset => "empty field at " ++ place offset
  | repeated name => "field '" ++ name ++ "' is queried twice"
  | expected what found offset =>
    "expected " ++ what.shown ++ ", found " ++ found.shown ++ " at " ++ place offset
  | trailing fragment => "unexpected trailing input '" ++ fragment ++ "'"

namespace Query

/-! ## 2. Moves of the cursor -/

/-- A stage of reading: it moves a cursor and gives an answer or an error. -/
abbrev Reading := EStateM QueryError Cursor

/-- The cursor as it stands. -/
def here : Reading Cursor := get

/-- A way of going on from a cursor, as a stage of reading. -/
def moving {α : Type} (f : Cursor → Except TokenError α × Cursor) : Reading α := fun c =>
  match f c with
  | (.ok a, c) => .ok a c
  | (.error e, c) => .error (.token e) c

/-- The next token, which is passed over (`next_token`). -/
def next : Reading Token := moving Cursor.token

/-- The next token, which is left where it is (`peek_token`). -/
def ahead : Reading Token := moving Cursor.peek

/-- The next literal, which is passed over (`read_literal`). -/
def nextLiteral : Reading String := moving Cursor.literal

/-- The text from a cursor on, up to its end (`rest_from`). -/
def textFrom (c : Cursor) : String := String.ofList c.rest

/-- The text from a cursor to the place reached (`fragment`), without the blanks around it. -/
def textSince (c : Cursor) : Reading String := do
  return String.ofList (Text.trim (c.between (← here)))

/-- Fails because something else was wanted in place of a token just passed over.  The place that
the error names is the one behind that token. -/
def wanted {α : Type} (what : Expectation) (found : Token) : Reading α := do
  throw (.expected what found (← here).offset)

/-! ## 3. Clauses -/

/-- The key of a clause of the query begun at `start`.  A parenthesis or a `&&` in its place makes
the clause an empty one; the end of the text is the fault of the whole filter. -/
def readKey (start : Cursor) : Reading String := do
  let clauseStart ← here
  match ← next with
  | .word key => return key
  | .closeParen | .both => throw (.emptyFilter clauseStart.offset)
  | .ending => throw (.unclosedFilter (textFrom start))
  | _ => throw (.missingKey (← textSince clauseStart))

/-- The operator behind a key.  Anything else is an operator that is missing, the end of the text
included. -/
def readOperator (key : String) : Reading Operator := do
  match ← next with
  | .operator op => return op
  | _ => throw (.missingOperator key)

/-- The literal behind a key and an operator; an empty one is missing.  A literal in quotes is never
empty, since it comes with its quotes. -/
def readLiteral (key : String) (op : Operator) : Reading String := do
  let raw ← nextLiteral
  if raw.isEmpty then throw (.missingLiteral key op) else return raw

/-- One clause of a filter that belongs to the query begun at `start` (`parse_clause`). -/
def readClause (start : Cursor) : Reading Filter := do
  let key ← readKey start
  let op ← readOperator key
  let raw ← readLiteral key op
  return ⟨key, op, raw⟩

/-- What follows a clause: more clauses, or the closing parenthesis. -/
def afterClause (start : Cursor) (more : Reading (List Filter)) : Reading (List Filter) := do
  match ← next with
  | .both => more
  | .closeParen => return []
  | .ending => throw (.unclosedFilter (textFrom start))
  | found => wanted .clauseEnd found

/-- The clauses up to the closing parenthesis (the loop of `parse_filters`).  Each step reads one
clause. -/
def readClauses (start : Cursor) : Nat → Reading (List Filter)
  | 0 => throw (.unclosedFilter (textFrom start))
  | fuel + 1 => do
    let clause ← readClause start
    return clause :: (← afterClause start (readClauses start fuel))

/-- What follows an opening parenthesis: one clause at least.  The error is about the place before
the token that closes the filter at once, blanks before it not passed over. -/
def refuseEmptyFilter : Reading Unit := do
  if (← ahead) == .closeParen then throw (.emptyFilter (← here).offset)

/-- The filter of a query, if there is one: the clauses of `parse_filters` behind an opening
parenthesis. -/
def readFilters (start : Cursor) (fuel : Nat) : Reading (List Filter) := do
  if (← ahead) == .openParen then
    let _ ← next
    refuseEmptyFilter
    readClauses start fuel
  else return []

/-! ## 4. Bodies -/

/-- An item of a body: a field to take, or a field with a query of its own. -/
inductive Item where
  | field (name : String)
  | nested (name : String) (query : Query)

/-- The name that an item begins with. -/
def Item.name : Item → String
  | .field name => name
  | .nested name _ => name

/-- The field that an item takes. -/
def Item.field? : Item → Option String
  | .field name => some name
  | .nested _ _ => none

/-- The nested query that an item is. -/
def Item.nested? : Item → Option (String × Query)
  | .field _ => none
  | .nested name q => some (name, q)

/-- The query with the given clauses and items (`Query::new` on what was collected).  Fields and
nested queries are kept apart, each in the order of the text. -/
def ofItems (fs : List Filter) (items : List Item) : Query :=
  .node fs (items.filterMap Item.field?) (items.filterMap Item.nested?)

/-- The name that an item of a body begins with; `start` is where the body's query began.  A bracket
in its place opens a query without a name, a comma or a closing brace stands behind an empty
item. -/
def readName (start : Cursor) : Reading String := do
  let itemStart ← here
  match ← next with
  | .word name => return name
  | .comma | .closeBrace => throw (.emptyField itemStart.offset)
  | .openBrace | .openParen => throw (.missingName itemStart.offset)
  | .ending => throw (.unclosedBody (textFrom start))
  | found => wanted .name found

/-- Fails if a body has a name already, be it that of a field or of a nested query. -/
def refuseRepeated (taken : List String) (name : String) : Reading Unit :=
  if taken.contains name then throw (.repeated name) else pure ()

/-- The item of a name: with a query of its own, which is to be read, or without.  The next token
decides, which is only looked at. -/
def readItem (name : String) (node : Reading Query) : Reading Item := do
  match ← ahead with
  | .openParen | .openBrace => Item.nested name <$> node
  | _ => return .field name

/-- What follows an item: more items behind a comma, or the closing brace. -/
def afterItem (start : Cursor) (more : Reading (List Item)) : Reading (List Item) := do
  match ← next with
  | .comma => more
  | .closeBrace => return []
  | .ending => throw (.unclosedBody (textFrom start))
  | found => wanted .itemEnd found

/-- The opening brace of the body of the query begun at `start`.  Where the text ends, or the body
around it goes on, the body is missing; any other token is unexpected. -/
def readOpening (start : Cursor) : Reading Unit := do
  match ← next with
  | .openBrace => return
  | .ending | .comma | .closeBrace => throw (.missingBody (← textSince start))
  | found => wanted .body found

/-- What follows an opening brace: the closing one, or items, which are to be read.  So a body may
be empty, although a comma in it may not be the last sign. -/
def readBody (items : Reading (List Item)) : Reading (List Item) := do
  if (← ahead) == .closeBrace then
    let _ ← next
    return []
  else items

mutual

/-- A filter, if there is one, and a body (`parse_query`); `start` is where the query began, its
name included. -/
def readNode (start : Cursor) : Nat → Reading Query
  | 0 => throw (.unclosedBody (textFrom start))
  | fuel + 1 => do
    let fs ← readFilters start fuel
    readOpening start
    return ofItems fs (← readBody (readItems start [] fuel))

/-- The items of a body up to its closing brace (the loop of `parse_body`); `taken` are the names
that it has already. -/
def readItems (start : Cursor) (taken : List String) : Nat → Reading (List Item)
  | 0 => throw (.unclosedBody (textFrom start))
  | fuel + 1 => do
    let itemStart ← here
    let name ← readName start
    refuseRepeated taken name
    let item ← readItem name (readNode itemStart fuel)
    return item :: (← afterItem start (readItems start (name :: taken) fuel))

end

/-! ## 5. Whole queries -/

/-- Passes over the name before a query, if there is one. -/
def skipName : Reading Unit := do
  match ← ahead with
  | .word _ => let _ ← next
  | _ => return

/-- Fails unless nothing but blanks is left. -/
def readEnding : Reading Unit := do
  let tail ← here
  if (← next) == .ending then return
  else throw (.trailing (String.ofList (Text.trim tail.rest)))

/-- A whole query and nothing after it (`parse`). -/
def readWhole : Reading Query := do
  let start ← here
  skipName
  let q ← readNode start (2 * start.rest.length + 2)
  readEnding
  return q

/-- The query that a text denotes (`compile`). -/
def compile (source : String) : Except QueryError Query :=
  match readWhole (.start source) with
  | .ok q _ => .ok q
  | .error e _ => .error e

/-- Compiles a text as often as asked, each time from where the last attempt stopped. -/
def compileOnwards : Nat → Cursor → List (Except QueryError Query)
  | 0, _ => []
  | n + 1, c => match readWhole c with
    | .ok q c => .ok q :: compileOnwards n c
    | .error e c => .error e :: compileOnwards n c

/-! ## 6. Constant queries -/

/-- The report of a constant query that is not well formed.  Its whole text is quoted, so that
nothing in it stays hidden. -/
def refusal (source : String) (e : QueryError) : String :=
  "invalid constant query " ++ Text.quoted source ++ ": " ++ e.message

/-- The query that a constant denotes, or the report that it denotes none (`must_compile`).  Such a
query stands in a program and is known to be well formed, so there is nobody to handle an error. -/
def compileConstant (source : String) : Except String Query :=
  (compile source).mapError (refusal source)

end Query
end JsonSieve
