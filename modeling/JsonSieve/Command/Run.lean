/-
# Commands

What can be done with a query and a document, given as texts: test the document, print what the
query keeps of it, find the scalars along a path, or only compile the query.

The query is looked at before the document, except in a search, which has a path and no query.  The
numbers of a document are taken in the double format.  How they get there is the business of the
`Rounding`, which the functions that read documents are given; `execute` reads up to two of them,
the input and, if its answer is to be laid out over several lines, that answer.
-/
import JsonSieve.Json.Read
import JsonSieve.Query.Reader
import JsonSieve.Evaluate.Keep

namespace JsonSieve.Command

/-! ## 1. Requests and outcomes -/

/-- What to do (`Command`). -/
inductive Action where
  | check
  | keep
  | retrieve
  | search
  | compile
deriving DecidableEq, Repr

/-- What to do with which texts (`RunOptions`); `query` is a path if a search is asked for. -/
structure Request where
  action : Action
  query : String
  input? : Option String
  indented : Bool
deriving DecidableEq, Repr

/-- What came of a request (`RunResult`). -/
inductive Outcome where
  /-- Whether the document is admitted. -/
  | admitted (b : Bool)
  /-- The JSON text of a projection or of the scalars found. -/
  | json (text : String)
  /-- The document is an object on which a clause fails. -/
  | rejected
  /-- The compiled query. -/
  | compiled (q : Query)

/-- Why nothing came of a request (`CliError`). -/
inductive Failure where
  | query (e : QueryError)
  | evaluation (e : EvalError)
  | document (e : ReadError)
  | noInput
  | unknownTopic (name : String)
deriving DecidableEq, Repr

/-- What is wrong with a text that is no document. -/
def readErrorMessage : ReadError → String
  | .incomplete => "the text ends inside a value"
  | .malformed => "something stands where it may not"

/-- The wording of a failure. -/
def Failure.message : Failure → String
  | query e => "Parse error: " ++ e.message
  | evaluation e => "Evaluation error: " ++ e.message
  | document e => "Invalid JSON: " ++ readErrorMessage e
  | noInput => "No input provided. Use --input or pipe JSON to stdin."
  | unknownTopic name =>
    "Unknown category: '" ++ name ++ "'\nRun 'jsonq docs' to see available categories."

/-! ## 2. Parts -/

section

variable (ρ : Rounding)

/-- The document that a text denotes, its numbers in the double format.  This is `from_json_str`:
the text is read with integers apart from other numbers, and the tree is then converted. -/
def readDocument (text : String) : Except Failure Json :=
  ((Json.read ρ text).map Json.widen).mapError .document

/-- The document of a request (`parse_input`); there has to be one. -/
def Request.document (request : Request) : Except Failure Json :=
  match request.input? with
  | some text => readDocument ρ text
  | none => .error .noInput

/-- A JSON text as it is, or laid out over several lines (`render`).  To be laid out, the text is
read as a document and written again. -/
def layOut (indented : Bool) (text : String) : Except Failure Outcome :=
  if indented then (readDocument ρ text).map fun v => .json v.indented else .ok (.json text)

end

/-- The pieces of a text between dots. -/
def pieces : List Char → List (List Char)
  | [] => [[]]
  | c :: s => match pieces s with
    | piece :: rest => if c = '.' then [] :: piece :: rest else (c :: piece) :: rest
    | [] => [[c]]

/-- The names of a dotted path; a dot too many names nothing. -/
def keysOf (path : String) : List String :=
  ((pieces path.toList).filter fun piece => !piece.isEmpty).map String.ofList

/-- Scalars as a JSON array, each as `write_scalar` has it (the loop of `run_search`). -/
def scalarsText (ss : List Scalar) : String :=
  String.ofList ('[' :: [','].intercalate (ss.map Scalar.jsonText) ++ [']'])

/-! ## 3. Requests -/

section

variable (ρ : Rounding)

/-- A projection, laid out as asked (the end of `run_query`).  That it was rejected shows only by
its text, which is then empty. -/
def projected (indented : Bool) (text : String) : Except Failure Outcome :=
  if text.isEmpty then .ok .rejected else layOut ρ indented text

/-- Does what is asked (`execute`).  A query is compiled before the document is looked at; a search
has no query, and its document is looked at first. -/
def execute (request : Request) : Except Failure Outcome :=
  match request.action with
  | .compile => do return .compiled (← (Query.compile request.query).mapError .query)
  | .search => do
    let v ← request.document ρ
    let ss ← (v.search (keysOf request.query)).mapError .evaluation
    layOut ρ request.indented (scalarsText ss)
  | .check => do
    let q ← (Query.compile request.query).mapError .query
    return .admitted (q.check (← request.document ρ))
  | .keep => do
    let q ← (Query.compile request.query).mapError .query
    projected ρ request.indented (← (q.keep (← request.document ρ)).mapError .evaluation)
  | .retrieve => do
    let q ← (Query.compile request.query).mapError .query
    projected ρ request.indented (← (q.retrieve (← request.document ρ)).mapError .evaluation)

end

end JsonSieve.Command
