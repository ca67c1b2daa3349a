/-
# The manual

The pages on the query language, and the page that lists them.  A page is found under several names.
-/
import JsonSieve.Text.Character

namespace JsonSieve.Command

/-! ## 1. Pages -/

/-- Lines of text, each with its end. -/
def lines (ls : List String) : String := String.join (ls.map fun l => l ++ "\n")

/-- The page that lists the others. -/
def overviewPage : String :=
  lines
  ["JSONQ DOCUMENTATION",
   "",
   "jsonq compiles a compact query into a tree that admits nodes of a JSON",
   "document by filters and projects the fields it names.",
   "",
   "DOCUMENTATION CATEGORIES",
   "",
   "  syntax            Bodies, nested queries and filter blocks",
   "  operators         Filter operators, literal typing and array folds",
   "  evaluation        What check, keep, retrieve and search produce",
   "",
   "QUICK REFERENCE",
   "",
   "  \x7ba,b\x7d                 Keep fields a and b",
   "  \x7ba,b\x7bc\x7d\x7d              Keep a, and c inside b",
   "  (x > 1)\x7ba\x7d            Admit only nodes whose x is above 1",
   "  \x7bitems(qty >= 2)\x7bid\x7d\x7d Filter the elements of items",
   "",
   "Run 'jsonq doc <category>' for detailed documentation."]

/-- How a query is built. -/
def grammarPage : String :=
  lines
  ["SYNTAX - Query Structure",
   "",
   "GRAMMAR",
   "  query       := name? filterblock? '\x7b' body '\x7d'",
   "  filterblock := '(' clause ('&&' clause)* ')'",
   "  clause      := key operator literal",
   "  body        := item (',' item)*",
   "  item        := field | query",
   "",
   "BODY",
   "  \x7ba,b,c\x7d",
   "    Fields to keep, in this order.",
   "",
   "    Example:",
   "      Input:  \x7b\"c\": 3, \"a\": 1, \"b\": 2\x7d",
   "      Query:  \x7ba,b,c\x7d",
   "      Output: \x7b\"a\":1,\"b\":2,\"c\":3\x7d",
   "",
   "NESTED QUERIES",
   "  \x7bperson\x7bname\x7bfull\x7d\x7d\x7d",
   "    A field followed by a body is a nested query on that field.",
   "",
   "    Constraints:",
   "      - A nested query must be named by its field",
   "      - A field may appear only once per body",
   "",
   "FILTER BLOCKS",
   "  users(age >= 18 && name : \"leo\")\x7bname\x7d",
   "    Clauses joined by && must all hold for a node to be admitted.",
   "",
   "    Constraints:",
   "      - Quoted literals use double quotes",
   "      - An empty block () is an error"]

/-- What the operators compare. -/
def operatorsPage : String :=
  lines
  ["OPERATORS - Filter Comparisons",
   "",
   "EQUALITY",
   "  ===   Strict equal: numbers by value, strings exactly, booleans, null",
   "  ==    Loose equal: as ===, except the string literal need only appear",
   "        inside the field's string",
   "  !==   Different: same type, different value",
   "  !=    Different: same type, different value",
   "",
   "ORDERING",
   "  >  >=  <  <=",
   "    Numbers by value (integers and floats mix), strings by code point.",
   "    Booleans and null never compare.",
   "",
   "TEXT",
   "  :     Field contains the literal, ignoring case",
   "  !:    Field does not contain the literal, ignoring case",
   "  ::    Field matches the literal as a regular expression, ignoring case",
   "  !::   Field does not match the regular expression",
   "",
   "  A pattern that does not compile never matches.",
   "",
   "LITERALS",
   "  true false null     Keywords (case-sensitive)",
   "  42 -7               Integers",
   "  2.5 1e3             Floats",
   "  \"text\"              Strings; quotes are removed before comparing",
   "  text                Bare strings",
   "",
   "ARRAYS",
   "  A filter on an array field compares each element.",
   "    ===  !==  !:  !::               every element must pass",
   "    ==  !=  >  >=  <  <=  :  ::     one element is enough",
   "",
   "  Arrays of objects, nested arrays, or arrays mixing types never pass."]

/-- What the commands print. -/
def evaluationPage : String :=
  lines
  ["EVALUATION - Commands",
   "",
   "check <query>",
   "  Prints true when the document is admitted: an array when any element",
   "  is (never when empty), an object when its filters hold and every nested",
   "  query is admitted by a field that is present.",
   "  Exits with status 1 otherwise.",
   "",
   "keep <query>",
   "  Prints the projection of the document. Array elements rejected by the",
   "  filters are dropped; a rejected top-level object prints nothing.",
   "",
   "retrieve <query>",
   "  As keep, without testing the filters on the top-level object. Elements",
   "  of a top-level array are still filtered.",
   "",
   "search <a.b.c>",
   "  Prints every scalar found along the dotted path, flattening arrays.",
   "",
   "compile <query>",
   "  Validates the query and prints its compiled tree."]

/-! ## 2. Topics -/

/-- What there is a page on. -/
inductive Topic where
  | grammar
  | operators
  | evaluation
deriving DecidableEq, Repr

/-- The page on a topic. -/
def Topic.page : Topic → String
  | grammar => grammarPage
  | operators => operatorsPage
  | evaluation => evaluationPage

/-- A name without regard to case, in which hyphens and underscores are the same. -/
def topicKey (name : String) : String :=
  String.ofList ((Text.lowercase name.toList).map fun c => if c = '-' then '_' else c)

/-- The topic that goes by a name. -/
def Topic.ofName? (name : String) : Option Topic :=
  match topicKey name with
  | "syntax" | "grammar" => some grammar
  | "operators" | "ops" | "filters" => some operators
  | "evaluation" | "eval" | "commands" => some evaluation
  | _ => none

end JsonSieve.Command
