/-
# Queries

A compiled query: at each node the clauses that a value must meet to be admitted, the fields to take
from it, and the fields to descend into with a query of their own.  Names are in the order of the
source.  A query is built once and never changed afterwards.

* `filtered` says whether a node or any node below it has a clause;
* `sub?` finds the query of a nested field;
* equality of queries is decidable, node by node;
* `outline` prints a query as an indented list of its parts.

Two things that could be kept in a node are computed from it instead, since nothing can come between
a node and what it was made of: the typed literal and the pattern of a clause (`Filter.literal`,
`Filter.pattern?`), and the flag that a node or one below it is filtered.
-/
import JsonSieve.Query.Operator
import JsonSieve.Query.Literal

namespace JsonSieve

/-! ## 1. Clauses and nodes -/

/-- One clause of a filter: a key, a comparison, and the literal as it was written.  The token stays
beside its typed form because the text operators read it as it was written, so that `0070` stays
`0070`.  Clauses are equal when these three are. -/
structure Filter where
  key : String
  op : Operator
  raw : String
deriving DecidableEq

namespace Filter

/-- The typed literal of a clause, which the equality and order operators compare with. -/
def literal (f : Filter) : Literal := .typed f.raw

/-- The literal as it was written, with one layer of quotes removed (`text` of a clause).  This is
what `:` and `!:` search for, and the pattern of `::` and `!::`. -/
def content (f : Filter) : List Char := unquote f.raw.toList

/-- A clause as it is shown: its three parts with a blank between them. -/
def shown (f : Filter) : String := f.key ++ " " ++ f.op.symbol ++ " " ++ f.raw

end Filter

/-- A node of a compiled query.  The names of its fields and nested queries are distinct if it was
compiled, as the reader refuses a name that it has met in the same body. -/
inductive Query where
  | node (filters : List Filter) (fields : List String) (nested : List (String × Query))

namespace Query

instance : Inhabited Query := ⟨.node [] [] []⟩

/-- The clauses of a node, all of which must hold. -/
def filters : Query → List Filter
  | node fs _ _ => fs

/-- The fields that a node takes (`retrieve` of a node). -/
def fields : Query → List String
  | node _ ns _ => ns

/-- The fields that a node descends into, with their queries (`next` of a node). -/
def nested : Query → List (String × Query)
  | node _ _ qs => qs

/-- The query of a nested field (`sub_query`): the first one that goes by the name. -/
def sub? (q : Query) (name : String) : Option Query :=
  (q.nested.find? fun n => n.1 == name).map Prod.snd

/-- Whether a node takes nothing and descends nowhere (`is_empty_body`).  Only such a node may meet
a scalar. -/
def isBare (q : Query) : Bool := q.fields.isEmpty && q.nested.isEmpty

/-- **A bare node** is one with an empty body: its two lists are empty, whatever its clauses. -/
theorem isBare_iff {q : Query} : q.isBare = true ↔ q.fields = [] ∧ q.nested = [] := by
  simp [isBare]

/-- The query without the clauses of its own node. -/
def unfiltered : Query → Query
  | node _ ns qs => node [] ns qs

mutual

/-- Whether the node or any node below it has a clause (`keep_filters`). -/
def filtered : Query → Bool
  | node fs _ qs => !fs.isEmpty || anyFiltered qs

/-- Whether any of the nested queries has a clause. -/
def anyFiltered : List (String × Query) → Bool
  | [] => false
  | (_, q) :: qs => filtered q || anyFiltered qs

end

theorem anyFiltered_eq : ∀ qs : List (String × Query), anyFiltered qs = qs.any fun n => n.2.filtered
  | [] => rfl
  | (_, q) :: qs => by simp [anyFiltered, anyFiltered_eq qs]

/-! ## 2. Equality -/

mutual

/-- Whether two queries have the same clauses, fields and nested queries. -/
def same : Query → Query → Bool
  | node fs ns qs, node gs ms rs => fs == gs && ns == ms && sameNested qs rs

/-- Whether two lists of nested queries are the same, names and queries, one by one. -/
def sameNested : List (String × Query) → List (String × Query) → Bool
  | [], [] => true
  | (n, q) :: qs, (m, r) :: rs => n == m && same q r && sameNested qs rs
  | _, _ => false

end

mutual

theorem same_iff : ∀ q r : Query, same q r = true ↔ q = r
  | node fs ns qs, node gs ms rs => by
    simp [same, sameNested_iff qs rs, and_assoc]

theorem sameNested_iff : ∀ qs rs : List (String × Query), sameNested qs rs = true ↔ qs = rs
  | [], [] => by simp [sameNested]
  | [], _ :: _ => by simp [sameNested]
  | _ :: _, [] => by simp [sameNested]
  | (n, q) :: qs, (m, r) :: rs => by
    simp [sameNested, same_iff q r, sameNested_iff qs rs, and_assoc]

end

instance : DecidableEq Query := fun q r => decidable_of_iff _ (same_iff q r)

/-! ## 3. The outline -/

/-- A line that stands so many steps from the margin; a step is two blanks. -/
def line (depth : Nat) (text : String) : String :=
  String.ofList (List.replicate (2 * depth) ' ') ++ text ++ "\n"

mutual

/-- The lines of a node that stands so many steps from the margin (`print`): the clauses, the fields
and the nested queries under a heading each, which is there even if nothing stands under it. -/
def outlineAt (depth : Nat) : Query → String
  | node fs ns qs =>
    line depth "filters:" ++ String.join (fs.map fun f => line (depth + 1) ("- " ++ f.shown)) ++
      line depth "retrieve:" ++ String.join (ns.map fun n => line (depth + 1) ("- " ++ n)) ++
      line depth "next:" ++ outlineNested depth qs

/-- The lines of nested queries, each under its name and two steps further in. -/
def outlineNested (depth : Nat) : List (String × Query) → String
  | [] => ""
  | (n, q) :: qs => line (depth + 1) (n ++ ":") ++ outlineAt (depth + 2) q ++ outlineNested depth qs

end

/-- The outline of a query, which is how it is shown. -/
def outline (q : Query) : String := outlineAt 0 q

end Query
end JsonSieve
