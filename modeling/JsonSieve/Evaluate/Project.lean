/-
# Projection

What a query keeps of a document.  An array keeps the projections of those elements that are
admitted, an object the fields that the query takes, as they are, and then the projections of those
it descends into; an object on which a clause fails is rejected.  A scalar is kept as it is, but a
query may not ask for fields of one.

This is the meaning of a projection, as a tree.  The program never builds the tree: it writes the
text of a projection in one pass, which is `Query.keep` of the module beside this one, and that the
two agree is a theorem.
-/
import JsonSieve.Evaluate.Basic

namespace JsonSieve

/-! ## 1. Arrays -/

namespace Json

mutual

/-- Replaces every leaf of a value, dropping the leaves for which there is no replacement.  An array
is never dropped, also if nothing is left in it. -/
def filterLeaves {ε : Type} (f : Json → Except ε (Option Json)) : Json → Except ε (Option Json)
  | array es => do return some (array (← filterLeavesOf f es))
  | v => f v

/-- Replaces every leaf of several values. -/
def filterLeavesOf {ε : Type} (f : Json → Except ε (Option Json)) : List Json → Except ε (List Json)
  | [] => return []
  | e :: es => do
    let kept ← filterLeaves f e
    let rest ← filterLeavesOf f es
    return kept.toList ++ rest

end

end Json

namespace Query

/-! ## 2. Objects -/

/-- The members that the node takes from an object, in the order of the query.  A field that is not
there is passed over. -/
def taken (q : Query) (v : Json) : List (String × Json) :=
  q.fields.filterMap fun name => (v.get? name).map fun field => (name, field)

/-- A scalar below a query, which may ask nothing of it: it is kept as it is by a bare query, and
anything else is an error under the name that the scalar goes by. -/
def projectScalar (q : Query) (name : String) (v : Json) : Except EvalError (Option Json) :=
  if q.isBare then .ok (some v) else .error (.unexpectedKind name .object v.kind)

mutual

/-- What a query keeps of the document that goes by a name; nothing, if it is rejected.  The
elements of an array go by the name of the array. -/
def project (name : String) (v : Json) : Query → Except EvalError (Option Json)
  | node fs ns qs => v.filterLeaves fun leaf => match leaf with
    | .object _ =>
      if (node fs ns qs).clausesHold leaf then do
        return some (.object ((node fs ns qs).taken leaf ++ (← projectNested leaf qs)))
      else return none
    | _ => (node fs ns qs).projectScalar name leaf

/-- The members that nested queries keep of an object. -/
def projectNested (v : Json) : List (String × Query) → Except EvalError (List (String × Json))
  | [] => return []
  | (name, q) :: qs => do
    let kept ← match v.get? name with
      | some field => project name field q
      | none => pure none
    let rest ← projectNested v qs
    return (kept.map fun field => (name, field)).toList ++ rest

end

/-- What a query keeps of a document. -/
def projection (q : Query) (v : Json) : Except EvalError (Option Json) := q.project rootName v

end Query
end JsonSieve
