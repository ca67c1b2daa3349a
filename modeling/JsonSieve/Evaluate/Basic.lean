/-
# Asking a document

What can be asked of a document without writing anything: whether a query admits it, and which
scalars stand along a path of names.  Both look through arrays.  A path asks for what it names and
fails where that is not there; a query that finds nothing admits nothing, and there is no error.

The errors of all evaluation are gathered here, those of a projection among them.
-/
import JsonSieve.Evaluate.Compare

namespace JsonSieve

/-! ## 1. Errors -/

/-- What a query or a path needs a value to be. -/
inductive Demand where
  | object
  | scalar
deriving DecidableEq, Repr

/-- The word for what is needed. -/
def Demand.name : Demand → String
  | object => "object"
  | scalar => "scalar"

/-- Why a document cannot be evaluated (`EvalError`): a value is not of the kind that is needed, or
a path names a field that is not there.  A query may name such a field without harm. -/
inductive EvalError where
  | unexpectedKind (field : String) (needed : Demand) (found : Kind)
  | keyNotFound (key : String)
deriving DecidableEq, Repr

/-- The wording of an error. -/
def EvalError.message : EvalError → String
  | unexpectedKind field needed found =>
    "unexpected value kind for '" ++ field ++ "': expected " ++ needed.name ++ ", found " ++
      found.name
  | keyNotFound key => "key not found: " ++ key

/-- The name under which an error speaks of the document itself (`ROOT`). -/
def rootName : String := "$"

namespace Query

/-! ## 2. Admission -/

/-- Whether all clauses of the node hold of an object (`admits` of a node). -/
def clausesHold (q : Query) (v : Json) : Bool := q.filters.all fun f => f.admits v

mutual

/-- Whether a query admits a document (`check`).  An array is admitted when one of its elements is,
so an empty one never is.  An object is admitted when all clauses hold of it and every nested query
admits the field of its name, which has to be there.  A scalar has nothing to test and is always
admitted. -/
def check (v : Json) : Query → Bool
  | node fs ns qs => v.leaves.any fun leaf => match leaf with
    | .object _ => (node fs ns qs).clausesHold leaf && checkNested leaf qs
    | _ => true

/-- Whether every nested query admits the field of its name. -/
def checkNested (v : Json) : List (String × Query) → Bool
  | [] => true
  | (name, q) :: qs =>
    (match v.get? name with
      | some field => check field q
      | none => false) && checkNested v qs

end

end Query

/-! ## 3. Search -/

namespace Json

/-- The scalars found along a path from a value that goes by a name (`search_into`).  Arrays on the
way are looked through, so each name is asked of every leaf.  A leaf that cannot be asked is an
error, the first one from the left: an object without the field, a scalar before the path has ended,
or an object where it ends. -/
def searchFrom (name : String) (v : Json) : List String → Except EvalError (List Scalar)
  | [] => v.leaves.mapM fun leaf => match leaf.scalar? with
    | some s => .ok s
    | none => .error (.unexpectedKind name .scalar leaf.kind)
  | key :: keys => do
    let found ← v.leaves.mapM fun leaf => match leaf with
      | .object _ => match leaf.get? key with
        | some field => field.searchFrom key keys
        | none => .error (.keyNotFound key)
      | _ => .error (.unexpectedKind key .object leaf.kind)
    return found.flatten

/-- The scalars found along a path (`search`). -/
def search (v : Json) (keys : List String) : Except EvalError (List Scalar) :=
  v.searchFrom rootName keys

end Json
end JsonSieve
