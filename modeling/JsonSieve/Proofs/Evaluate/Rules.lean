/-
# Evaluation, rule by rule

The rules of a projection as equations: what it is of an array, of an object and of a scalar.  An
array is projected element by element; `project_array`, `project_object` and `project_scalar` are
the rules, and everything that is proved about projections starts from them or from `projectLeaf`,
the projection of what is not an array.

The rules of admission are equations of the same kind: an array is admitted when one of its elements
is (`check_array`), an object when all clauses hold of it and every nested query admits the field of
its name (`check_object`), and a scalar always (`check_scalar`).
-/
import JsonSieve.Evaluate.Project
import JsonSieve.Proofs.Json.Tree

namespace JsonSieve

/-! ## 1. Results -/

namespace Json

/-- Whether a value is an array. -/
def isArray : Json → Bool
  | array _ => true
  | _ => false

variable {ε : Type} {f : Json → Except ε (Option Json)}

theorem filterLeaves_of_not_array {v : Json} (h : v.isArray = false) : v.filterLeaves f = f v := by
  cases v with
  | array es => cases h
  | _ => rfl

theorem filterLeaves_array (es : List Json) :
    (array es).filterLeaves f = (filterLeavesOf f es).map fun ws => some (array ws) := by
  rw [filterLeaves]
  rfl

theorem filterLeavesOf_eq (es : List Json) :
    filterLeavesOf f es = (es.mapM (filterLeaves f)).map (List.filterMap id) := by
  induction es with
  | nil => rfl
  | cons e es ih =>
    rw [filterLeavesOf, ih, List.mapM_cons]
    cases e.filterLeaves f with
    | error err => rfl
    | ok kept =>
      cases es.mapM (filterLeaves f) with
      | error err => rfl
      | ok rest => cases kept <;> simp [Except.map, bind, Except.bind, pure, Except.pure]

end Json

namespace Query

/-! ## 2. Projections -/

variable {name : String}

/-- What a query keeps of a value that is not an array. -/
def projectLeaf (name : String) (q : Query) (v : Json) : Except EvalError (Option Json) :=
  match v with
  | .object _ =>
    if q.clausesHold v then
      (projectNested v q.nested).map fun ms => some (.object (q.taken v ++ ms))
    else .ok none
  | _ => q.projectScalar name v

theorem project_eq (q : Query) (v : Json) :
    q.project name v = v.filterLeaves (q.projectLeaf name) := by
  obtain ⟨fs, ns, qs⟩ := q
  rw [project]
  rfl

/-- **An array keeps what is kept of its elements,** in their order, and is never rejected. -/
theorem project_array (q : Query) (es : List Json) :
    q.project name (.array es) =
      (es.mapM (q.project name)).map fun kept => some (.array (kept.filterMap id)) := by
  simp only [project_eq, Json.filterLeaves_array, Json.filterLeavesOf_eq]
  cases es.mapM (Json.filterLeaves (q.projectLeaf name)) <;> rfl

/-- **An object on which a clause fails is rejected;** otherwise it keeps its fields and what is
kept of the nested ones. -/
theorem project_object (q : Query) (ms : List (String × Json)) :
    q.project name (.object ms) =
      if q.clausesHold (.object ms) then
        (projectNested (.object ms) q.nested).map fun kept =>
          some (.object (q.taken (.object ms) ++ kept))
      else .ok none := by
  rw [project_eq, Json.filterLeaves_of_not_array rfl, projectLeaf]

/-- **A scalar is kept as it is,** unless something is asked of it. -/
theorem project_scalar (q : Query) {v : Json} (h : v.kind.isScalar) :
    q.project name v =
      if q.isBare then .ok (some v) else .error (.unexpectedKind name .object v.kind) := by
  rw [project_eq]
  cases v with
  | array _ | object _ => cases h
  | _ => rfl

/-- What a nested query keeps of the field of its name: nothing, if the field is missing. -/
def projectField (v : Json) (n : String) (q : Query) : Except EvalError (Option Json) :=
  match v.get? n with
  | some field => q.project n field
  | none => .ok none

theorem projectNested_cons {v : Json} {n : String} {q : Query} {qs : List (String × Query)} :
    projectNested v ((n, q) :: qs) = do
      let kept ← projectField v n q
      let rest ← projectNested v qs
      return (kept.map fun w => (n, w)).toList ++ rest := by
  rw [projectNested, projectField]
  cases v.get? n <;> rfl

theorem projectNested_cons_eq_ok {v : Json} {n : String} {q : Query} {qs : List (String × Query)}
    {ms : List (String × Json)} :
    projectNested v ((n, q) :: qs) = .ok ms ↔
      ∃ kept rest, projectField v n q = .ok kept ∧ projectNested v qs = .ok rest ∧
        ms = (kept.map fun w => (n, w)).toList ++ rest := by
  rw [projectNested_cons]
  cases projectField v n q with
  | error err => simp [bind, Except.bind]
  | ok kept =>
    cases projectNested v qs with
    | error err => simp [bind, Except.bind]
    | ok rest => simp [bind, Except.bind, pure, Except.pure, eq_comm]

/-! ## 3. Values with the same fields -/

section

variable {q : Query} {v w : Json}

/-- The same fields are taken from values that have the same ones. -/
theorem taken_congr (h : ∀ name ∈ q.fields, w.get? name = v.get? name) :
    q.taken w = q.taken v := by
  unfold taken
  revert h
  induction q.fields with
  | nil => exact fun _ => rfl
  | cons name names ih =>
    intro h
    rw [List.filterMap_cons, List.filterMap_cons, h name List.mem_cons_self,
      ih fun n hn => h n (List.mem_cons_of_mem _ hn)]

/-- Nested queries keep the same members of values if each keeps the same of its field. -/
theorem projectNested_congr : ∀ {qs : List (String × Query)},
    (∀ n ∈ qs, projectField w n.1 n.2 = projectField v n.1 n.2) →
    projectNested w qs = projectNested v qs
  | [], _ => rfl
  | (name, q) :: qs, h => by
    rw [projectNested_cons, projectNested_cons, h _ List.mem_cons_self,
      projectNested_congr fun n hn => h n (List.mem_cons_of_mem _ hn)]

end

/-! ## 4. Admission -/

/-- Whether a query admits a value that is not an array. -/
def checkLeaf (q : Query) (v : Json) : Bool :=
  match v with
  | .object _ => q.clausesHold v && checkNested v q.nested
  | _ => true

theorem check_eq (q : Query) (v : Json) : q.check v = v.leaves.any q.checkLeaf := by
  obtain ⟨fs, ns, qs⟩ := q
  rw [check]
  rfl

/-- **An array is admitted** when one of its elements is. -/
theorem check_array (q : Query) (es : List Json) : q.check (.array es) = es.any q.check := by
  rw [check_eq, Json.leaves, Json.leavesOf_eq, List.any_flatMap]
  refine congrArg (List.any es) (funext fun e => ?_)
  rw [check_eq]

/-- **A scalar is admitted** by every query. -/
theorem check_scalar (q : Query) {v : Json} (h : v.kind.isScalar = true) : q.check v = true := by
  rw [check_eq]
  cases v with
  | array _ | object _ => cases h
  | _ => rfl

theorem checkNested_eq (v : Json) : ∀ qs : List (String × Query),
    checkNested v qs = qs.all fun n => (v.get? n.1).any n.2.check
  | [] => rfl
  | (name, q) :: qs => by
    rw [checkNested, checkNested_eq v qs, List.all_cons]
    cases v.get? name <;> rfl

/-- **An object is admitted** when its clauses hold and the fields of the nested queries are there
and admitted. -/
theorem check_object (q : Query) (ms : List (String × Json)) :
    q.check (.object ms) = (q.clausesHold (.object ms) &&
      q.nested.all fun n => ((Json.object ms).get? n.1).any n.2.check) := by
  rw [check_eq, Json.leaves, List.any_cons, List.any_nil, Bool.or_false, checkLeaf,
    checkNested_eq]
  all_goals exact nofun

theorem check_object_iff {q : Query} {ms : List (String × Json)} :
    q.check (.object ms) = true ↔ q.clausesHold (.object ms) = true ∧
      ∀ n ∈ q.nested, ∃ field, (Json.object ms).get? n.1 = some field ∧
        n.2.check field = true := by
  simp only [check_object, Bool.and_eq_true, List.all_eq_true, Option.any_eq_true]

end Query
end JsonSieve
