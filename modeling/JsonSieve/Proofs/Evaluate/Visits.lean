/-
# Where a projection fails

A projection asks a query of a document, then of the elements of an array, or of the fields that the
nested queries descend into.  What is visited on the way is a `Visit`, and `Reaches` says how it is
come upon: by a path of positions among the visits that follow each other.  A visit is at fault
(`Fails`) when something is asked of a scalar.

The result is that faults are all that can go wrong, and that the first one is reported
(`error_iff_first_fault`).  What a projection reports is one error or none, `refusal`.  A visit that
is at fault reports itself, and any other what the first of its followers reports that reports
anything (`refusal_of_fails`, `refusal_of_not_fails`); all else is an induction over visits with
these two equations.  What comes first is said by the lexicographic order of paths.
-/
import Mathlib.Data.List.Lex
import JsonSieve.Proofs.Evaluate.Retrieve
import JsonSieve.Proofs.Json.Tree
import JsonSieve.Proofs.Outcome

namespace JsonSieve

/-- A value of which a query is asked, under the name of a field; `tested` says whether the clauses
of the query are tested. -/
structure Visit where
  name : String
  query : Query
  tested : Bool
  value : Json

namespace Visit

/-! ## 1. The walk -/

/-- What is visited next, in order: the elements of an array, and of an object that is not rejected
the fields that are there of the nested queries. -/
def next (c : Visit) : List Visit :=
  match c.value with
  | .array es => es.map fun e => ⟨c.name, c.query, true, e⟩
  | .object _ =>
    if c.tested && !c.query.clausesHold c.value then []
    else c.query.nested.filterMap fun n =>
      (c.value.get? n.1).map fun field => ⟨n.1, n.2, true, field⟩
  | _ => []

/-- A visit is reached by the positions of those that lead to it. -/
inductive Reaches : Visit → List Nat → Visit → Prop
  | here (c : Visit) : Reaches c [] c
  | step {c d e : Visit} {i : Nat} {path : List Nat} (hd : c.next[i]? = some d)
    (h : Reaches d path e) : Reaches c (i :: path) e

/-- Whether something is asked of a scalar: a field that is to be taken from it, or one that a
nested query is to descend into. -/
def Fails (c : Visit) : Prop :=
  c.value.kind.isScalar = true ∧ ¬ (c.query.fields = [] ∧ c.query.nested = [])

/-- The error that is due when fields are asked of a scalar. -/
def error (c : Visit) : EvalError := .unexpectedKind c.name .object c.value.kind

/-- The fault that is reached before all others. -/
structure IsFirstFault (c : Visit) (path : List Nat) (d : Visit) : Prop where
  reached : c.Reaches path d
  fails : d.Fails
  first : ∀ other e, c.Reaches other e → e.Fails → path ≤ other

/-- **Induction over visits:** a visit may use what is claimed of those that follow it. -/
@[elab_as_elim]
theorem induct {motive : Visit → Prop} (step : ∀ c, (∀ d ∈ c.next, motive d) → motive c)
    (c : Visit) : motive c := by
  obtain ⟨name, q, tested, v⟩ := c
  induction v generalizing name q tested with
  | scalar v hv =>
    refine step _ fun d hd => ?_
    cases v with
    | array _ | object _ => cases hv
    | _ => cases hd
  | array es ih =>
    refine step _ fun d hd => ?_
    obtain ⟨e, he, rfl⟩ := List.mem_map.mp hd
    exact ih e he _ _ _
  | object ms ih =>
    refine step _ fun d hd => ?_
    simp only [next] at hd
    split at hd
    · cases hd
    · obtain ⟨n, _, hfield⟩ := List.mem_filterMap.mp hd
      obtain ⟨field, hget, rfl⟩ := Option.map_eq_some_iff.mp hfield
      exact ih _ (Json.mem_members_of_get? hget) _ _ _

/-! ## 2. One visit -/

/-- The query that is kept by: without its own clauses, if they are not tested on an object. -/
def asked (c : Visit) : Query :=
  if c.tested then c.query else c.query.trusting c.value.kind

/-- The error of what is kept of the value of a visit. -/
def refusal (c : Visit) : Option EvalError := failure? (c.asked.project c.name c.value)

theorem refusal_tested (name : String) (q : Query) (v : Json) :
    refusal ⟨name, q, true, v⟩ = failure? (q.project name v) := rfl

theorem refusal_array (name : String) (q : Query) (tested : Bool) (es : List Json) :
    refusal ⟨name, q, tested, .array es⟩ =
      (next ⟨name, q, tested, .array es⟩).findSome? refusal := by
  have hasked : asked ⟨name, q, tested, .array es⟩ = q := by cases tested <;> rfl
  rw [refusal, hasked, Query.project_array, failure?_map, failure?_mapM, next, List.findSome?_map]
  rfl

/-- Nested queries fail with the first error among those of the fields that are there. -/
theorem failure?_projectNested (v : Json) : ∀ qs : List (String × Query),
    failure? (Query.projectNested v qs) =
      (qs.filterMap fun n => (v.get? n.1).map fun field =>
        (⟨n.1, n.2, true, field⟩ : Visit)).findSome? refusal
  | [] => rfl
  | (name, q) :: qs => by
    rw [Query.projectNested_cons, Query.projectField, List.filterMap_cons]
    have ih := failure?_projectNested v qs
    cases v.get? name with
    | none =>
      rw [Option.map_none, ← ih]
      cases Query.projectNested v qs <;> rfl
    | some field =>
      rw [Option.map_some, List.findSome?_cons, ← ih, refusal_tested]
      dsimp only
      cases q.project name field with
      | error err => rfl
      | ok kept => cases Query.projectNested v qs <;> rfl

theorem refusal_object (name : String) (q : Query) (tested : Bool) (ms : List (String × Json)) :
    refusal ⟨name, q, tested, .object ms⟩ =
      (next ⟨name, q, tested, .object ms⟩).findSome? refusal := by
  have hclauses : (asked ⟨name, q, tested, .object ms⟩).clausesHold (.object ms) =
      !(tested && !q.clausesHold (.object ms)) := by
    cases tested with
    | true => simp [asked]
    | false => exact Query.clausesHold_unfiltered q _
  have hnested : (asked ⟨name, q, tested, .object ms⟩).nested = q.nested := by
    cases q
    cases tested <;> rfl
  rw [refusal, Query.project_object, hclauses, hnested, next]
  cases tested && !q.clausesHold (.object ms) with
  | true => rfl
  | false => exact (failure?_map _ _).trans (failure?_projectNested _ _)

theorem refusal_scalar (name : String) (q : Query) (tested : Bool) {v : Json}
    (hv : v.kind.isScalar = true) :
    refusal ⟨name, q, tested, v⟩ =
      if q.isBare then none else some (error ⟨name, q, tested, v⟩) := by
  have hasked : asked ⟨name, q, tested, v⟩ = q := by
    cases v with
    | array _ | object _ => cases hv
    | _ => cases tested <;> rfl
  rw [refusal, hasked, Query.project_scalar q hv]
  cases q.isBare <;> rfl

theorem next_scalar {c : Visit} (hv : c.value.kind.isScalar = true) : c.next = [] := by
  obtain ⟨name, q, tested, v⟩ := c
  cases v with
  | array _ | object _ => cases hv
  | _ => rfl

/-- **A visit that is at fault** fails with its own error. -/
theorem refusal_of_fails {c : Visit} (h : c.Fails) : c.refusal = some c.error := by
  obtain ⟨hv, hq⟩ := h
  rw [← Query.isBare_iff] at hq
  exact (refusal_scalar c.name c.query c.tested hv).trans (if_neg hq)

/-- **Any other visit** fails with the first error of those that follow it. -/
theorem refusal_of_not_fails {c : Visit} (h : ¬ c.Fails) :
    c.refusal = c.next.findSome? refusal := by
  obtain ⟨name, q, tested, v⟩ := c
  by_cases hv : v.kind.isScalar = true
  · have hq : q.isBare = true :=
      Query.isBare_iff.mpr (Classical.not_not.mp fun hbody => h ⟨hv, hbody⟩)
    rw [refusal_scalar name q tested hv, next_scalar hv, hq]
    rfl
  · cases v with
    | array es => exact refusal_array name q tested es
    | object ms => exact refusal_object name q tested ms
    | _ => exact absurd rfl hv

/-! ## 3. All that are reached -/

section

variable {c d e : Visit} {path other : List Nat}

theorem reaches_iff :
    c.Reaches path e ↔
      (path = [] ∧ e = c) ∨
        ∃ i d rest, path = i :: rest ∧ c.next[i]? = some d ∧ d.Reaches rest e := by
  constructor
  · rintro (_ | ⟨hd, h⟩)
    · exact .inl ⟨rfl, rfl⟩
    · exact .inr ⟨_, _, _, rfl, hd, h⟩
  · rintro (⟨rfl, rfl⟩ | ⟨i, d, rest, rfl, hd, h⟩)
    · exact .here e
    · exact .step hd h

/-- A path leads to one visit only. -/
theorem Reaches.unique (hd : c.Reaches path d) (he : c.Reaches path e) : d = e := by
  induction hd with
  | here c =>
    cases he
    rfl
  | step hnext _ ih =>
    cases he with
    | step hnext' he =>
      cases hnext.symm.trans hnext'
      exact ih he

/-- The empty path comes before all others. -/
theorem nil_le : ∀ path : List Nat, [] ≤ path
  | [] => le_refl _
  | _ :: _ => le_of_lt List.Lex.nil

/-- **No error** is reported exactly when no fault is reached. -/
theorem refusal_eq_none_iff (c : Visit) :
    c.refusal = none ↔ ∀ path d, c.Reaches path d → ¬ d.Fails := by
  induction c using induct with
  | step c ih =>
    by_cases hc : c.Fails
    · rw [refusal_of_fails hc]
      exact ⟨nofun, fun h => absurd hc (h [] c (.here c))⟩
    · rw [refusal_of_not_fails hc, List.findSome?_eq_none_iff]
      constructor
      · intro h path e he
        rcases reaches_iff.mp he with ⟨-, rfl⟩ | ⟨i, d, rest, -, hd, he⟩
        · exact hc
        · have hmem := List.mem_of_getElem? hd
          exact (ih d hmem).mp (h d hmem) rest e he
      · intro h d hd
        obtain ⟨i, hi⟩ := List.mem_iff_getElem?.mp hd
        exact (ih d hd).mpr fun rest e he => h (i :: rest) e (.step hi he)

/-- **An error that is reported** is that of the first fault. -/
theorem exists_of_refusal_eq_some (c : Visit) {err : EvalError} (h : c.refusal = some err) :
    ∃ path d, c.IsFirstFault path d ∧ err = d.error := by
  induction c using induct with
  | step c ih =>
    by_cases hc : c.Fails
    · rw [refusal_of_fails hc] at h
      exact ⟨[], c, ⟨.here c, hc, fun other _ _ _ => nil_le other⟩, (Option.some.inj h).symm⟩
    · rw [refusal_of_not_fails hc] at h
      obtain ⟨before, d, after, hnext, hd, hbefore⟩ := List.findSome?_eq_some_iff.mp h
      have hmem : d ∈ c.next := hnext ▸ List.mem_append_right _ List.mem_cons_self
      have hget : c.next[before.length]? = some d := by rw [hnext]; simp
      obtain ⟨path, e, he, herr⟩ := ih d hmem hd
      refine ⟨before.length :: path, e, ⟨.step hget he.reached, he.fails, ?_⟩, herr⟩
      intro other f hf hfails
      rcases reaches_iff.mp hf with ⟨-, rfl⟩ | ⟨i, g, rest, rfl, hg, hf⟩
      · exact absurd hfails hc
      rcases Nat.lt_trichotomy before.length i with hi | rfl | hi
      · exact le_of_lt (List.Lex.rel hi)
      · cases hget.symm.trans hg
        exact List.cons_le_cons _ (he.first rest f hf hfails)
      · -- A fault further left would have been reported in the place of this one.
        rw [hnext, List.getElem?_append_left hi] at hg
        have hnone := hbefore g (List.mem_of_getElem? hg)
        exact absurd hfails ((refusal_eq_none_iff g).mp hnone rest f hf)

theorem IsFirstFault.unique (hd : c.IsFirstFault path d) (he : c.IsFirstFault other e) : d = e := by
  obtain rfl : path = other :=
    le_antisymm (hd.first other e he.reached he.fails) (he.first path d hd.reached hd.fails)
  exact hd.reached.unique he.reached

/-- **The first fault** is what is reported. -/
theorem refusal_eq_some_iff {err : EvalError} :
    c.refusal = some err ↔ ∃ path d, c.IsFirstFault path d ∧ err = d.error := by
  refine ⟨exists_of_refusal_eq_some c, ?_⟩
  rintro ⟨path, d, hd, rfl⟩
  cases h : c.refusal with
  | none => exact absurd hd.fails ((refusal_eq_none_iff c).mp h path d hd.reached)
  | some err =>
    obtain ⟨other, e, he, rfl⟩ := exists_of_refusal_eq_some c h
    rw [hd.unique he]

theorem exists_refusal_iff :
    (∃ err, c.refusal = some err) ↔ ∃ path d, c.Reaches path d ∧ d.Fails := by
  rw [← Option.ne_none_iff_exists', ne_eq, refusal_eq_none_iff]
  simp only [not_forall, not_not, exists_prop]

end

end Visit

/-! ## 4. Documents -/

namespace Query

/-- The document, with its clauses tested or not, as it is visited first. -/
def start (q : Query) (tested : Bool) (v : Json) : Visit := ⟨rootName, q, tested, v⟩

theorem failure?_keep (q : Query) (v : Json) :
    failure? (q.keep v) = (q.start true v).refusal := by
  rw [keep_eq_keptText, failure?_map]
  rfl

theorem failure?_retrieve (q : Query) (v : Json) :
    failure? (q.retrieve v) = (q.start false v).refusal := by
  rw [retrieve_eq_keep, failure?_keep]
  rfl

/-- **A projection fails exactly when fields are asked of a scalar** that is reached, and the error
is that of the first one in order.  A document that is retrieved is visited untested. -/
theorem error_iff_first_fault (q : Query) (v : Json) :
    (((∃ err, q.keep v = .error err) ↔
        ∃ path d, (q.start true v).Reaches path d ∧ d.Fails) ∧
      ∀ err, q.keep v = .error err ↔
        ∃ path d, (q.start true v).IsFirstFault path d ∧ err = d.error) ∧
    (((∃ err, q.retrieve v = .error err) ↔
        ∃ path d, (q.start false v).Reaches path d ∧ d.Fails) ∧
      ∀ err, q.retrieve v = .error err ↔
        ∃ path d, (q.start false v).IsFirstFault path d ∧ err = d.error) := by
  simp only [← failure?_eq_some_iff, failure?_keep, failure?_retrieve]
  exact ⟨⟨Visit.exists_refusal_iff, fun _ => Visit.refusal_eq_some_iff⟩,
    Visit.exists_refusal_iff, fun _ => Visit.refusal_eq_some_iff⟩

end Query
end JsonSieve
