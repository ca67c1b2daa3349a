/-
# Asking for less

A query that asks for less admits no less.  What can be asked less is one of the clauses or one of
the nested queries of a node, be it the query's own node or one further down; the fields that a node
takes have no part in admission (`Loosening`).

One node is compared with another by `check_of_fewer`: whatever the nesting, it is enough that every
clause and every nested query that is left was asked for before.  From there one step and any number
of steps follow (`check_of_loosening`, `check_of_loosenings`).
-/
import Mathlib.Logic.Relation
import JsonSieve.Proofs.Evaluate.Rules

namespace JsonSieve.Query

/-! ## 1. Fewer demands at one node -/

section

variable {q r : Query}

/-- Clauses that were asked for before hold where all of those did. -/
theorem clausesHold_of_subset (hclauses : ∀ f ∈ r.filters, f ∈ q.filters) {v : Json}
    (hv : q.clausesHold v = true) : r.clausesHold v = true := by
  unfold clausesHold at hv ⊢
  rw [List.all_eq_true] at hv ⊢
  exact fun f hf => hv f (hclauses f hf)

/-- **Fewer demands admit more:** the clauses that are left were there before, and each nested query
that is left admits what one of its name admitted before. -/
theorem check_of_fewer (hclauses : ∀ f ∈ r.filters, f ∈ q.filters)
    (hnested : ∀ m ∈ r.nested, ∃ n ∈ q.nested, n.1 = m.1 ∧
      ∀ v : Json, n.2.check v = true → m.2.check v = true) :
    ∀ v : Json, q.check v = true → r.check v = true := by
  intro v
  induction v with
  | scalar v hv => exact fun _ => check_scalar r hv
  | array es ih =>
    intro h
    rw [check_array, List.any_eq_true] at h ⊢
    obtain ⟨e, he, hadmits⟩ := h
    exact ⟨e, he, ih e he hadmits⟩
  | object ms _ =>
    intro h
    obtain ⟨hall, hfields⟩ := check_object_iff.mp h
    refine check_object_iff.mpr ⟨clausesHold_of_subset hclauses hall, fun m hm => ?_⟩
    obtain ⟨n, hn, hname, hbelow⟩ := hnested m hm
    obtain ⟨field, hfield, hadmits⟩ := hfields n hn
    exact ⟨field, hname ▸ hfield, hbelow field hadmits⟩

/-- The nested queries that are left as they were admit what they admitted. -/
theorem exists_of_mem_nested_of_subset (hnested : ∀ m ∈ r.nested, m ∈ q.nested) :
    ∀ m ∈ r.nested, ∃ n ∈ q.nested, n.1 = m.1 ∧
      ∀ v : Json, n.2.check v = true → m.2.check v = true :=
  fun m hm => ⟨m, hnested m hm, rfl, fun _ => id⟩

/-! ## 2. One step -/

/-- **One step of asking for less:** a clause or a nested query is deleted, or other fields are
taken, at the node of the query or at a node of one of its nested queries. -/
inductive Loosening : Query → Query → Prop
  | clause {fs gs : List Filter} {ns : List String} {qs : List (String × Query)} (f : Filter) :
    Loosening (node (fs ++ f :: gs) ns qs) (node (fs ++ gs) ns qs)
  | nested {fs : List Filter} {ns : List String} {qs rs : List (String × Query)}
    (n : String × Query) : Loosening (node fs ns (qs ++ n :: rs)) (node fs ns (qs ++ rs))
  | fields {fs : List Filter} {ns ms : List String} {qs : List (String × Query)} :
    Loosening (node fs ns qs) (node fs ms qs)
  | inside {fs : List Filter} {ns : List String} {qs rs : List (String × Query)} {name : String}
    {q r : Query} (h : Loosening q r) :
    Loosening (node fs ns (qs ++ (name, q) :: rs)) (node fs ns (qs ++ (name, r) :: rs))

/-- **A step of asking for less admits no less.** -/
theorem check_of_loosening (h : Loosening q r) :
    ∀ v : Json, q.check v = true → r.check v = true := by
  induction h with
  | @clause fs gs _ _ f =>
    have hfewer := (List.sublist_cons_self f gs).append_left fs
    exact check_of_fewer (fun _ hg => hfewer.subset hg) (exists_of_mem_nested_of_subset fun _ => id)
  | @nested _ _ qs rs n =>
    have hfewer := (List.sublist_cons_self n rs).append_left qs
    exact check_of_fewer (fun _ => id) (exists_of_mem_nested_of_subset fun _ hm => hfewer.subset hm)
  | fields => exact check_of_fewer (fun _ => id) (exists_of_mem_nested_of_subset fun _ => id)
  | @inside fs ns qs rs name q r _ ih =>
    refine check_of_fewer (fun _ => id) fun m hm => ?_
    rcases List.mem_append.mp hm with hm | hm
    · exact ⟨m, List.mem_append_left _ hm, rfl, fun _ => id⟩
    · rcases List.mem_cons.mp hm with rfl | hm
      · exact ⟨(name, q), List.mem_append_right _ List.mem_cons_self, rfl, ih⟩
      · exact ⟨m, List.mem_append_right _ (List.mem_cons_of_mem _ hm), rfl, fun _ => id⟩

/-! ## 3. Any number of steps -/

/-- **A query that asks for less admits no less:** whatever is admitted by a query is admitted when
clauses and nested queries are deleted from it at any nodes, whatever fields it takes. -/
theorem check_of_loosenings (h : Relation.ReflTransGen Loosening q r) {v : Json}
    (hv : q.check v = true) : r.check v = true := by
  induction h with
  | refl => exact hv
  | tail _ hstep ih => exact check_of_loosening hstep v ih

end

/-- A clause and a nested query are deleted at the top, and a clause further down. -/
theorem check_of_loosenings_flags :
    let q : Query := .node [⟨"a", .strictEq, "false"⟩] [] [("a", .node [] ["x"] []),
      ("b", .node [⟨"c", .strictEq, "true"⟩] [] [])]
    let r : Query := .node [] ["a"] [("b", .node [] [] [])]
    let v : Json := .object [("a", .bool false),
      ("b", .array [.object [("c", .null)], .object [("c", .bool true)]])]
    Relation.ReflTransGen Loosening q r ∧ q.check v = true ∧ r.check v = true := by
  intro q r v
  have hclause : Loosening q (.node [] [] q.nested) :=
    @Loosening.clause [] [] [] q.nested ⟨"a", .strictEq, "false"⟩
  have hnested : Loosening (.node [] [] q.nested)
      (.node [] [] [("b", .node [⟨"c", .strictEq, "true"⟩] [] [])]) :=
    @Loosening.nested [] [] [] _ ("a", .node [] ["x"] [])
  have hfields : Loosening (.node [] [] [("b", .node [⟨"c", .strictEq, "true"⟩] [] [])])
      (.node [] ["a"] [("b", .node [⟨"c", .strictEq, "true"⟩] [] [])]) := .fields
  have hinside : Loosening (.node [] ["a"] [("b", .node [⟨"c", .strictEq, "true"⟩] [] [])]) r :=
    @Loosening.inside [] ["a"] [] [] "b" _ _
      (@Loosening.clause [] [] [] [] ⟨"c", .strictEq, "true"⟩)
  have hsteps : Relation.ReflTransGen Loosening q r :=
    .tail (.tail (.tail (.single hclause) hnested) hfields) hinside
  have hv : q.check v = true := by decide
  exact ⟨hsteps, hv, check_of_loosenings hsteps hv⟩

end JsonSieve.Query
