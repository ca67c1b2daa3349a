/-
# Queries as trees

Induction over a query, and its nodes (`HasNode`): a query has clauses just if one of its nodes does
(`filtered_iff_exists_node`).  Then the queries whose clauses look only at what is kept: at every
node the key of a clause is also a field of that node or the name of a nested query (`filtersKept`).
-/
import JsonSieve.Query.Basic

namespace JsonSieve.Query

/-! ## 1. Induction -/

/-- **Induction over a query:** a node may use what is claimed of its nested queries. -/
@[elab_as_elim, induction_eliminator]
theorem induct {motive : Query → Prop}
    (node : ∀ (fs : List Filter) (ns : List String) (qs : List (String × Query)),
      (∀ n ∈ qs, motive n.2) → motive (node fs ns qs)) :
    ∀ q : Query, motive q
  | .node fs ns qs => node fs ns qs fun n _ => induct node n.2
termination_by q => sizeOf q
decreasing_by
  simp_wf
  have hmem := List.sizeOf_lt_of_mem ‹_ ∈ _›
  have hpair : sizeOf n = 1 + sizeOf n.1 + sizeOf n.2 := by cases n; rfl
  omega

/-! ## 2. Nodes -/

/-- **The nodes of a query** are the query itself and the nodes of its nested queries. -/
inductive HasNode : Query → Query → Prop
  | root (q : Query) : HasNode q q
  | nested {q p : Query} {n : String × Query} (hn : n ∈ q.nested) (h : HasNode n.2 p) : HasNode q p

/-- A query has clauses at its own node or in a nested query. -/
theorem filtered_iff {q : Query} :
    q.filtered = true ↔ q.filters ≠ [] ∨ ∃ n ∈ q.nested, n.2.filtered = true := by
  obtain ⟨fs, ns, qs⟩ := q
  rw [filtered, anyFiltered_eq, Bool.or_eq_true, List.any_eq_true, Bool.not_eq_true',
    List.isEmpty_eq_false_iff]
  rfl

/-- **A query has clauses** just if one of its nodes does. -/
theorem filtered_iff_exists_node (q : Query) :
    q.filtered = true ↔ ∃ p, q.HasNode p ∧ p.filters ≠ [] := by
  constructor
  · intro h
    induction q with
    | node fs ns qs ih =>
      rcases filtered_iff.mp h with hroot | ⟨n, hn, hbelow⟩
      · exact ⟨_, .root _, hroot⟩
      · obtain ⟨p, hp, hclauses⟩ := ih n hn hbelow
        exact ⟨p, .nested hn hp, hclauses⟩
  · rintro ⟨p, hp, hclauses⟩
    induction hp with
    | root q => exact filtered_iff.mpr (.inl hclauses)
    | nested hn _ ih => exact filtered_iff.mpr (.inr ⟨_, hn, ih hclauses⟩)

/-! ## 3. Clauses on what is kept -/

mutual

/-- Whether at every node the key of each clause is a field of the node or has a nested query. -/
def filtersKept : Query → Bool
  | node fs ns qs =>
    (fs.all fun f => ns.contains f.key || qs.any fun n => n.1 == f.key) && filtersKeptBelow qs

/-- Whether the same is so at every node of the nested queries. -/
def filtersKeptBelow : List (String × Query) → Bool
  | [] => true
  | (_, q) :: qs => filtersKept q && filtersKeptBelow qs

end

theorem filtersKeptBelow_iff : ∀ qs : List (String × Query),
    filtersKeptBelow qs = true ↔ ∀ n ∈ qs, n.2.filtersKept = true
  | [] => by simp [filtersKeptBelow]
  | (_, q) :: qs => by simp [filtersKeptBelow, filtersKeptBelow_iff qs]

theorem filtersKept_iff {q : Query} :
    q.filtersKept = true ↔
      (∀ f ∈ q.filters, f.key ∈ q.fields ∨ f.key ∈ q.nested.map Prod.fst) ∧
        ∀ n ∈ q.nested, n.2.filtersKept = true := by
  obtain ⟨fs, ns, qs⟩ := q
  rw [filtersKept, Bool.and_eq_true, filtersKeptBelow_iff, List.all_eq_true]
  refine and_congr_left fun _ => forall_congr' fun f => imp_congr_right fun _ => ?_
  rw [Bool.or_eq_true, List.contains_iff_mem, List.any_eq_true]
  refine or_congr_right ?_
  constructor
  · rintro ⟨n, hn, heq⟩
    exact List.mem_map.mpr ⟨n, hn, beq_iff_eq.mp heq⟩
  · intro h
    obtain ⟨n, hn, heq⟩ := List.mem_map.mp h
    exact ⟨n, hn, beq_iff_eq.mpr heq⟩

end JsonSieve.Query
