/-
# Queries without clauses

A query that has no clause, at no node, can only take and descend.  It rejects nothing, so keeping
and retrieving are the same to it, and all that it names and that is there is kept: an array with
all of its elements, an object with every field and every nested field (`KeepsAll`).

Whether a query has clauses is settled by its nodes, one by one, so any node of a compiled query can
be asked (`filtered_exactly`).
-/
import JsonSieve.Proofs.Evaluate.Rejection
import JsonSieve.Proofs.Query.Spelling

namespace JsonSieve.Query

/-! ## 1. All that is named -/

/-- **All that a query names of a value is kept:** a scalar as it is, every element of an array, and
of an object every field that is there and every nested field that is there. -/
inductive KeepsAll : Query → Json → Json → Prop
  | scalar {q : Query} {v : Json} (hv : v.kind.isScalar = true) : KeepsAll q v v
  | array {q : Query} {es ws : List Json} (hlength : ws.length = es.length)
    (hes : ∀ p ∈ es.zip ws, KeepsAll q p.1 p.2) : KeepsAll q (.array es) (.array ws)
  | object {q : Query} {ms ls : List (String × Json)}
    (hfields : ∀ name ∈ q.fields, (Json.object ls).get? name = (Json.object ms).get? name)
    (hthere : ∀ n ∈ q.nested,
      ((Json.object ls).get? n.1).isSome = ((Json.object ms).get? n.1).isSome)
    (hnested : ∀ n ∈ q.nested, ∀ field w, (Json.object ms).get? n.1 = some field →
      (Json.object ls).get? n.1 = some w → KeepsAll n.2 field w) :
    KeepsAll q (.object ms) (.object ls)

section

variable {q : Query} {v : Json} {kept : List (String × Json)} {n : String × Query}
variable (hq : q.NoRepeats) (hkept : projectNested v q.nested = .ok kept) (hn : n ∈ q.nested)
variable (hfree : n.2.filtered = false)
include hq hkept hn hfree

/-- Of a field that is there, a nested query without clauses keeps something, and it is found. -/
theorem exists_get?_kept {field : Json} (hfield : v.get? n.1 = some field) :
    ∃ w, (Json.object (q.taken v ++ kept)).get? n.1 = some w ∧
      n.2.project n.1 field = .ok (some w) := by
  have hfound := get?_kept_nested hq hkept hn
  rw [projectField, hfield] at hfound
  obtain ⟨w, hw⟩ := exists_of_project hfree hfound
  rw [hw] at hfound
  exact ⟨w, hw, hfound⟩

theorem isSome_get?_kept :
    ((Json.object (q.taken v ++ kept)).get? n.1).isSome = (v.get? n.1).isSome := by
  cases hfield : v.get? n.1 with
  | some field =>
    obtain ⟨w, hw, -⟩ := exists_get?_kept hq hkept hn hfree hfield
    rw [hw]
    rfl
  | none =>
    have hfound := get?_kept_nested hq hkept hn
    rw [projectField, hfield] at hfound
    rw [← Except.ok.inj hfound]

end

/-- **A query without clauses keeps all that it names.** -/
theorem keepsAll_of_project (q : Query) : ∀ {name : String} {v w : Json}, q.NoRepeats →
    q.filtered = false → q.project name v = .ok (some w) → q.KeepsAll v w := by
  induction q with
  | node fs ns qs ih =>
    intro name v w hq hfree h
    induction v generalizing w with
    | scalar v hv =>
      cases project_scalar_eq_ok hv h
      exact .scalar hv
    | array es iharray =>
      obtain ⟨ws, rfl, hws⟩ := (project_array_iff hfree).mp h
      obtain ⟨hlength, hpairs⟩ := List.forall₂_iff_zip.mp hws
      refine .array hlength.symm ?_
      rintro ⟨e, w⟩ hp
      exact iharray e (List.of_mem_zip hp).1 (hpairs hp)
    | object ms _ =>
      obtain ⟨kept, hkept, rfl⟩ := (project_object_iff hfree).mp h
      have hbelow := (filtered_eq_false_iff.mp hfree).2
      refine .object (fun name hname => get?_kept_field hq hkept hname)
        (fun n hn => isSome_get?_kept hq hkept hn (hbelow n hn)) ?_
      intro n hn field w hfield hw
      obtain ⟨w', hw', hproject⟩ := exists_get?_kept hq hkept hn (hbelow n hn) hfield
      obtain rfl : w' = w := Option.some.inj (hw'.symm.trans hw)
      exact ih n hn ((noRepeats_iff.mp hq).2 n hn) (hbelow n hn) hproject

/-! ## 2. Nodes of a compiled query -/

theorem HasNode.noRepeats {q p : Query} (h : q.HasNode p) (hq : q.NoRepeats) : p.NoRepeats := by
  induction h with
  | root q => exact hq
  | nested hn _ ih => exact ih ((noRepeats_iff.mp hq).2 _ hn)

/-- Without clauses every document is kept. -/
theorem keep_ne_empty_of_not_filtered {q : Query} (hq : q.filtered = false) (v : Json) :
    q.keep v ≠ .ok "" := by
  intro hempty
  obtain ⟨-, f, hf, -⟩ := keep_eq_empty_iff.mp hempty
  rw [(filtered_eq_false_iff.mp hq).1] at hf
  cases hf

/-- **Any node of a compiled query** has clauses just if it or a node below it does.  If it has
none, keeping and retrieving are the same, something is kept of every document on which it does not
fail, and nothing that it names is left out. -/
theorem filtered_exactly {source : String} {q n : Query} (h : compile source = .ok q)
    (hn : q.HasNode n) :
    (n.filtered = true ↔ ∃ p, n.HasNode p ∧ p.filters ≠ []) ∧
      (n.filtered = false → ∀ v, n.keep v = n.retrieve v ∧ n.keep v ≠ .ok "" ∧
        ∀ text, n.keep v = .ok text →
          ∃ w, n.projection v = .ok (some w) ∧ text = w.compact ∧ n.KeepsAll v w) := by
  refine ⟨filtered_iff_exists_node n, fun hfree v => ?_⟩
  have hkept := keep_ne_empty_of_not_filtered hfree v
  refine ⟨(retrieve_eq_keep_iff.mpr hkept).symm, hkept, fun text htext => ?_⟩
  rw [keep_eq_projection, ok_map_iff] at htext
  obtain ⟨kept, hproject, rfl⟩ := htext
  obtain ⟨w, rfl⟩ := exists_of_project hfree hproject
  have hnames : n.NoRepeats := hn.noRepeats (noRepeats_of_compile h)
  exact ⟨w, hproject, rfl, keepsAll_of_project n hnames hfree hproject⟩

/-- Below a root with a clause, a node without one keeps both elements of an array, though only one
of them has the field that is asked for. -/
theorem filtered_exactly_below :
    compile "(a>1)\x7bb\x7bc,d\x7be\x7d\x7d\x7d" = .ok (.node [⟨"a", .gt, "1"⟩] []
      [("b", .node [] ["c"] [("d", .node [] ["e"] [])])]) ∧
    (node [] ["c"] [("d", .node [] ["e"] [])]).filtered = false ∧
    (node [] ["c"] [("d", .node [] ["e"] [])]).keep
        (.object [("d", .array [.object [("f", .null), ("e", .bool true)], .object []])]) =
      .ok "\x7b\"d\":[\x7b\"e\":true\x7d,\x7b\x7d]\x7d" ∧
    (node [] ["c"] [("d", .node [] ["e"] [])]).KeepsAll
      (.object [("d", .array [.object [("f", .null), ("e", .bool true)], .object []])])
      (.object [("d", .array [.object [("e", .bool true)], .object []])]) := by
  have hcompile : compile "(a>1)\x7bb\x7bc,d\x7be\x7d\x7d\x7d" =
      .ok (.node [⟨"a", .gt, "1"⟩] []
        [("b", .node [] ["c"] [("d", .node [] ["e"] [])])]) := rfl
  have hnode : (node [⟨"a", .gt, "1"⟩] []
      [("b", .node [] ["c"] [("d", .node [] ["e"] [])])]).HasNode
        (node [] ["c"] [("d", .node [] ["e"] [])]) := .nested (List.mem_singleton_self _) (.root _)
  have hkeep : (node [] ["c"] [("d", .node [] ["e"] [])]).keep
        (.object [("d", .array [.object [("f", .null), ("e", .bool true)], .object []])]) =
      .ok "\x7b\"d\":[\x7b\"e\":true\x7d,\x7b\x7d]\x7d" := rfl
  have hfree : (node [] ["c"] [("d", .node [] ["e"] [])]).filtered = false := rfl
  obtain ⟨-, -, htext⟩ := (filtered_exactly hcompile hnode).2 hfree _
  obtain ⟨w, hw, -, hall⟩ := htext _ hkeep
  cases hw
  exact ⟨hcompile, hfree, hkeep, hall⟩

end JsonSieve.Query
