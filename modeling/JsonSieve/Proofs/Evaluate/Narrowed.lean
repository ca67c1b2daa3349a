/-
# Projecting a wider projection

A query lies within another one (`within`) if it takes and descends into nothing but what the other
one keeps.  Neither having clauses, it keeps of the other's projection what it keeps of the document
itself, and where it fails on one it fails alike on the other (`project_of_within`).

A field may be kept as it is by the one and descended into by the other, and then the same field is
found.  Where both descend, the narrow query meets a projection by the wide one, and the induction
is over the narrow query.

The text of the wide projection reads back as the projection, if its numbers are restored, but for
the signs of zeros, which neither query sees and which are not written (`keep_of_within`).
-/
import JsonSieve.Proofs.Evaluate.Again
import JsonSieve.Proofs.Evaluate.Rejection
import JsonSieve.Proofs.Evaluate.Widened

namespace JsonSieve.Query

/-! ## 1. Queries within another one -/

mutual

/-- Whether a query takes and descends into nothing but what the other one keeps: each of its fields
is a field of the other, and each of its nested queries is below such a field or within the other's
nested query of the same name. -/
def within : Query → Query → Bool
  | node _ ns qs, r => (ns.all fun name => r.fields.contains name) && nestedWithin qs r

/-- Whether each of the nested queries is below a field of the other query or within its nested
query of the same name. -/
def nestedWithin : List (String × Query) → Query → Bool
  | [], _ => true
  | (name, q) :: qs, r =>
    (r.fields.contains name || r.nested.any fun m => m.1 == name && q.within m.2) &&
      nestedWithin qs r

end

variable {q r : Query}

theorem nestedWithin_iff : ∀ qs : List (String × Query),
    nestedWithin qs r = true ↔
      ∀ n ∈ qs, n.1 ∈ r.fields ∨ ∃ m ∈ r.nested, m.1 = n.1 ∧ n.2.within m.2 = true
  | [] => by simp [nestedWithin]
  | (name, q) :: qs => by simp [nestedWithin, nestedWithin_iff qs]

theorem within_iff :
    q.within r = true ↔
      (∀ name ∈ q.fields, name ∈ r.fields) ∧
        ∀ n ∈ q.nested, n.1 ∈ r.fields ∨ ∃ m ∈ r.nested, m.1 = n.1 ∧ n.2.within m.2 = true := by
  obtain ⟨fs, ns, qs⟩ := q
  rw [within, Bool.and_eq_true, nestedWithin_iff, List.all_eq_true]
  simp only [List.contains_iff_mem]
  rfl

/-! ## 2. Projections of a projection -/

section

variable {v : Json} {kept : List (String × Json)}
variable (hr : r.NoRepeats) (hkept : projectNested v r.nested = .ok kept)
include hr hkept

/-- A nested query within the wide one keeps of the wide projection what it keeps of the object. -/
theorem projectField_of_within (hfree : r.filtered = false) {n : String × Query}
    (hn : n.1 ∈ r.fields ∨ ∃ m ∈ r.nested, m.1 = n.1 ∧ n.2.within m.2 = true)
    (hbelow : ∀ m ∈ r.nested, n.2.within m.2 = true → ∀ {field w : Json},
      m.2.project n.1 field = .ok (some w) → n.2.project n.1 w = n.2.project n.1 field) :
    projectField (.object (r.taken v ++ kept)) n.1 n.2 = projectField v n.1 n.2 := by
  obtain ⟨name, q⟩ := n
  rcases hn with hfield | ⟨m, hm, hname, hwithin⟩
  · rw [projectField, projectField, get?_kept_field hr hkept hfield]
  · obtain rfl : m.1 = name := hname
    refine projectField_kept hr hkept hm (hbelow m hm hwithin) fun hnone => ?_
    -- the wide query has no clauses, so there is no field of which it keeps nothing
    obtain ⟨w, hw⟩ := exists_of_project ((filtered_eq_false_iff.mp hfree).2 m hm) hnone
    cases hw

end

/-- **A query within another one keeps of its projection what it keeps of the value,** neither
having clauses, and fails on both alike. -/
theorem project_of_within (q : Query) : ∀ {r : Query} {name : String} {v w : Json},
    r.NoRepeats → r.filtered = false → q.filtered = false → q.within r = true →
      r.project name v = .ok (some w) → q.project name w = q.project name v := by
  induction q with
  | node fs ns qs ih =>
    intro r name v w hr hfree hq hwithin h
    obtain ⟨hfields, hnested⟩ := within_iff.mp hwithin
    induction v generalizing w with
    | scalar v hv =>
      cases project_scalar_eq_ok hv h
      rfl
    | array es iharray =>
      obtain ⟨ws, rfl, hws⟩ := (project_array_iff hfree).mp h
      have helement : ∀ e ∈ es, ∀ w, r.project name e = .ok (some w) →
          (node fs ns qs).project name w = (node fs ns qs).project name e :=
        fun e he _ h => iharray e he h
      have hsame := ((List.forall₂_and_left _ _).mpr ⟨helement, hws⟩).imp
        fun _ w h => (h.1 w h.2).symm
      rw [project_array, project_array, mapM_congr_forall₂ hsame]
    | object ms _ =>
      obtain ⟨kept, hkept, rfl⟩ := (project_object_iff hfree).mp h
      have hclauses := clausesHold_of_not_filtered hq
      have htaken : (node fs ns qs).taken (.object (r.taken (.object ms) ++ kept)) =
          (node fs ns qs).taken (.object ms) :=
        taken_congr fun name hname => get?_kept_field hr hkept (hfields name hname)
      have hbelow : projectNested (.object (r.taken (.object ms) ++ kept)) qs =
          projectNested (.object ms) qs :=
        projectNested_congr fun n hn =>
          projectField_of_within hr hkept hfree (hnested n hn) fun m hm hm' _ _ =>
            ih n hn ((noRepeats_iff.mp hr).2 m hm) ((filtered_eq_false_iff.mp hfree).2 m hm)
              ((filtered_eq_false_iff.mp hq).2 n hn) hm'
      rw [project_object, project_object, hclauses, hclauses, htaken, nested, hbelow]

/-! ## 3. Texts -/

section

variable {ρ : Rounding} {text source kept : String} {d : Json} {q r : Query}

/-- **A narrow query keeps the same text of what a wide one kept** as of the document, or fails with
the same error, if neither has clauses, it lies within the wide one, and the numbers of the document
are restored. -/
theorem keep_of_within (hd : Command.readDocument ρ text = .ok d) (hρ : d.RestoredBy ρ)
    (hr : compile source = .ok r) (hfree : r.filtered = false) (hq : q.filtered = false)
    (hwithin : q.within r = true) (hkeep : r.keep d = .ok kept) :
    ∃ d', Command.readDocument ρ kept = .ok d' ∧ q.keep d' = q.keep d := by
  rw [keep_eq_keptText, ok_map_iff] at hkeep
  obtain ⟨w?, hw, rfl⟩ := hkeep
  obtain ⟨w, rfl⟩ := exists_of_project hfree hw
  have hzeros : q.keep w.plainZeros = q.keep w :=
    keep_renumber q (sameVerdicts_plainZero _) (fun n _ => n.jsonText_plainZero)
      (isDocument_projection_restored hd hρ hr hw)
  have hproject : q.projection w = q.projection d :=
    project_of_within q (noRepeats_of_compile hr) hfree hq hwithin hw
  refine ⟨w.plainZeros, readDocument_kept hd hρ hr hw, ?_⟩
  rw [hzeros, keep_eq_keptText, keep_eq_keptText, hproject]

/-- The narrow query descends into the elements of an array that the wide one takes as it is, and
fails at one of them. -/
theorem keep_of_within_flags :
    ∃ d', Command.readDocument .bestEffort
        "\x7b\"a\":[\x7b\"c\":true\x7d,null],\"b\":[\x7b\"c\":false\x7d]\x7d" = .ok d' ∧
      keep (.node [] [] [("b", .node [] ["c"] []), ("a", .node [] ["c"] [])]) d' =
        keep (.node [] [] [("b", .node [] ["c"] []), ("a", .node [] ["c"] [])])
          (.object [("b", .array [.object [("c", .bool false), ("e", .null)]]),
            ("a", .array [.object [("c", .bool true)], .null])]) := by
  have hd : Command.readDocument .bestEffort
      "\x7b\"b\":[\x7b\"c\":false,\"e\":null\x7d],\"a\":[\x7b\"c\":true\x7d,null]\x7d" =
      .ok (.object [("b", .array [.object [("c", .bool false), ("e", .null)]]),
        ("a", .array [.object [("c", .bool true)], .null])]) := by cbv
  have hr : compile "\x7ba,b\x7bc\x7d\x7d" =
      .ok (.node [] ["a"] [("b", .node [] ["c"] [])]) := by cbv
  exact keep_of_within hd (by decide) hr (by decide) (by decide) (by decide) (by cbv)

end

end JsonSieve.Query
