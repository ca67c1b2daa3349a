/-
# Rejection

Of a value either a text is kept or nothing is, and the two can be told apart by the text: no value
has an empty one (`render_ne_nil`).  Nothing is kept of an object on which a clause of the query's
own node fails, and of nothing else (`project_eq_none_iff`, `keep_eq_empty_iff`).  What is retrieved
always has a text (`retrieve_ne_empty`), and it is what is kept wherever something is
(`retrieve_eq_keep_iff`).

A query without clauses rejects nothing, so it keeps an array element by element
(`project_array_iff`) and every object (`project_object_iff`).

A writer finds the buffer with whatever has been written before, and puts commas, names and brackets
into it before it knows whether the values behind them are kept.  None of this can be seen
afterwards: if the value is kept, the buffer has grown by a text that is not empty, and if it is
rejected, the buffer is as it was (`write_only_appends`).  Neither the text nor the answer depends
on what was in the buffer, and this is what allows whoever called the writer to cut the buffer back.
-/
import JsonSieve.Proofs.Evaluate.Kept
import JsonSieve.Proofs.Evaluate.Keep
import JsonSieve.Proofs.Evaluate.Retrieve

namespace JsonSieve

/-! ## 1. Texts -/

theorem Number.jsonText_ne_nil (n : Number) : n.toScalar.jsonText ≠ [] := by
  obtain ⟨c, r, h, -⟩ := (Json.readsBack_number n 0 (ρ := .nearest)).head
  rw [h]
  exact List.cons_ne_nil _ _

theorem Scalar.jsonText_ne_nil (s : Scalar) : s.jsonText ≠ [] := by
  cases s with
  | null => exact List.cons_ne_nil _ _
  | bool b => cases b <;> exact List.cons_ne_nil _ _
  | integer n => simp [jsonText, integer_eq, Layout.digits_ne_nil]
  | real x => exact (Number.real x).jsonText_ne_nil
  | text s => exact List.cons_ne_nil _ _

/-- **No value has an empty text.** -/
theorem Json.render_ne_nil (sp : Spacing) (level : Nat) (v : Json) : v.render sp level ≠ [] := by
  cases h : v.scalar? with
  | some s =>
    rw [render_of_scalar? h]
    exact s.jsonText_ne_nil
  | none =>
    cases v with
    | array es => cases es <;> exact List.cons_ne_nil _ _
    | object ms => cases ms <;> exact List.cons_ne_nil _ _
    | _ => cases h

namespace Query

/-! ## 2. What is rejected -/

section

variable {q : Query} {name : String} {v : Json}

theorem clausesHold_eq_false_iff :
    q.clausesHold v = false ↔ ∃ f ∈ q.filters, f.admits v = false := by
  rw [clausesHold, List.all_eq_false]
  simp only [Bool.not_eq_true]

/-- **An object is rejected** on which a clause fails, and nothing else is. -/
theorem project_eq_none_iff :
    q.project name v = .ok none ↔
      v.kind = .object ∧ ∃ f ∈ q.filters, f.admits v = false := by
  rw [← clausesHold_eq_false_iff]
  constructor
  · intro h
    obtain ⟨ms, rfl, hclauses⟩ := project_eq_ok_none h
    exact ⟨rfl, hclauses⟩
  · rintro ⟨hkind, hclauses⟩
    cases v with
    | object ms => rw [project_object, hclauses, if_neg Bool.false_ne_true]
    | _ => cases hkind

theorem keptText_eq_nil_iff {kept : Option Json} : keptText kept = [] ↔ kept = none := by
  cases kept with
  | none => exact ⟨fun _ => rfl, fun _ => rfl⟩
  | some w => exact ⟨fun h => absurd h (w.render_ne_nil _ _), nofun⟩

/-- **No text is kept** of an object on which a clause fails, and of nothing else. -/
theorem keep_eq_empty_iff :
    q.keep v = .ok "" ↔ v.kind = .object ∧ ∃ f ∈ q.filters, f.admits v = false := by
  have hempty : ∀ kept : Option Json, String.ofList (keptText kept) = "" ↔ kept = none :=
    fun kept => by rw [← keptText_eq_nil_iff, String.ofList_eq_empty_iff]
  rw [keep_eq_keptText, ok_map_iff, ← @project_eq_none_iff q rootName v]
  simp only [hempty, exists_eq_right]
  rfl

/-- **What is retrieved has a text,** whatever the clauses of the query's own node. -/
theorem retrieve_ne_empty : q.retrieve v ≠ .ok "" := by
  rw [retrieve_eq_keep, ne_eq, keep_eq_empty_iff]
  rintro ⟨hkind, f, hf, -⟩
  rw [hkind] at hf
  cases q
  cases hf

/-- **What is retrieved is what is kept** unless the document is rejected. -/
theorem retrieve_eq_keep_iff : q.retrieve v = q.keep v ↔ q.keep v ≠ .ok "" := by
  constructor
  · exact fun h hempty => retrieve_ne_empty (h.trans hempty)
  · intro h
    cases v with
    | object ms =>
      cases hclauses : q.clausesHold (.object ms) with
      | true => rw [retrieve, keep, write_object_of_clausesHold rootName hclauses]
      | false =>
        have hfails := clausesHold_eq_false_iff.mp hclauses
        exact absurd (keep_eq_empty_iff.mpr ⟨rfl, hfails⟩) h
    | _ => exact retrieve_of_not_object q (by simp [Json.kind])

end

/-- **Retrieving tests all clauses but those of the root:** an object is retrieved as it is kept by
the query without the clauses of its own node, and anything else as it is kept.  So the two answers,
texts and errors alike, differ only where nothing is kept, and there what is retrieved has a
text. -/
theorem retrieve_trusts_root (q : Query) (v : Json) :
    q.retrieve v = (if v.kind = .object then q.unfiltered.keep v else q.keep v) ∧
      (q.retrieve v = q.keep v ↔ q.keep v ≠ .ok "") ∧ q.retrieve v ≠ .ok "" := by
  refine ⟨?_, retrieve_eq_keep_iff, retrieve_ne_empty⟩
  cases v with
  | object ms => exact retrieve_object q ms
  | _ => exact retrieve_of_not_object q (by simp [Json.kind])

/-! ## 3. Queries without clauses -/

section

variable {q : Query} {name : String}

theorem filtered_eq_false_iff :
    q.filtered = false ↔ q.filters = [] ∧ ∀ n ∈ q.nested, n.2.filtered = false := by
  obtain ⟨fs, ns, qs⟩ := q
  rw [filtered, anyFiltered_eq, Bool.or_eq_false_iff, List.any_eq_false]
  simp only [Bool.not_eq_false', List.isEmpty_iff, Bool.not_eq_true]
  rfl

variable (hq : q.filtered = false)
include hq

theorem clausesHold_of_not_filtered (v : Json) : q.clausesHold v = true := by
  rw [clausesHold, (filtered_eq_false_iff.mp hq).1]
  rfl

/-- **A query without clauses rejects nothing.** -/
theorem exists_of_project {v : Json} {kept : Option Json} (h : q.project name v = .ok kept) :
    ∃ w, kept = some w := by
  cases kept with
  | some w => exact ⟨w, rfl⟩
  | none =>
    obtain ⟨-, f, hf, -⟩ := project_eq_none_iff.mp h
    rw [(filtered_eq_false_iff.mp hq).1] at hf
    cases hf

/-- **An array is kept element by element** by a query without clauses. -/
theorem project_array_iff {es : List Json} {w : Json} :
    q.project name (.array es) = .ok (some w) ↔
      ∃ ws, w = .array ws ∧ List.Forall₂ (fun e w => q.project name e = .ok (some w)) es ws := by
  simp only [project_array_eq_ok, mapM_eq_ok_iff, Option.some.injEq]
  constructor
  · rintro ⟨ks, hks, rfl⟩
    refine ⟨_, rfl, ?_⟩
    induction hks with
    | nil => exact .nil
    | cons he _ ih =>
      obtain ⟨w, rfl⟩ := exists_of_project hq he
      exact .cons he ih
  · rintro ⟨ws, rfl, hws⟩
    refine ⟨ws.map some, List.forall₂_map_right_iff.mpr hws, ?_⟩
    rw [List.filterMap_map, Function.id_comp, List.filterMap_some]

/-- **An object is kept** by a query without clauses if its nested fields are. -/
theorem project_object_iff {ms : List (String × Json)} {w : Json} :
    q.project name (.object ms) = .ok (some w) ↔
      ∃ kept, projectNested (.object ms) q.nested = .ok kept ∧
        w = .object (q.taken (.object ms) ++ kept) := by
  rw [project_object_eq_ok, and_iff_right (clausesHold_of_not_filtered hq _)]

end

/-! ## 4. Writing only appends -/

/-- **A writer fails whatever the buffer holds, or leaves every buffer as it is and rejects the
value, or appends the same text to every buffer.** -/
theorem write_only_appends (q : Query) (name : String) (tested : Bool) (v : Json) :
    (∃ err, ∀ out, q.write name tested v out = .error err) ∨
    (∀ out, q.write name tested v out = .ok (false, out)) ∨
    ∃ text, text ≠ [] ∧ ∀ out, ∃ longer, q.write name tested v out = .ok (true, longer) ∧
      longer.toList = out.toList ++ text := by
  have hwrite := write_eq_project name tested q v
  cases hproject : (if tested then q else q.trusting v.kind).project name v with
  | error err =>
    refine .inl ⟨err, fun out => ?_⟩
    rw [hwrite, hproject]
    rfl
  | ok kept =>
    cases kept with
    | none =>
      refine .inr (.inl fun out => ?_)
      rw [hwrite, hproject]
      exact congrArg (fun b => Except.ok (false, b)) out.push_nil
    | some w =>
      refine .inr (.inr ⟨w.render .compact 0, w.render_ne_nil _ _, fun out => ?_⟩)
      refine ⟨out.push (w.render .compact 0), ?_, out.toList_push _⟩
      rw [hwrite, hproject]
      rfl

end Query
end JsonSieve
