/-
# What is found in a projection

A projection is a document again, and this is what looking into it finds.  A field that a node takes
is there as it was (`get?_kept_field`), and under the name of a nested query stands what that query
keeps of the field, if it keeps anything (`get?_kept_nested`).  Both rest on the names of a body
being distinct.

A clause that accepts a field accepts it after a projection too, as nothing is left out of such a
field (`project_of_accepts`).  And no number is found in a projection that the document does not
have (`mem_numbers_of_project`).
-/
import JsonSieve.Proofs.Evaluate.Numbers
import JsonSieve.Proofs.Query.Grammar

namespace JsonSieve

/-! ## 1. Members of two lists -/

namespace Json

/-- A member is looked for in the first list, and then in the second one. -/
theorem get?_append (ms ls : List (String × Json)) (name : String) :
    (object (ms ++ ls)).get? name = ((object ms).get? name).or ((object ls).get? name) := by
  unfold get? members
  rw [List.find?_append]
  cases ms.find? fun m => m.1 == name <;> rfl

theorem get?_cons (m : String × Json) (ms : List (String × Json)) (name : String) :
    (object (m :: ms)).get? name =
      if m.1 = name then some m.2 else (object ms).get? name := by
  unfold get? members
  rw [List.find?_cons]
  by_cases h : m.1 = name
  · simp [h]
  · have hne : (m.1 == name) = false := beq_false_of_ne h
    rw [hne, if_neg h]

end Json

namespace Query

open Json (get?_append get?_cons)

/-- Of the fields that are taken, those are found that are there. -/
theorem get?_taken (q : Query) (v : Json) (name : String) :
    (Json.object (q.taken v)).get? name = if name ∈ q.fields then v.get? name else none := by
  unfold taken
  induction q.fields with
  | nil => rfl
  | cons n ns ih =>
    rw [List.filterMap_cons]
    by_cases hn : n = name
    · subst hn
      cases hv : v.get? n with
      | none =>
        rw [Option.map_none, ih, hv]
        simp
      | some field => simp [get?_cons]
    · have hmem : name ∈ n :: ns ↔ name ∈ ns := by
        rw [List.mem_cons]
        exact or_iff_right fun h => hn h.symm
      cases hv : v.get? n with
      | none => simp only [Option.map_none, ih, hmem]
      | some field => simp only [Option.map_some, get?_cons, if_neg hn, ih, hmem]

/-- Nested queries keep nothing under other names than their own. -/
theorem get?_projectNested_of_not_mem {v : Json} {name : String} :
    ∀ {qs : List (String × Query)} {ms : List (String × Json)},
      projectNested v qs = .ok ms → name ∉ qs.map Prod.fst → (Json.object ms).get? name = none
  | [], ms, h, _ => by
    cases h
    rfl
  | (n, q) :: qs, ms, h, hname => by
    obtain ⟨kept, rest, -, hrest, rfl⟩ := projectNested_cons_eq_ok.mp h
    rw [List.map_cons, List.mem_cons, not_or] at hname
    have hnone := get?_projectNested_of_not_mem hrest hname.2
    cases kept with
    | none => exact hnone
    | some w =>
      rw [Option.map_some, Option.toList_some, List.singleton_append, get?_cons,
        if_neg (Ne.symm hname.1), hnone]

/-- **Under the name of a nested query** stands what it keeps of the field of that name. -/
theorem get?_projectNested {v : Json} : ∀ {qs : List (String × Query)} {ms : List (String × Json)},
    projectNested v qs = .ok ms → (qs.map Prod.fst).Nodup →
      ∀ n ∈ qs, projectField v n.1 n.2 = .ok ((Json.object ms).get? n.1)
  | [], _, _, _ => List.forall_mem_nil _
  | (name, q) :: qs, ms, h, hnames => by
    obtain ⟨kept, rest, hkept, hrest, rfl⟩ := projectNested_cons_eq_ok.mp h
    rw [List.map_cons, List.nodup_cons] at hnames
    intro n hn
    rcases List.mem_cons.mp hn with rfl | hn
    · rw [hkept]
      have hnone := get?_projectNested_of_not_mem hrest hnames.1
      cases kept with
      | none => exact congrArg Except.ok hnone.symm
      | some w => simp [get?_cons]
    · rw [get?_projectNested hrest hnames.2 n hn]
      have hne : name ≠ n.1 := fun h =>
        hnames.1 (List.mem_map.mpr ⟨n, hn, h.symm⟩)
      cases kept with
      | none => rfl
      | some w => simp [get?_cons, hne]

/-- Every member that a nested query keeps is what it keeps of the field of its name. -/
theorem exists_of_mem_projectNested {v : Json} :
    ∀ {qs : List (String × Query)} {ms : List (String × Json)}, projectNested v qs = .ok ms →
      ∀ m ∈ ms, ∃ n ∈ qs, ∃ field, v.get? n.1 = some field ∧
        n.2.project n.1 field = .ok (some m.2)
  | [], _, h => by
    cases h
    exact List.forall_mem_nil _
  | (name, q) :: qs, _, h => by
    obtain ⟨kept, rest, hkept, hrest, rfl⟩ := projectNested_cons_eq_ok.mp h
    intro m hm
    rcases List.mem_append.mp hm with hm | hm
    · refine ⟨(name, q), List.mem_cons_self, ?_⟩
      obtain ⟨w, rfl, rfl⟩ := Option.map_eq_some_iff.mp (Option.mem_toList.mp hm)
      rw [projectField] at hkept
      cases hfield : v.get? name with
      | none =>
        rw [hfield] at hkept
        cases hkept
      | some field =>
        rw [hfield] at hkept
        exact ⟨field, rfl, hkept⟩
    · obtain ⟨n, hn, hfield⟩ := exists_of_mem_projectNested hrest m hm
      exact ⟨n, List.mem_cons_of_mem _ hn, hfield⟩

/-- Every nested query keeps something or nothing of the field of its name, and what it keeps is a
member. -/
theorem exists_of_mem_nested {v field : Json} {n : String × Query}
    (hfield : v.get? n.1 = some field) :
    ∀ {qs : List (String × Query)} {ms : List (String × Json)}, projectNested v qs = .ok ms →
      n ∈ qs → ∃ kept, n.2.project n.1 field = .ok kept ∧ ∀ w, kept = some w → (n.1, w) ∈ ms
  | [], _, _, hn => by cases hn
  | (name, q) :: qs, _, h, hn => by
    obtain ⟨kept, rest, hkept, hrest, rfl⟩ := projectNested_cons_eq_ok.mp h
    rcases List.mem_cons.mp hn with rfl | hn
    · rw [projectField, hfield] at hkept
      refine ⟨kept, hkept, ?_⟩
      rintro w rfl
      exact List.mem_append_left _ List.mem_cons_self
    · obtain ⟨other, hother, hmem⟩ := exists_of_mem_nested hfield hrest hn
      exact ⟨other, hother, fun w hw => List.mem_append_right _ (hmem w hw)⟩

theorem names_taken_sublist (q : Query) (v : Json) :
    ((q.taken v).map Prod.fst).Sublist q.fields := by
  unfold taken
  induction q.fields with
  | nil => exact List.Sublist.slnil
  | cons n ns ih =>
    rw [List.filterMap_cons]
    cases v.get? n with
    | none => exact ih.cons n
    | some field => exact ih.cons_cons n

theorem names_projectNested_sublist {v : Json} :
    ∀ {qs : List (String × Query)} {ms : List (String × Json)}, projectNested v qs = .ok ms →
      (ms.map Prod.fst).Sublist (qs.map Prod.fst)
  | [], _, h => by
    cases h
    exact List.Sublist.slnil
  | (n, q) :: qs, _, h => by
    obtain ⟨kept, rest, -, hrest, rfl⟩ := projectNested_cons_eq_ok.mp h
    have ih := names_projectNested_sublist hrest
    cases kept with
    | none => exact ih.cons n
    | some w => exact ih.cons_cons n

/-! ## 2. Looking into a projection -/

section

variable {q : Query} {v : Json} {kept : List (String × Json)}
variable (hq : q.NoRepeats) (hkept : projectNested v q.nested = .ok kept)

theorem noRepeats_iff :
    q.NoRepeats ↔ (q.fields ++ q.nested.map Prod.fst).Nodup ∧ ∀ n ∈ q.nested, n.2.NoRepeats := by
  obtain ⟨fs, ns, qs⟩ := q
  rw [NoRepeats, noRepeatsBelow_iff]
  rfl

include hq hkept

/-- **A field that is taken** is found as it was. -/
theorem get?_kept_field {name : String} (hname : name ∈ q.fields) :
    (Json.object (q.taken v ++ kept)).get? name = v.get? name := by
  obtain ⟨-, -, hdisjoint⟩ := List.nodup_append.mp (noRepeats_iff.mp hq).1
  have hnot : name ∉ q.nested.map Prod.fst := fun h => hdisjoint name hname name h rfl
  rw [get?_append, get?_taken, if_pos hname, get?_projectNested_of_not_mem hkept hnot,
    Option.or_none]

/-- **Under the name of a nested query** is found what the query keeps. -/
theorem get?_kept_nested {n : String × Query} (hn : n ∈ q.nested) :
    projectField v n.1 n.2 = .ok ((Json.object (q.taken v ++ kept)).get? n.1) := by
  obtain ⟨-, hnames, hdisjoint⟩ := List.nodup_append.mp (noRepeats_iff.mp hq).1
  have hnot : n.1 ∉ q.fields := fun h => hdisjoint n.1 h n.1 (List.mem_map_of_mem hn) rfl
  rw [get?_append, get?_taken, if_neg hnot, Option.none_or]
  exact get?_projectNested hkept hnames n hn

/-- **Another query keeps the same of what a nested query kept** as of the field itself, if it keeps
the same of any value that was kept, and nothing of a field of which nothing was. -/
theorem projectField_kept {n : String × Query} (hn : n ∈ q.nested) {p : Query}
    (hsome : ∀ {field w : Json},
      n.2.project n.1 field = .ok (some w) → p.project n.1 w = p.project n.1 field)
    (hnone : ∀ {field : Json},
      n.2.project n.1 field = .ok none → p.project n.1 field = .ok none) :
    projectField (.object (q.taken v ++ kept)) n.1 p = projectField v n.1 p := by
  have hfound := get?_kept_nested hq hkept hn
  rw [projectField] at hfound
  rw [projectField, projectField]
  cases hv : v.get? n.1 with
  | none =>
    rw [hv] at hfound
    rw [← Except.ok.inj hfound]
  | some field =>
    rw [hv] at hfound
    cases hw : (Json.object (q.taken v ++ kept)).get? n.1 with
    | none =>
      rw [hw] at hfound
      exact (hnone hfound).symm
    | some w =>
      rw [hw] at hfound
      exact hsome hfound

/-- The names that are found in a projection are distinct. -/
theorem nodup_kept : ((q.taken v ++ kept).map Prod.fst).Nodup := by
  rw [List.map_append]
  exact ((names_taken_sublist q v).append (names_projectNested_sublist hkept)).nodup
    (noRepeats_iff.mp hq).1

end

/-! ## 3. What is kept of an array and of an object -/

section

variable {q : Query} {name : String} {es : List Json} {ms : List (String × Json)} {w : Json}

/-- **What is kept of an array** is the array of what is kept of its elements. -/
theorem project_array_eq_ok {kept : Option Json} :
    q.project name (.array es) = .ok kept ↔
      ∃ ks, es.mapM (q.project name) = .ok ks ∧ kept = some (.array (ks.filterMap id)) := by
  rw [project_array, ok_map_iff]
  exact exists_congr fun ks => and_congr_right fun _ => eq_comm

/-- **What is kept of an object** is the fields that are taken and what nested queries keep, if its
clauses hold. -/
theorem project_object_eq_ok :
    q.project name (.object ms) = .ok (some w) ↔ q.clausesHold (.object ms) = true ∧
      ∃ kept, projectNested (.object ms) q.nested = .ok kept ∧
        w = .object (q.taken (.object ms) ++ kept) := by
  rw [project_object]
  by_cases hclauses : q.clausesHold (.object ms) = true
  · rw [if_pos hclauses, ok_map_iff]
    simp only [hclauses, true_and, Option.some.injEq]
    exact exists_congr fun kept => and_congr_right fun _ => eq_comm
  · rw [if_neg hclauses]
    simp [hclauses]

/-- **Only an object is rejected,** and only by its clauses. -/
theorem project_eq_ok_none {v : Json} (h : q.project name v = .ok none) :
    ∃ ms, v = .object ms ∧ q.clausesHold v = false := by
  cases v with
  | array es =>
    obtain ⟨_, _, h⟩ := project_array_eq_ok.mp h
    cases h
  | object ms =>
    refine ⟨ms, rfl, ?_⟩
    rw [project_object] at h
    split at h
    · obtain ⟨_, _, h⟩ := ok_map_iff.mp h
      cases h
    · next hclauses => simpa using hclauses
  | _ =>
    rw [project_scalar _ rfl] at h
    split at h
    all_goals cases h

/-- A scalar is kept as it is, if anything is. -/
theorem project_scalar_eq_ok {v : Json} {kept : Option Json} (hv : v.kind.isScalar = true)
    (h : q.project name v = .ok kept) : kept = some v := by
  rw [project_scalar _ hv] at h
  split at h
  · cases h
    rfl
  · cases h

/-! ## 4. What a clause accepts -/

/-- A list of scalars has only scalars. -/
theorem isScalar_of_mem_mapM {es : List Json} {ss : List Scalar}
    (h : es.mapM Json.scalar? = some ss) : ∀ e ∈ es, e.kind.isScalar = true := by
  intro e he
  obtain ⟨s, -, hs⟩ := exists_of_mem_of_map_eq (mapM_eq_some_iff.mp h) he
  rw [← Json.isSome_scalar?, hs]
  rfl

/-- **A field that some clause accepts** is kept as it is, if anything is. -/
theorem project_of_accepts {f : Filter} {field : Json} {kept : Option Json}
    (hf : f.accepts (.ofJson field) = true) (h : q.project name field = .ok kept) :
    kept = some field := by
  cases field with
  | array es =>
    rw [f.accepts_array] at hf
    obtain ⟨ss, hss, -⟩ := (Option.any_eq_true _ _).mp hf
    obtain ⟨ks, hks, rfl⟩ := project_array_eq_ok.mp h
    have hscalars := isScalar_of_mem_mapM hss
    have hall : es.mapM (q.project name) = .ok (es.map some) := mapM_eq_map fun e he => by
      obtain ⟨kept, -, hkept⟩ := exists_of_mem_of_mapM hks e he
      rw [hkept, project_scalar_eq_ok (hscalars e he) hkept]
    rw [hall] at hks
    cases hks
    rw [List.filterMap_map, Function.id_comp, List.filterMap_some]
  | object ms =>
    rw [f.accepts_of_not_array rfl] at hf
    cases hf
  | _ => exact project_scalar_eq_ok rfl h

end

/-! ## 5. The numbers of a projection -/

/-- **A projection has no numbers but those of the document.** -/
theorem mem_numbers_of_project (q : Query) : ∀ {name : String} {v w : Json} {n : Number},
    q.project name v = .ok (some w) → n ∈ w.numbers → n ∈ v.numbers := by
  induction q with
  | node fs ns qs ih =>
    intro name v w n h hn
    induction v generalizing w with
    | scalar v hv =>
      cases project_scalar_eq_ok hv h
      exact hn
    | array es iharray =>
      obtain ⟨ks, hks, hw⟩ := project_array_eq_ok.mp h
      cases hw
      obtain ⟨w, hw, hn⟩ := Json.mem_numbers_array.mp hn
      obtain ⟨k, hk, rfl⟩ := List.mem_filterMap.mp hw
      obtain ⟨e, he, hproject⟩ := exists_of_mem_mapM hks _ hk
      exact Json.mem_numbers_array.mpr ⟨e, he, iharray e he hproject hn⟩
    | object ms _ =>
      obtain ⟨-, kept, hkept, rfl⟩ := project_object_eq_ok.mp h
      obtain ⟨m, hm, hn⟩ := Json.mem_numbers_object.mp hn
      rcases List.mem_append.mp hm with hm | hm
      · obtain ⟨name, -, hm⟩ := List.mem_filterMap.mp hm
        obtain ⟨field, hfield, rfl⟩ := Option.map_eq_some_iff.mp hm
        exact Json.mem_numbers_of_get? hfield hn
      · obtain ⟨n, hmem, field, hfield, hproject⟩ := exists_of_mem_projectNested hkept m hm
        exact Json.mem_numbers_of_get? hfield (ih n hmem hproject hn)

end Query

end JsonSieve
