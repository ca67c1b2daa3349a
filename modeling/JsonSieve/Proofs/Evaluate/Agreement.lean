/-
# Admission before and after a projection

Whether a query admits a document can be told from what it keeps of it, in part always and in full
if its clauses look only at what is kept.  A rejected document is not admitted
(`check_of_rejected`).  A document is admitted if its projection is (`check_of_check_kept`): the
clauses held when it was made, and a nested query that admits what it kept has a field to admit.
The other way about (`check_kept`) the clauses have to hold of the projection as well, and no
element or field that is admitted may be missing from it, which is so because only what is not
admitted is rejected.
-/
import JsonSieve.Proofs.Evaluate.Again
import JsonSieve.Proofs.Evaluate.Rejection

namespace JsonSieve.Query

/-! ## 1. One value -/

/-- **What is rejected is not admitted.** -/
theorem check_of_rejected {q : Query} {name : String} {v : Json}
    (h : q.project name v = .ok none) : q.check v = false := by
  obtain ⟨ms, rfl, hclauses⟩ := project_eq_ok_none h
  rw [check_object, hclauses, Bool.false_and]

/-- A nested query has kept something of a field exactly when the field is there and has not been
rejected. -/
theorem projectField_eq_ok_some {q : Query} {name : String} {v w : Json} :
    projectField v name q = .ok (some w) ↔
      ∃ field, v.get? name = some field ∧ q.project name field = .ok (some w) := by
  rw [projectField]
  cases v.get? name with
  | none => simp
  | some field => simp

/-- **A value is admitted if what is kept of it is.** -/
theorem check_of_check_kept (q : Query) : ∀ {name : String} {v w : Json}, q.NoRepeats →
    q.project name v = .ok (some w) → q.check w = true → q.check v = true := by
  induction q with
  | node fs ns qs ih =>
    intro name v w hq h hw
    have hbelow := (noRepeats_iff.mp hq).2
    induction v generalizing w with
    | scalar v hv => exact check_scalar _ hv
    | array es iharray =>
      obtain ⟨ks, hks, hkept⟩ := project_array_eq_ok.mp h
      cases hkept
      rw [check_array, List.any_eq_true] at hw ⊢
      obtain ⟨w, hmem, hw⟩ := hw
      obtain ⟨k, hk, rfl⟩ := List.mem_filterMap.mp hmem
      obtain ⟨e, he, hproject⟩ := exists_of_mem_mapM hks _ hk
      exact ⟨e, he, iharray e he hproject hw⟩
    | object ms _ =>
      obtain ⟨hclauses, kept, hkept, rfl⟩ := project_object_eq_ok.mp h
      refine check_object_iff.mpr ⟨hclauses, fun n hn => ?_⟩
      obtain ⟨w, hfound, hadmits⟩ := (check_object_iff.mp hw).2 n hn
      have hnested := get?_kept_nested hq hkept hn
      rw [hfound] at hnested
      obtain ⟨field, hfield, hproject⟩ := projectField_eq_ok_some.mp hnested
      exact ⟨field, hfield, ih n hn (hbelow n hn) hproject hadmits⟩

/-- **What is kept of a value that is admitted is admitted,** if the clauses look only at what is
kept. -/
theorem check_kept (q : Query) : ∀ {name : String} {v w : Json}, q.NoRepeats →
    q.filtersKept = true → q.project name v = .ok (some w) → q.check v = true →
      q.check w = true := by
  induction q with
  | node fs ns qs ih =>
    intro name v w hq hkeys h hv
    have hbelow := (noRepeats_iff.mp hq).2
    obtain ⟨hfilters, hkeysBelow⟩ := filtersKept_iff.mp hkeys
    induction v generalizing w with
    | scalar v hs =>
      cases project_scalar_eq_ok hs h
      exact hv
    | array es iharray =>
      obtain ⟨ks, hks, hkept⟩ := project_array_eq_ok.mp h
      cases hkept
      rw [check_array, List.any_eq_true] at hv ⊢
      obtain ⟨e, he, hadmits⟩ := hv
      obtain ⟨k, hk, hproject⟩ := exists_of_mem_of_mapM hks e he
      -- the element that is admitted has not been dropped
      cases k with
      | none =>
        rw [check_of_rejected hproject] at hadmits
        cases hadmits
      | some w => exact ⟨w, List.mem_filterMap.mpr ⟨_, hk, rfl⟩, iharray e he hproject hadmits⟩
    | object ms _ =>
      obtain ⟨hclauses, kept, hkept, rfl⟩ := project_object_eq_ok.mp h
      refine check_object_iff.mpr ⟨clausesHold_kept hq hkept hfilters hclauses, fun n hn => ?_⟩
      obtain ⟨field, hfield, hadmits⟩ := (check_object_iff.mp hv).2 n hn
      have hnested := get?_kept_nested hq hkept hn
      rw [projectField, hfield] at hnested
      cases hfound : (Json.object ((node fs ns qs).taken (.object ms) ++ kept)).get? n.1 with
      | none =>
        rw [hfound] at hnested
        rw [check_of_rejected hnested] at hadmits
        cases hadmits
      | some w =>
        rw [hfound] at hnested
        exact ⟨w, rfl, ih n hn (hbelow n hn) (hkeysBelow n hn) hnested hadmits⟩

/-! ## 2. The text of a projection -/

section

variable {ρ : Rounding} {text source kept : String} {d : Json} {q : Query}

/-- **Admission and keeping agree.**  A document of which nothing is kept is not admitted.  If
anything is kept, the text reads back, a document is admitted if what is read back is, and it is
admitted exactly then if the clauses look only at what is kept.  The numbers of the document have to
be restored by the rounding. -/
theorem check_of_keep (hd : Command.readDocument ρ text = .ok d) (hρ : d.RestoredBy ρ)
    (hq : compile source = .ok q) (hkeep : q.keep d = .ok kept) :
    (kept = "" → q.check d = false) ∧
      (kept ≠ "" → ∃ d', Command.readDocument ρ kept = .ok d' ∧
        (q.check d' = true → q.check d = true) ∧
        (q.filtersKept = true → q.check d' = q.check d)) := by
  have hnames := noRepeats_of_compile hq
  constructor
  · rintro rfl
    exact @check_of_rejected q rootName d
      (project_eq_none_iff.mpr (keep_eq_empty_iff.mp hkeep))
  · intro hne
    obtain ⟨w, hw, rfl⟩ := projection_of_keep hkeep hne
    have hdoc := isDocument_projection_restored hd hρ hq hw
    refine ⟨w.plainZeros, readDocument_kept hd hρ hq hw, ?_⟩
    have hzeros : q.check w.plainZeros = q.check w :=
      check_renumber (sameVerdicts_plainZero _) q hdoc
    rw [hzeros]
    refine ⟨check_of_check_kept q hnames hw, fun hkeys => ?_⟩
    rw [Bool.eq_iff_iff]
    exact ⟨check_of_check_kept q hnames hw, check_kept q hnames hkeys hw⟩

theorem check_of_keep_flags :
    ∃ d', Command.readDocument .bestEffort "\x7b\"b\":[\x7b\"c\":true\x7d]\x7d" = .ok d' ∧
      check d' (.node [] [] [("b", .node [⟨"c", .strictEq, "true"⟩] ["c"] [])]) = true := by
  have hd : Command.readDocument .bestEffort
      "\x7b\"b\":[\x7b\"c\":true\x7d,\x7b\"c\":false\x7d]\x7d" =
      .ok (.object [("b", .array [.object [("c", .bool true)],
        .object [("c", .bool false)]])]) := by cbv
  have hq : compile "\x7bb(c === true)\x7bc\x7d\x7d" =
      .ok (.node [] [] [("b", .node [⟨"c", .strictEq, "true"⟩] ["c"] [])]) := by cbv
  have hkeep : keep (.node [] [] [("b", .node [⟨"c", .strictEq, "true"⟩] ["c"] [])])
      (.object [("b", .array [.object [("c", .bool true)], .object [("c", .bool false)]])]) =
      .ok "\x7b\"b\":[\x7b\"c\":true\x7d]\x7d" := by cbv
  obtain ⟨d', hd', -, hcheck⟩ := (check_of_keep hd (by decide) hq hkeep).2 (by decide)
  exact ⟨d', hd', (hcheck (by decide)).trans (by decide)⟩

end

end JsonSieve.Query
