/-
# Projecting a projection

A query whose clauses look only at what it keeps keeps all of its own projection (`project_again`).
A clause on a field that is taken sees the same field again; one on the name of a nested query sees
what that query keeps, which is all of the field, since only arrays of scalars and scalars are ever
accepted.

A projection is a document (`isDocument_project`), and its numbers are numbers of the document.  So
its text reads back if the rounding restores the numbers of the document, and keeping what was kept
gives the same text.
-/
import Mathlib
import JsonSieve.Proofs.Evaluate.Kept
import JsonSieve.Proofs.Evaluate.Keep
import JsonSieve.Proofs.Query.Spelling

namespace JsonSieve.Query

/-! ## 1. Clauses on a projection -/

section

variable {q : Query} {v : Json} {kept : List (String × Json)}

/-- **Clauses that hold of an object hold of its projection,** if they look only at what is kept. -/
theorem clausesHold_kept (hq : q.NoRepeats) (hkept : projectNested v q.nested = .ok kept)
    (hfilters : ∀ f ∈ q.filters, f.key ∈ q.fields ∨ f.key ∈ q.nested.map Prod.fst)
    (hv : q.clausesHold v = true) :
    q.clausesHold (.object (q.taken v ++ kept)) = true := by
  unfold clausesHold at hv ⊢
  rw [List.all_eq_true] at hv ⊢
  intro f hf
  obtain ⟨field, hfield, haccepts⟩ := (Option.any_eq_true _ _).mp (hv f hf)
  have hfound : (Json.object (q.taken v ++ kept)).get? f.key = some field := by
    -- a nested query may have dropped parts of its field, but not of one that a clause accepts
    rcases hfilters f hf with hkey | hkey
    · rw [get?_kept_field hq hkept hkey, hfield]
    · obtain ⟨n, hn, hname⟩ := List.mem_map.mp hkey
      have hnested := get?_kept_nested hq hkept hn
      rw [projectField, hname, hfield] at hnested
      exact project_of_accepts haccepts hnested
  rw [Filter.admits, hfound]
  exact haccepts

/-! ## 2. Fields of a projection -/

/-- The fields that a projection has are taken from it again. -/
theorem taken_kept (hq : q.NoRepeats) (hkept : projectNested v q.nested = .ok kept) :
    q.taken (.object (q.taken v ++ kept)) = q.taken v :=
  taken_congr fun _ hname => get?_kept_field hq hkept hname

/-- Nested queries keep of a projection what they kept of the object, if each keeps all of what it
kept. -/
theorem projectNested_kept (hq : q.NoRepeats) (hkept : projectNested v q.nested = .ok kept)
    (hagain : ∀ n ∈ q.nested, ∀ {field w : Json},
      n.2.project n.1 field = .ok (some w) → n.2.project n.1 w = .ok (some w)) :
    projectNested (.object (q.taken v ++ kept)) q.nested = .ok kept := by
  rw [← hkept]
  exact projectNested_congr fun n hn =>
    projectField_kept hq hkept hn (fun h => (hagain n hn h).trans h.symm) fun h => h

end

/-! ## 3. The whole projection -/

/-- **A query keeps all of its own projection,** if its clauses look only at what is kept. -/
theorem project_again (q : Query) : ∀ {name : String} {v w : Json}, q.NoRepeats →
    q.filtersKept = true → q.project name v = .ok (some w) → q.project name w = .ok (some w) := by
  induction q with
  | node fs ns qs ih =>
    intro name v w hq hkeys h
    obtain ⟨hfilters, hbelow⟩ := filtersKept_iff.mp hkeys
    have hnested := (noRepeats_iff.mp hq).2
    induction v generalizing w with
    | scalar v hv =>
      cases project_scalar_eq_ok hv h
      exact h
    | array es iharray =>
      obtain ⟨ks, hks, hw⟩ := project_array_eq_ok.mp h
      cases hw
      have hagain : (ks.filterMap id).mapM ((node fs ns qs).project name) =
          .ok ((ks.filterMap id).map some) := mapM_eq_map fun w hw => by
        obtain ⟨k, hk, rfl⟩ := List.mem_filterMap.mp hw
        obtain ⟨e, he, hproject⟩ := exists_of_mem_mapM hks _ hk
        exact iharray e he hproject
      rw [project_array, hagain]
      simp [Except.map]
    | object ms _ =>
      obtain ⟨hclauses, kept, hkept, rfl⟩ := project_object_eq_ok.mp h
      refine project_object_eq_ok.mpr ⟨clausesHold_kept hq hkept hfilters hclauses, kept, ?_, ?_⟩
      · exact projectNested_kept hq hkept fun n hn _ _ => ih n hn (hnested n hn) (hbelow n hn)
      · rw [taken_kept hq hkept]

/-! ## 4. Projections as documents -/

/-- **What a query keeps of a document is a document.** -/
theorem isDocument_project {P : Number → Prop} (q : Query) : ∀ {depth : Nat} {name : String}
    {v w : Json}, q.NoRepeats → v.IsDocument P depth → q.project name v = .ok (some w) →
      w.IsDocument P depth := by
  induction q with
  | node fs ns qs ih =>
    intro depth name v w hq hv h
    have hnested := (noRepeats_iff.mp hq).2
    induction hv generalizing w with
    | scalar hs hn =>
      cases project_scalar_eq_ok hs h
      exact .scalar hs hn
    | array _ iharray =>
      obtain ⟨ks, hks, hw⟩ := project_array_eq_ok.mp h
      cases hw
      refine .array fun w hw => ?_
      obtain ⟨k, hk, rfl⟩ := List.mem_filterMap.mp hw
      obtain ⟨e, he, hproject⟩ := exists_of_mem_mapM hks _ hk
      exact iharray e he hproject
    | @object depth ms hnames hms _ =>
      obtain ⟨-, kept, hkept, rfl⟩ := project_object_eq_ok.mp h
      refine .object (nodup_kept hq hkept) fun m hm => ?_
      rcases List.mem_append.mp hm with hm | hm
      · obtain ⟨name, -, hm⟩ := List.mem_filterMap.mp hm
        obtain ⟨field, hfield, rfl⟩ := Option.map_eq_some_iff.mp hm
        exact hms (name, field) (Json.mem_members_of_get? hfield)
      · obtain ⟨n, hn, field, hfield, hproject⟩ := exists_of_mem_projectNested hkept m hm
        exact ih n hn (hnested n hn) (hms (n.1, field) (Json.mem_members_of_get? hfield)) hproject

/-! ## 5. The text of a projection -/

section

variable {ρ : Rounding} {text source kept : String} {d : Json} {q : Query}

/-- What is kept of a document by a compiled query is a document. -/
theorem isDocument_projection {P : Number → Prop} {depth : Nat} (hd : d.IsDocument P depth)
    (hq : compile source = .ok q) {w : Json} (hw : q.projection d = .ok (some w)) :
    w.IsDocument P depth :=
  isDocument_project q (noRepeats_of_compile hq) hd hw

/-- **A text that was kept** is that of a projection, unless it is empty. -/
theorem projection_of_keep (h : q.keep d = .ok kept) (hne : kept ≠ "") :
    ∃ w, q.projection d = .ok (some w) ∧ kept = String.ofList (w.render .compact 0) := by
  rw [keep_eq_keptText, ok_map_iff] at h
  obtain ⟨w?, hw, rfl⟩ := h
  cases w? with
  | none => exact absurd rfl hne
  | some w => exact ⟨w, hw, rfl⟩

section

variable (hd : Command.readDocument ρ text = .ok d) (hρ : d.RestoredBy ρ)
  (hq : compile source = .ok q)
include hd hρ hq

/-- What is kept of a document is one of numbers that are restored, if those of the document are. -/
theorem isDocument_projection_restored {w : Json} (hw : q.projection d = .ok (some w)) :
    w.IsDocument (Number.IsRestored ρ) Json.Reader.maxDepth :=
  isDocument_projection (Command.isDocument_of_restoredBy hd hρ) hq hw

/-- **The text of a projection reads back** as the projection, but for the signs of zeros, if the
numbers of the document are restored. -/
theorem readDocument_kept {w : Json} (hw : q.projection d = .ok (some w)) :
    Command.readDocument ρ (String.ofList (w.render .compact 0)) = .ok w.plainZeros :=
  Command.readDocument_render Spacing.isBlank_compact (isDocument_projection_restored hd hρ hq hw)

/-- **Keeping what was kept gives the same text,** if the clauses look only at what is kept and the
numbers of the document are restored: the text is that of a document, and nothing more is dropped
from it. -/
theorem keep_again (hkeys : q.filtersKept = true) (hkeep : q.keep d = .ok kept) (hne : kept ≠ "") :
    ∃ d', Command.readDocument ρ kept = .ok d' ∧ q.keep d' = .ok kept := by
  obtain ⟨w, hw, rfl⟩ := projection_of_keep hkeep hne
  have hdoc := isDocument_projection_restored hd hρ hq hw
  refine ⟨w.plainZeros, readDocument_kept hd hρ hq hw, ?_⟩
  have hagain : q.projection w = .ok (some w) :=
    project_again q (noRepeats_of_compile hq) hkeys hw
  have hzeros : q.projection w.plainZeros = .ok (some w.plainZeros) := by
    have := project_renumber (sameVerdicts_plainZero _) q rootName hdoc
    rw [projection, Json.plainZeros, this]
    exact congrArg (Except.map (Option.map (Json.renumber Number.plainZero))) hagain
  have htext : w.plainZeros.render .compact 0 = w.render .compact 0 :=
    Json.render_renumber (fun n _ => n.jsonText_plainZero) 0
  rw [keep_eq_keptText, hzeros, ← htext]
  rfl

end

/-- A member is left out, and a number that the rounding by parts restores is kept. -/
theorem keep_again_flags :
    ∃ d', Command.readDocument .bestEffort (Json.object [("c", .bool true),
        ("f", .number (.real (.ofDecimal false ⟨25, -1⟩)))]).compact = .ok d' ∧
      keep (.node [⟨"c", .strictEq, "true"⟩] ["c", "f"] []) d' = .ok (Json.object
        [("c", .bool true), ("f", .number (.real (.ofDecimal false ⟨25, -1⟩)))]).compact := by
  have hplain : (Binary64.ofDecimal false ⟨25, -1⟩).plainZero = .ofDecimal false ⟨25, -1⟩ := by
    decide +kernel
  have hdoc : (Json.object [("c", .bool true), ("e", .null),
      ("f", .number (.real (.ofDecimal false ⟨25, -1⟩)))]).IsDocument
        (Number.IsRestored .bestEffort) Json.Reader.maxDepth := by
    refine .object (by decide) ?_
    simp only [List.forall_mem_cons]
    exact ⟨.bool _, .null, .number (by decide +kernel),
      List.forall_mem_nil _⟩
  have hd := Command.readDocument_render Spacing.isBlank_compact hdoc
  simp only [Json.plainZeros, Json.renumber, Json.mapNumbers, Json.mapNumbersIn,
    Number.plainZero, hplain] at hd
  have hq : compile "(c === true)\x7bc,f\x7d" =
      .ok (.node [⟨"c", .strictEq, "true"⟩] ["c", "f"] []) := by cbv
  refine keep_again hd (by decide +kernel) hq (by decide) ?_ ?_
  · rw [keep_eq_keptText]
    rfl
  · rw [ne_eq, Json.compact, String.ofList_eq_empty_iff]
    exact List.cons_ne_nil _ _

end

end JsonSieve.Query
