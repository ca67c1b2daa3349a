/-
# Indented answers

A request may ask for its answer over several lines.  The answer in one line is then read as a
document and written again, so two things could go wrong: the text might not be read, or something
else might be written.  Neither does, if the rounding restores the numbers of the document.  Without
the blanks outside of strings, what comes of the request is then what comes of it in one line,
errors included (`execute_indented`).

All rests on `layOut_unspaced`: the text of a document in the double format is laid out, and only
blanks are added.  What is kept of a document is one, and so is the array of what a search finds,
and their numbers are numbers of the document.
-/
import JsonSieve.Command.Run
import JsonSieve.Proofs.Evaluate.Again
import JsonSieve.Proofs.Evaluate.Retrieve
import JsonSieve.Proofs.Evaluate.Search
import JsonSieve.Proofs.Json.Unspaced

namespace JsonSieve

open Json.Reader

/-! ## 1. Texts -/

namespace Command

/-- The outcome without the blanks outside of strings, if it is a JSON text. -/
def Outcome.unspaced : Outcome → Outcome
  | json text => json (String.ofList (JsonSieve.unspaced text.toList))
  | o => o

section

variable {ρ : Rounding}

/-- **A document is laid out,** and only blanks are added to its text. -/
theorem layOut_unspaced {v : Json} (h : v.IsDocument (Number.IsRestored ρ) maxDepth) :
    (layOut ρ true v.compact).map Outcome.unspaced = layOut ρ false v.compact := by
  have hread : readDocument ρ v.compact = .ok v.plainZeros :=
    readDocument_render Spacing.isBlank_compact h
  have htext : v.plainZeros.render .compact 0 = v.render .compact 0 :=
    Json.render_renumber (fun n _ => n.jsonText_plainZero) 0
  have hunspaced : JsonSieve.unspaced v.plainZeros.indented.toList = v.render .compact 0 := by
    rw [Json.indented, String.toList_ofList, Json.unspaced_render Spacing.isBlank_indented, htext]
  rw [layOut, if_pos rfl, hread]
  exact congrArg (fun s => Except.ok (Outcome.json (String.ofList s))) hunspaced

/-! ## 2. Projections -/

section

variable {q : Query} {d : Json} {text : String}

/-- What is kept of a document is the text of one and is laid out as such, unless nothing is
kept. -/
theorem exists_projected_eq {P : Number → Prop} (hq : q.NoRepeats) (hd : d.IsDocument P maxDepth)
    (h : q.keep d = .ok text) (hne : text ≠ "") :
    ∃ w : Json, w.IsDocument P maxDepth ∧
      ∀ indented, projected ρ indented text = layOut ρ indented w.compact := by
  obtain ⟨w, hw, rfl⟩ := Query.projection_of_keep h hne
  have hempty : (String.ofList (w.render .compact 0)).isEmpty = false := by
    simpa using hne
  refine ⟨w, Query.isDocument_project q hq hd hw, fun indented => ?_⟩
  simp only [projected, hempty]
  rfl

/-- **What is kept of a document is laid out,** unless nothing is. -/
theorem projected_keep (hq : q.NoRepeats) (hd : d.IsDocument (Number.IsRestored ρ) maxDepth)
    (h : q.keep d = .ok text) :
    (projected ρ true text).map Outcome.unspaced = projected ρ false text := by
  by_cases hne : text = ""
  · subst hne
    rfl
  · obtain ⟨w, hw, hlayOut⟩ := exists_projected_eq (ρ := ρ) hq hd h hne
    rw [hlayOut, hlayOut]
    exact layOut_unspaced hw

theorem projected_retrieve (hq : q.NoRepeats) (hd : d.IsDocument (Number.IsRestored ρ) maxDepth)
    (h : q.retrieve d = .ok text) :
    (projected ρ true text).map Outcome.unspaced = projected ρ false text := by
  rw [Query.retrieve_eq_keep] at h
  exact projected_keep (Query.noRepeats_trusting hq d.kind) hd h

end

/-! ## 3. Searches -/

/-- Elements have a comma between them, and none before the first. -/
theorem elementsText_eq_intercalate : ∀ es : List Json,
    elementsText true es = [','].intercalate (es.map fun e => e.render .compact 0)
  | [] => rfl
  | [e] => by simp [elementsText, comma]
  | e :: d :: es => by
    have ih := elementsText_eq_intercalate (d :: es)
    rw [List.map_cons, List.map_cons, List.intercalate_cons_cons, ← List.map_cons, ← ih]
    simp [elementsText, comma]

/-- The text of what is found is the text of an array. -/
theorem scalarsText_eq_compact {es : List Json} {ss : List Scalar}
    (h : es.map Json.scalar? = ss.map some) : scalarsText ss = (Json.array es).compact := by
  have hrender : ∀ e ∈ es,
      e.render .compact 0 = ((Option.elim · [] Scalar.jsonText) ∘ Json.scalar?) e := by
    intro e he
    obtain ⟨s, -, hs⟩ := exists_of_mem_of_map_eq h he
    rw [Json.render_of_scalar? hs, Function.comp, hs, Option.elim]
  rw [scalarsText, Json.compact, Json.render_array, elementsText_eq_intercalate,
    List.map_congr_left hrender, ← List.map_map, h, List.map_map]
  rfl

theorem layOut_search {d : Json} {keys : List String} {ss : List Scalar}
    (hd : d.IsDocument (Number.IsRestored ρ) maxDepth) (h : d.search keys = .ok ss) :
    (layOut ρ true (scalarsText ss)).map Outcome.unspaced = layOut ρ false (scalarsText ss) := by
  obtain ⟨es, hes, hdoc⟩ := Json.exists_array_of_search hd h (maxDepth - 1)
  rw [scalarsText_eq_compact hes]
  exact layOut_unspaced hdoc

/-! ## 4. Requests -/

/-- A step that is the same either way may be left out. -/
theorem bind_unspaced {α : Type} {x : Except Failure α} {f g : α → Except Failure Outcome}
    (h : ∀ a, x = .ok a → (f a).map Outcome.unspaced = g a) :
    (x >>= f).map Outcome.unspaced = x >>= g := by
  cases x with
  | error err => rfl
  | ok a => exact h a rfl

/-- The document of a request is one in the double format. -/
theorem isDocument_of_document {request : Request} {d : Json} (h : request.document ρ = .ok d) :
    d.IsDocument Number.IsFiniteReal maxDepth := by
  unfold Request.document at h
  split at h
  · exact isDocument_of_readDocument h
  · cases h

/-- **Asking for several lines adds blanks and nothing else:** whatever the request, what comes of
it is the same without the blanks outside of strings, be it an error, an admission, a rejection, a
compiled query or a JSON text.  This takes a rounding that restores the numbers of the document, if
there is one, since they are read again before they are laid out. -/
theorem execute_indented (action : Action) (query : String) {input? : Option String}
    (hρ : ∀ text ∈ input?, ∀ d, readDocument ρ text = .ok d → d.RestoredBy ρ) :
    (execute ρ ⟨action, query, input?, true⟩).map Outcome.unspaced =
      execute ρ ⟨action, query, input?, false⟩ := by
  have hrestored : ∀ {indented : Bool} {d : Json},
      Request.document ρ ⟨action, query, input?, indented⟩ = .ok d →
        d.IsDocument (Number.IsRestored ρ) maxDepth := fun {_ d} hd => by
    unfold Request.document at hd
    split at hd
    · next text htext => exact isDocument_of_restoredBy hd (hρ text htext d hd)
    · cases hd
  cases action with
  | compile => exact bind_unspaced fun q _ => rfl
  | check => exact bind_unspaced fun q _ => bind_unspaced fun d _ => rfl
  | search =>
    refine bind_unspaced fun d hd => bind_unspaced fun ss hss => ?_
    exact layOut_search (hrestored hd) (ok_mapError_iff.mp hss)
  | keep =>
    refine bind_unspaced fun q hq => bind_unspaced fun d hd => bind_unspaced fun text htext => ?_
    exact projected_keep (Query.noRepeats_of_compile (ok_mapError_iff.mp hq)) (hrestored hd)
      (ok_mapError_iff.mp htext)
  | retrieve =>
    refine bind_unspaced fun q hq => bind_unspaced fun d hd => bind_unspaced fun text htext => ?_
    exact projected_retrieve (Query.noRepeats_of_compile (ok_mapError_iff.mp hq)) (hrestored hd)
      (ok_mapError_iff.mp htext)

/-- The rounding by parts restores the only number of this document, so its array is laid out. -/
theorem execute_indented_array :
    (execute .bestEffort ⟨.keep, "\x7ba\x7d", some (Json.object [("a", .array
        [.number (.real (.ofDecimal false ⟨25, -1⟩)), .string "b c"])]).compact, true⟩).map
      Outcome.unspaced =
    execute .bestEffort ⟨.keep, "\x7ba\x7d", some (Json.object [("a", .array
        [.number (.real (.ofDecimal false ⟨25, -1⟩)), .string "b c"])]).compact, false⟩ := by
  have hplain : (Binary64.ofDecimal false ⟨25, -1⟩).plainZero = .ofDecimal false ⟨25, -1⟩ := by
    decide +kernel
  have hdoc : (Json.object [("a", .array [.number (.real (.ofDecimal false ⟨25, -1⟩)),
      .string "b c"])]).IsDocument (Number.IsRestored .bestEffort) maxDepth := by
    refine .object (by decide) (List.forall_mem_singleton.mpr (.array ?_))
    simp only [List.forall_mem_cons]
    exact ⟨.number (by decide +kernel), .string _, List.forall_mem_nil _⟩
  have hread := readDocument_render Spacing.isBlank_compact hdoc
  refine execute_indented .keep _ fun text htext d hd => ?_
  obtain rfl := Option.some.inj htext
  obtain rfl := Except.ok.inj (hread.symm.trans hd)
  simp only [Json.plainZeros, Json.renumber, Json.mapNumbers, Json.mapNumbersIn,
    Json.mapNumbersOf, Number.plainZero, hplain]
  decide +kernel

end

end Command
end JsonSieve
