/-
# How requests end

What comes of a request says what was right and wrong with it (`execute_classified`).  A query that
does not compile is told before an input that is missing, that before one that is no document, and
that before an evaluation that fails.

A rejection is seen only by the text of the projection, which is then empty.  This is sound because
no value has an empty text: of whatever is not rejected a text is kept, the text is that of a
document, and it can be laid out (`exists_layOut`).  The latter takes a rounding that reads the text
of every finite number, which the nearest one does and the one that the program runs with
(`Rounding.acceptsWritten_bestEffort`).
-/
import JsonSieve.Proofs.Command.Indented
import JsonSieve.Proofs.Evaluate.Rejection
import JsonSieve.Proofs.Json.Accepted

namespace JsonSieve.Command

open Json.Reader

/-! ## 1. The ends of a request -/

/-- The evaluation whose text is asked for by an action, if it asks for one of a query. -/
def Action.evaluation? : Action → Option (Query → Json → Except EvalError String)
  | keep => some Query.keep
  | retrieve => some Query.retrieve
  | _ => none

/-- **What comes of a request,** by what is right and wrong with its parts. -/
structure Request.Classified (ρ : Rounding) (request : Request) : Prop where
  /-- Of a text that is no query comes its error, whatever the input. -/
  query : request.action ∈ [.check, .keep, .retrieve] →
    ∀ e, Query.compile request.query = .error e → execute ρ request = .error (.query e)
  /-- Then the input has to be there. -/
  input : request.action ∈ [.check, .keep, .retrieve] →
    ∀ q, Query.compile request.query = .ok q → request.input? = none →
      execute ρ request = .error .noInput
  /-- Then of a text that is no document comes its error. -/
  document : request.action ∈ [.check, .keep, .retrieve] →
    ∀ q text e, Query.compile request.query = .ok q → request.input? = some text →
      Json.read ρ text = .error e → execute ρ request = .error (.document e)
  /-- A test says whether the document is admitted. -/
  admitted : request.action = .check →
    ∀ q d, Query.compile request.query = .ok q → request.document ρ = .ok d →
      execute ρ request = .ok (.admitted (q.check d))
  /-- A projection fails just as its evaluation does. -/
  evaluation : ∀ evaluate, request.action.evaluation? = some evaluate →
    ∀ q d, Query.compile request.query = .ok q → request.document ρ = .ok d →
      ∀ e, execute ρ request = .error (.evaluation e) ↔ evaluate q d = .error e
  /-- Only an object is rejected, only by what is to be kept of it, and just if a clause of the
  query's own node does not admit it. -/
  rejected : execute ρ request = .ok .rejected ↔
    request.action = .keep ∧ ∃ q d, Query.compile request.query = .ok q ∧
      request.document ρ = .ok d ∧ d.kind = .object ∧ ∃ f ∈ q.filters, f.admits d = false
  /-- In every other case the text of a document comes of a projection. -/
  json : ∀ evaluate, request.action.evaluation? = some evaluate →
    ∀ q d text, Query.compile request.query = .ok q → request.document ρ = .ok d →
      evaluate q d = .ok text → execute ρ request ≠ .ok .rejected →
        ∃ out v, execute ρ request = .ok (.json out) ∧ out ≠ "" ∧ readDocument ρ out = .ok v
  /-- What is retrieved or searched for is never rejected. -/
  never_rejected : request.action ∈ [.retrieve, .search] → execute ρ request ≠ .ok .rejected

/-! ## 2. Texts of projections -/

section

variable {ρ : Rounding}

/-- **A document is laid out** either way as a text that is not empty and that is read again, if the
texts of numbers are read. -/
theorem exists_layOut {w : Json} (hρ : ρ.AcceptsWritten)
    (hw : w.IsDocument Number.IsFiniteReal maxDepth) (indented : Bool) :
    ∃ out v, layOut ρ indented w.compact = .ok (.json out) ∧ out ≠ "" ∧
      readDocument ρ out = .ok v := by
  obtain ⟨v, hread⟩ := exists_readDocument_render Spacing.isBlank_compact hρ hw
  have hne : ∀ (v : Json) (sp : Spacing), String.ofList (v.render sp 0) ≠ "" := fun v sp => by
    rw [ne_eq, String.ofList_eq_empty_iff]
    exact v.render_ne_nil sp 0
  cases indented with
  | false => exact ⟨_, _, rfl, hne w _, hread⟩
  | true =>
    obtain ⟨u, hagain⟩ := exists_readDocument_render Spacing.isBlank_indented hρ
      (isDocument_of_readDocument hread)
    refine ⟨_, _, ?_, hne _ _, hagain⟩
    rw [layOut, if_pos rfl]
    exact congrArg (Except.map _) hread

theorem layOut_ne_rejected (indented : Bool) (text : String) :
    layOut ρ indented text ≠ .ok .rejected := by
  rw [layOut]
  split
  · intro h
    obtain ⟨_, _, h⟩ := ok_map_iff.mp h
    cases h
  · intro h
    cases h

/-- To lay out a text is not to evaluate: it fails only if the text is not read. -/
theorem projected_ne_evaluation (indented : Bool) (text : String) (e : EvalError) :
    projected ρ indented text ≠ .error (.evaluation e) := by
  rw [projected, layOut, readDocument]
  split
  · intro h
    cases h
  split
  · cases Json.read ρ text with
    | error e =>
      intro h
      cases h
    | ok v =>
      intro h
      cases h
  · intro h
    cases h

/-- **A rejection is an empty text,** and no other text. -/
theorem projected_eq_rejected_iff {indented : Bool} {text : String} :
    projected ρ indented text = .ok .rejected ↔ text = "" := by
  rw [projected]
  by_cases h : text = ""
  · simp [h]
  · have hempty : text.isEmpty = false := by simpa using h
    simp [hempty, h, layOut_ne_rejected]

section

variable {action : Action} {evaluate : Query → Json → Except EvalError String} {q : Query}
variable {d : Json} {text : String}

/-- What is evaluated is what some query keeps. -/
theorem exists_keep_of_evaluation (haction : action.evaluation? = some evaluate)
    (hq : q.NoRepeats) (d : Json) : ∃ p : Query, p.NoRepeats ∧ evaluate q d = p.keep d := by
  cases action with
  | keep =>
    cases haction
    exact ⟨q, hq, rfl⟩
  | retrieve =>
    cases haction
    exact ⟨q.trusting d.kind, Query.noRepeats_trusting hq _, q.retrieve_eq_keep d⟩
  | _ => cases haction

/-- **A text that is not empty is laid out,** if it is what was evaluated. -/
theorem exists_projected (hρ : ρ.AcceptsWritten) (haction : action.evaluation? = some evaluate)
    (hq : q.NoRepeats) (hd : d.IsDocument Number.IsFiniteReal maxDepth)
    (htext : evaluate q d = .ok text) (hne : text ≠ "") (indented : Bool) :
    ∃ out v, projected ρ indented text = .ok (.json out) ∧ out ≠ "" ∧
      readDocument ρ out = .ok v := by
  obtain ⟨p, hp, hkeep⟩ := exists_keep_of_evaluation haction hq d
  obtain ⟨w, hw, hlayOut⟩ := exists_projected_eq hp hd (hkeep ▸ htext) hne
  rw [hlayOut]
  exact exists_layOut hρ hw indented

end

end

/-! ## 3. Requests -/

/-- What comes of a query and a document. -/
def Request.answer (ρ : Rounding) (request : Request) (q : Query) (d : Json) :
    Except Failure Outcome :=
  match request.action.evaluation? with
  | some evaluate => do projected ρ request.indented (← (evaluate q d).mapError .evaluation)
  | none => .ok (.admitted (q.check d))

section

variable {ρ : Rounding} {request : Request} {evaluate : Query → Json → Except EvalError String}

/-- The query is compiled, then the document is read, and then both are used. -/
theorem execute_eq_answer (h : request.action ∈ [.check, .keep, .retrieve]) :
    execute ρ request = (do
      let q ← (Query.compile request.query).mapError .query
      let d ← request.document ρ
      request.answer ρ q d) := by
  obtain ⟨action, query, input?, indented⟩ := request
  cases action with
  | check | keep | retrieve => rfl
  | _ => simp at h

theorem mem_of_evaluation (h : request.action.evaluation? = some evaluate) :
    request.action ∈ [.check, .keep, .retrieve] := by
  obtain ⟨action, query, input?, indented⟩ := request
  cases action with
  | keep | retrieve => simp
  | _ => cases h

section

variable {q : Query} {d : Json}
variable (hq : Query.compile request.query = .ok q) (hd : request.document ρ = .ok d)
include hq hd

/-- Of a query and a document that are valid comes their answer. -/
theorem execute_of_valid (h : request.action ∈ [.check, .keep, .retrieve]) :
    execute ρ request = request.answer ρ q d := by
  rw [execute_eq_answer h, hq, hd]
  rfl

theorem execute_of_evaluation (h : request.action.evaluation? = some evaluate) :
    execute ρ request = (do
      projected ρ request.indented (← (evaluate q d).mapError .evaluation)) := by
  rw [execute_of_valid hq hd (mem_of_evaluation h), Request.answer, h]

/-- What is evaluated is laid out, unless it is empty. -/
theorem exists_json_of_evaluation (hρ : ρ.AcceptsWritten)
    (h : request.action.evaluation? = some evaluate) {text : String}
    (htext : evaluate q d = .ok text) (hne : text ≠ "") :
    ∃ out v, execute ρ request = .ok (.json out) ∧ out ≠ "" ∧ readDocument ρ out = .ok v := by
  rw [execute_of_evaluation hq hd h, htext]
  exact exists_projected hρ h (Query.noRepeats_of_compile hq) (isDocument_of_document hd) htext hne
    request.indented

/-- **A projection fails** just as its evaluation does. -/
theorem execute_eq_evaluation_iff (h : request.action.evaluation? = some evaluate)
    (e : EvalError) :
    execute ρ request = .error (.evaluation e) ↔ evaluate q d = .error e := by
  rw [execute_of_evaluation hq hd h]
  cases evaluate q d with
  | error err =>
    show Except.error (Failure.evaluation err) = _ ↔ _
    simp
  | ok text => exact iff_of_false (projected_ne_evaluation _ text e) nofun

end

/-- **Only an object is rejected,** by a clause of the query's own node that does not admit it, and
only where it is to be kept. -/
theorem execute_eq_rejected_iff :
    execute ρ request = .ok .rejected ↔
      request.action = .keep ∧ ∃ q d, Query.compile request.query = .ok q ∧
        request.document ρ = .ok d ∧ d.kind = .object ∧ ∃ f ∈ q.filters, f.admits d = false := by
  obtain ⟨action, query, input?, indented⟩ := request
  cases action with
  | keep =>
    -- the text of what is kept is empty just if the document is rejected
    simp only [execute, ok_bind_iff, ok_mapError_iff, projected_eq_rejected_iff, exists_eq_right,
      Query.keep_eq_empty_iff, exists_and_left, true_and]
  | retrieve =>
    simp [execute, ok_bind_iff, ok_mapError_iff, projected_eq_rejected_iff,
      Query.retrieve_ne_empty]
  | search => simp [execute, ok_bind_iff, layOut_ne_rejected]
  | check | compile => simp [execute, ok_bind_iff, pure, Except.pure]

/-- **Every request ends as its parts are right and wrong.**  That the text which comes of a
projection is read again, and laid out if that is asked for, takes a rounding that accepts the texts
of numbers. -/
theorem execute_classified (hρ : ρ.AcceptsWritten) (request : Request) :
    request.Classified ρ where
  query h e he := by
    rw [execute_eq_answer h, he]
    rfl
  input h q hq hnone := by
    rw [execute_eq_answer h, hq, Request.document, hnone]
    rfl
  document h q text e hq htext he := by
    rw [execute_eq_answer h, hq, Request.document, htext]
    simp only [readDocument, he]
    rfl
  admitted h q d hq hd := by
    rw [execute_of_valid hq hd (by simp [h]), Request.answer, h]
    rfl
  evaluation evaluate h q d hq hd := execute_eq_evaluation_iff hq hd h
  rejected := execute_eq_rejected_iff
  json evaluate h q d text hq hd htext hrejected := by
    refine exists_json_of_evaluation hq hd hρ h htext fun hempty => hrejected ?_
    rw [execute_of_evaluation hq hd h, htext, hempty]
    rfl
  never_rejected h hrejected := by
    rw [(execute_eq_rejected_iff.mp hrejected).1] at h
    simp at h

/-- What is retrieved of this document is laid out, although a clause would reject it. -/
theorem execute_classified_retrieved :
    ∃ out v, execute .bestEffort ⟨.retrieve, "(b === 1)\x7ba\x7d",
        some (Json.object [("a", .number (.real (.ofDecimal false ⟨25, -1⟩)))]).compact, true⟩ =
      .ok (.json out) ∧ out ≠ "" ∧ readDocument .bestEffort out = .ok v := by
  have hplain : (Binary64.ofDecimal false ⟨25, -1⟩).plainZero = .ofDecimal false ⟨25, -1⟩ := by
    decide +kernel
  have hdoc : (Json.object [("a", .number (.real (.ofDecimal false ⟨25, -1⟩)))]).IsDocument
      (Number.IsRestored .bestEffort) maxDepth :=
    .object (by decide) (List.forall_mem_singleton.mpr (.number (by decide +kernel)))
  have hd := readDocument_render Spacing.isBlank_compact hdoc
  simp only [Json.plainZeros, Json.renumber, Json.mapNumbers, Json.mapNumbersIn,
    Number.plainZero, hplain] at hd
  have hq : Query.compile "(b === 1)\x7ba\x7d" = .ok (.node [⟨"b", .strictEq, "1"⟩] ["a"] []) := by
    cbv
  have htext : (Query.node [⟨"b", .strictEq, "1"⟩] ["a"] []).retrieve
      (.object [("a", .number (.real (.ofDecimal false ⟨25, -1⟩)))]) =
      .ok (Json.object [("a", .number (.real (.ofDecimal false ⟨25, -1⟩)))]).compact := by
    rw [Query.retrieve_eq_keep, Query.keep_eq_keptText]
    rfl
  have hclassified := execute_classified Rounding.acceptsWritten_bestEffort
    ⟨.retrieve, "(b === 1)\x7ba\x7d",
      some (Json.object [("a", .number (.real (.ofDecimal false ⟨25, -1⟩)))]).compact, true⟩
  exact hclassified.json _ rfl _ _ _ hq hd htext (hclassified.never_rejected (by simp))

end

end JsonSieve.Command
