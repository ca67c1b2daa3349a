/-
# Taking a document as admitted

What is retrieved of a document is what is kept of it, except that the clauses of the query's own
node are not tested on an object.  So an object is retrieved by the query as it would be kept by the
query without those clauses (`retrieve_object`), and anything else is retrieved as it is kept
(`retrieve_of_not_object`).  Both are one equation, `retrieve_eq_keep`, with the query that is
`trusting` to a kind.

The writer is told by `tested` whether to look at the clauses of its node.  Only an object that
stands at the root can be written untested: the elements of an array and the fields of nested
queries never are.  Told either way, it writes what some projection keeps (`write_eq_project`).
-/
import JsonSieve.Evaluate.Keep
import JsonSieve.Proofs.Evaluate.Keep
import JsonSieve.Proofs.Query.Grammar

namespace JsonSieve.Query

/-- Without clauses an object is never rejected. -/
theorem clausesHold_unfiltered (q : Query) (v : Json) : q.unfiltered.clausesHold v = true := by
  cases q with
  | node fs ns qs => rfl

/-- **An object that is not tested** is written as by the query without the clauses of its node. -/
theorem write_object_untested (name : String) (q : Query) (ms : List (String × Json))
    (out : Text.Buffer) :
    q.write name false (.object ms) out = q.unfiltered.write name true (.object ms) out := by
  have hclauses := clausesHold_unfiltered q (.object ms)
  have hfields : q.unfiltered.fields = q.fields := by cases q; rfl
  have hnested : q.unfiltered.nested = q.nested := by cases q; rfl
  rw [write_eq_writeLeaves, write_eq_writeLeaves]
  show q.writeLeaf name false (.object ms) out = q.unfiltered.writeLeaf name true (.object ms) out
  simp only [writeLeaf, hclauses, hfields, hnested]
  rfl

/-- **An object whose clauses hold** is written the same, tested or not. -/
theorem write_object_of_clausesHold (name : String) {q : Query} {ms : List (String × Json)}
    (h : q.clausesHold (.object ms) = true) (out : Text.Buffer) :
    q.write name false (.object ms) out = q.write name true (.object ms) out := by
  rw [write_eq_writeLeaves, write_eq_writeLeaves]
  show q.writeLeaf name false (.object ms) out = q.writeLeaf name true (.object ms) out
  simp only [writeLeaf, h]
  rfl

/-- **What is not an object** is written the same, tested or not. -/
theorem write_of_not_object (name : String) (q : Query) {v : Json} (h : v.kind ≠ .object)
    (out : Text.Buffer) : q.write name false v out = q.write name true v out := by
  rw [write_eq_writeLeaves, write_eq_writeLeaves]
  cases v with
  | object ms => exact absurd rfl h
  | array es => rw [Json.writeLeaves, Json.writeLeaves]
  | _ => rfl

/-- **An object is retrieved** as it is kept without the clauses of the query's own node. -/
theorem retrieve_object (q : Query) (ms : List (String × Json)) :
    q.retrieve (.object ms) = q.unfiltered.keep (.object ms) := by
  rw [retrieve, keep, write_object_untested]

/-- **Anything but an object is retrieved** as it is kept. -/
theorem retrieve_of_not_object (q : Query) {v : Json} (h : v.kind ≠ .object) :
    q.retrieve v = q.keep v := by
  rw [retrieve, keep, write_of_not_object rootName q h]

/-- The query that takes a document of a kind as admitted: an object is not tested. -/
def trusting (q : Query) : Kind → Query
  | .object => q.unfiltered
  | _ => q

theorem noRepeats_trusting {q : Query} (hq : q.NoRepeats) (kind : Kind) :
    (q.trusting kind).NoRepeats := by
  cases q
  cases kind <;> exact hq

/-- **What is retrieved** is what is kept by the query that takes the document as admitted. -/
theorem retrieve_eq_keep (q : Query) (v : Json) : q.retrieve v = (q.trusting v.kind).keep v := by
  cases v with
  | object ms => exact retrieve_object q ms
  | _ => exact retrieve_of_not_object q (by simp [Json.kind])

/-- **Whatever is written** is what a projection keeps: of the query itself, if its clauses are
tested, and else of the query that takes the value as admitted. -/
theorem write_eq_project (name : String) (tested : Bool) (q : Query) (v : Json)
    (out : Text.Buffer) :
    q.write name tested v out =
      ((if tested then q else q.trusting v.kind).project name v).map fun kept =>
        (kept.isSome, out.push (keptText kept)) := by
  cases tested with
  | true => exact writes_project q name v out
  | false =>
    cases v with
    | object ms =>
      rw [write_object_untested]
      exact writes_project q.unfiltered name (.object ms) out
    | _ =>
      rw [write_of_not_object name q (by simp [Json.kind])]
      exact writes_project q name _ out

/-- The answers of a query about two documents are the same, texts and errors alike. -/
def SameAnswers (q : Query) (v w : Json) : Prop :=
  q.check v = q.check w ∧ q.keep v = q.keep w ∧ q.retrieve v = q.retrieve w

end JsonSieve.Query
