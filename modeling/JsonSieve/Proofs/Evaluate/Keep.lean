/-
# What is written is what is kept

The text that is written for a document is the text of its projection (`keep_eq_projection`), and no
text at all if the document is rejected.

The writer never sees the projection: it writes commas and names ahead of values and takes them back
when a value is rejected.  The invariant is `Writes`: into whatever buffer, a value adds the text of
what is kept of it at the end, and a rejected one leaves the buffer as it was.  A container adds the
text of its parts, `elementsText` and `membersText`, in which a comma stands before every part but
the first; `first` in the writer says whether any part has been kept so far.
-/
import JsonSieve.Evaluate.Keep
import JsonSieve.Proofs.Evaluate.Rules

namespace JsonSieve

/-! ## 1. Parts of a container -/

/-- The text of elements, with a comma before each that is not the first. -/
def elementsText (first : Bool) : List Json → List Char
  | [] => []
  | e :: es => comma first ++ e.render .compact 0 ++ elementsText false es

/-- The text of members, with a comma before each that is not the first. -/
def membersText (first : Bool) : List (String × Json) → List Char
  | [] => []
  | (k, v) :: ms => comma first ++ memberName k ++ v.render .compact 0 ++ membersText false ms

theorem membersText_append (first : Bool) (ms ls : List (String × Json)) :
    membersText first (ms ++ ls) =
      membersText first ms ++ membersText (first && ms.isEmpty) ls := by
  induction ms generalizing first with
  | nil => simp [membersText]
  | cons m ms ih =>
    obtain ⟨k, v⟩ := m
    simp [membersText, ih]

namespace Json

mutual

/-- Without white space, the text of a value does not depend on where it stands. -/
theorem render_compact : ∀ (v : Json) (level : Nat), v.render .compact level = v.render .compact 0
  | array [], _ => rfl
  | array (e :: es), level => by
    simp only [render, renderElements_compact, render_compact e (level + 1),
      render_compact e (0 + 1)]
    rfl
  | object [], _ => rfl
  | object ((k, v) :: ms), level => by
    simp only [render, renderMembers_compact, render_compact v (level + 1),
      render_compact v (0 + 1)]
    rfl
  | null, _ => rfl
  | bool _, _ => rfl
  | number _, _ => rfl
  | string _, _ => rfl

theorem renderElements_compact : ∀ (es : List Json) (level : Nat),
    renderElements .compact level es = elementsText false es ++ [']']
  | [], _ => rfl
  | e :: es, level => by
    simp only [renderElements, renderElements_compact es, render_compact e (level + 1),
      elementsText]
    simp [Spacing.compact, comma]

theorem renderMembers_compact : ∀ (ms : List (String × Json)) (level : Nat),
    renderMembers .compact level ms = membersText false ms ++ ['\x7d']
  | [], _ => rfl
  | (k, v) :: ms, level => by
    simp only [renderMembers, renderMembers_compact ms, render_compact v (level + 1), membersText]
    simp [Spacing.compact, comma, memberName]

end

theorem render_array (es : List Json) :
    (array es).render .compact 0 = '[' :: elementsText true es ++ [']'] := by
  cases es with
  | nil => rfl
  | cons e es =>
    simp only [render, renderElements_compact, render_compact e (0 + 1), elementsText]
    simp [Spacing.compact, comma]

theorem render_object (ms : List (String × Json)) :
    (object ms).render .compact 0 = '\x7b' :: membersText true ms ++ ['\x7d'] := by
  cases ms with
  | nil => rfl
  | cons m ms =>
    obtain ⟨k, v⟩ := m
    simp only [render, renderMembers_compact, render_compact v (0 + 1), membersText]
    simp [Spacing.compact, comma, memberName]

end Json

/-! ## 2. The invariant -/

/-- The text of what is kept of a value: none, if it is rejected. -/
def keptText : Option Json → List Char
  | some v => v.render .compact 0
  | none => []

/-- A writer adds the text of what a projection keeps, leaves the buffer as it was if the value is
rejected, and fails like the projection. -/
def Writes (write : Writer) (f : Json → Except EvalError (Option Json)) : Prop :=
  ∀ v out, write v out = (f v).map fun kept => (kept.isSome, out.push (keptText kept))

namespace Json

variable {write : Bool → Writer} {f : Json → Except EvalError (Option Json)}

mutual

/-- **One value:** if leaves are written as `f` keeps them, so is every value put together from
them. -/
theorem writeLeaves_eq (h : Writes (write true) f) : ∀ (v : Json) (out : Text.Buffer),
    v.writeLeaves write true out =
      (v.filterLeaves f).map fun kept => (kept.isSome, out.push (keptText kept))
  | array es, out => by
    rw [filterLeaves_array, writeLeaves, writeElements_eq h es true]
    cases filterLeavesOf f es with
    | error err => rfl
    | ok ws => simp [Except.map, bind, Except.bind, pure, Except.pure, keptText, render_array]
  | object ms, out => h (object ms) out
  | null, out => h null out
  | bool b, out => h (bool b) out
  | number n, out => h (number n) out
  | string s, out => h (string s) out

/-- **The elements of an array:** after a rejected one the comma is taken back with it. -/
theorem writeElements_eq (h : Writes (write true) f) : ∀ (es : List Json) (first : Bool)
    (out : Text.Buffer), writeElements write first es out =
      (filterLeavesOf f es).map fun ws => out.push (elementsText first ws)
  | [], first, out => by
    simp [writeElements, filterLeavesOf, Except.map, pure, Except.pure, elementsText]
  | e :: es, first, out => by
    rw [writeElements, writeLeaves_eq h e, filterLeavesOf]
    cases e.filterLeaves f with
    | error err => rfl
    | ok kept =>
      simp only [Except.map, bind, Except.bind]
      cases kept with
      | none =>
        simp only [Option.isSome_none, Bool.false_eq_true, if_false, keptText,
          Text.Buffer.push_push, Text.Buffer.truncate_push]
        rw [writeElements_eq h es first]
        cases filterLeavesOf f es <;> simp [Except.map, pure, Except.pure]
      | some w =>
        simp only [Option.isSome_some, if_true, keptText, Text.Buffer.push_push]
        rw [writeElements_eq h es false]
        cases filterLeavesOf f es <;> simp [Except.map, pure, Except.pure, elementsText]

end

end Json

namespace Query

/-! ## 3. Objects -/

theorem writeFields_eq (v : Json) : ∀ (names : List String) (first : Bool) (out : Text.Buffer),
    writeFields v first names out =
      let taken := names.filterMap fun name => (v.get? name).map fun field => (name, field)
      (first && taken.isEmpty, out.push (membersText first taken))
  | [], first, out => by simp [writeFields, membersText]
  | name :: names, first, out => by
    rw [writeFields]
    cases h : v.get? name with
    | none => simp [writeFields_eq v names first out, h]
    | some field => simp [writeFields_eq v names false, h, membersText]

/-- How a query writes a value that is not an array. -/
def writeLeaf (name : String) (q : Query) (tested : Bool) : Writer := fun v out =>
  match v with
  | .object _ =>
    if tested && !q.clausesHold v then return (false, out)
    else do
      let (first, out) := writeFields v true q.fields (out.push ['\x7b'])
      let out ← writeNested v first q.nested out
      return (true, out.push ['\x7d'])
  | _ =>
    if q.isBare then return (true, out.push (v.render .compact 0))
    else throw (.unexpectedKind name .object v.kind)

theorem write_eq_writeLeaves (name : String) (tested : Bool) (q : Query) :
    q.write name tested = Json.writeLeaves (q.writeLeaf name) tested := by
  obtain ⟨fs, ns, qs⟩ := q
  rw [write]
  rfl

/-- An object whose clauses hold or are not tested is written as its fields and its nested members,
if the latter are written as they are kept. -/
theorem writeLeaf_object {name : String} {q : Query} {tested : Bool} {ms : List (String × Json)}
    (hnested : ∀ first out, writeNested (.object ms) first q.nested out =
      (projectNested (.object ms) q.nested).map fun kept => out.push (membersText first kept))
    (h : (tested && !q.clausesHold (.object ms)) = false) (out : Text.Buffer) :
    q.writeLeaf name tested (.object ms) out =
      (projectNested (.object ms) q.nested).map fun kept =>
        (true, out.push ((Json.object (q.taken (.object ms) ++ kept)).render .compact 0)) := by
  simp only [writeLeaf, h, writeFields_eq, hnested]
  cases projectNested (.object ms) q.nested with
  | error err => rfl
  | ok kept =>
    simp [Except.map, bind, Except.bind, pure, Except.pure, Json.render_object, taken,
      membersText_append]

theorem writeLeaf_of_not_object {name : String} {q : Query} {tested : Bool} {v : Json}
    (h : v.kind ≠ .object) (out : Text.Buffer) :
    q.writeLeaf name tested v out =
      (q.projectScalar name v).map fun kept => (kept.isSome, out.push (keptText kept)) := by
  cases v with
  | object _ => exact absurd rfl h
  | _ =>
    simp only [writeLeaf, projectScalar]
    split <;> rfl

mutual

/-- **Every query writes what it keeps.** -/
theorem writes_project : ∀ (q : Query) (name : String), Writes (q.write name true) (q.project name)
  | node fs ns qs, name => by
    intro v out
    rw [write_eq_writeLeaves]
    simp only [project_eq]
    refine Json.writeLeaves_eq ?_ v out
    intro leaf out
    cases leaf with
    | object ms =>
      simp only [projectLeaf]
      cases hc : (node fs ns qs).clausesHold (.object ms) with
      | true =>
        rw [writeLeaf_object (writeNested_eq qs _) (by simp [hc]), if_pos rfl]
        cases projectNested (.object ms) (node fs ns qs).nested <;> rfl
      | false => simp [writeLeaf, hc, Except.map, pure, Except.pure, keptText]
    | _ => exact writeLeaf_of_not_object (by simp [Json.kind]) out

theorem writeNested_eq : ∀ (qs : List (String × Query)) (v : Json) (first : Bool)
    (out : Text.Buffer), writeNested v first qs out =
      (projectNested v qs).map fun ms => out.push (membersText first ms)
  | [], v, first, out => by
    simp [writeNested, projectNested, Except.map, pure, Except.pure, membersText]
  | (n, q) :: qs, v, first, out => by
    rw [writeNested, projectNested_cons, projectField]
    cases v.get? n with
    | none =>
      simp only [writeNested_eq qs v first]
      cases projectNested v qs <;> rfl
    | some field =>
      simp only [writes_project q n field]
      cases q.project n field with
      | error err => rfl
      | ok kept =>
        simp only [Except.map, bind, Except.bind]
        cases kept with
        | none =>
          simp only [Option.isSome_none, Bool.false_eq_true, if_false, keptText,
            Text.Buffer.push_push, Text.Buffer.truncate_push]
          rw [writeNested_eq qs v first]
          cases projectNested v qs <;> simp [Except.map, pure, Except.pure]
        | some w =>
          simp only [Option.isSome_some, if_true, keptText, Text.Buffer.push_push]
          rw [writeNested_eq qs v false]
          cases projectNested v qs <;> simp [Except.map, pure, Except.pure, membersText]

end

/-! ## 4. Whole documents -/

theorem keep_eq_keptText (q : Query) (v : Json) :
    q.keep v = (q.projection v).map fun kept => String.ofList (keptText kept) := by
  have h : q.write rootName true v .empty =
      (q.projection v).map fun kept => (kept.isSome, Text.Buffer.empty.push (keptText kept)) :=
    writes_project q rootName v .empty
  rw [keep, h]
  cases q.projection v <;> simp [Except.map]

/-- **The text that is kept of a document is the text of its projection,** whatever is dropped on
the way; a rejected document leaves none, and the errors are the same. -/
theorem keep_eq_projection (q : Query) (v : Json) :
    q.keep v = (q.projection v).map fun kept => kept.elim "" Json.compact := by
  rw [keep_eq_keptText]
  congr 1
  funext kept
  cases kept <;> rfl

end Query
end JsonSieve
