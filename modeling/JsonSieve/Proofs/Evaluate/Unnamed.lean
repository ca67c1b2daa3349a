/-
# What a query does not name

A query looks at the fields that its clauses name, takes the fields that it lists, and goes into
those with a nested query.  Whatever else stands in a document has no influence on any answer about
it, and nothing of it is found in an answer.

* `Alike` relates documents that agree on all that a query names;
* `Edit` is one change of members that the query does not name, in any object that it goes into.

Documents that are related either way get the same answers (`sameAnswers_of_unnamed`).  Both are
cases of `Agree`, which asks of the clauses of a node only that they hold of both objects or of
neither: a clause may name a field that a nested query goes into, and there an edit changes the
field, but no clause accepts a field in which there is an object to be edited.
-/
import JsonSieve.Proofs.Evaluate.Kept
import JsonSieve.Proofs.Evaluate.Retrieve

namespace JsonSieve

/-! ## 1. Elements in the same places -/

section

variable {α β : Type} {f : α → β}

theorem map_eq_of_zip : ∀ {as bs : List α}, as.length = bs.length →
    (∀ p ∈ as.zip bs, f p.1 = f p.2) → as.map f = bs.map f
  | [], [], _, _ => rfl
  | [], _ :: _, hlength, _ => by cases hlength
  | _ :: _, [], hlength, _ => by cases hlength
  | a :: as, b :: bs, hlength, h => by
    have hhead : f a = f b := h (a, b) (by simp)
    have htail : as.map f = bs.map f :=
      map_eq_of_zip (Nat.succ.inj hlength) fun p hp => h p (by simp [hp])
    rw [List.map_cons, List.map_cons, hhead, htail]

theorem eq_of_mem_zip_self {as : List α} {p : α × α} (h : p ∈ as.zip as) : p.1 = p.2 := by
  rw [List.zip_eq_zipWith, List.zipWith_self] at h
  obtain ⟨a, -, rfl⟩ := List.mem_map.mp h
  rfl

/-- What is made of a field that may be missing is the same if it is made of the same fields, or if
both are missing. -/
theorem elim_congr_of_both {d : β} {a b : Option α} (hthere : a.isSome = b.isSome)
    (h : ∀ x y, a = some x → b = some y → f x = f y) : a.elim d f = b.elim d f := by
  cases a with
  | none =>
    cases b with
    | none => rfl
    | some y => cases hthere
  | some x =>
    cases b with
    | none => cases hthere
    | some y => exact h x y rfl rfl

end

namespace Query

/-! ## 2. Documents that a query cannot tell apart -/

/-- Documents that agree as far as a query goes into them: scalars are the same, arrays agree
element by element, and objects have the same fields to be taken, agree in the fields of nested
queries, and are related on the clauses of the node as `C` says. -/
inductive Agree (C : Query → Json → Json → Prop) : Query → Json → Json → Prop
  | scalar {q : Query} {v : Json} (hv : v.kind.isScalar = true) : Agree C q v v
  | array {q : Query} {es ds : List Json} (hlength : es.length = ds.length)
    (helements : ∀ p ∈ es.zip ds, Agree C q p.1 p.2) : Agree C q (.array es) (.array ds)
  | object {q : Query} {ms ls : List (String × Json)}
    (hclauses : C q (.object ms) (.object ls))
    (hfields : ∀ name ∈ q.fields, (Json.object ms).get? name = (Json.object ls).get? name)
    (hthere : ∀ n ∈ q.nested,
      ((Json.object ms).get? n.1).isSome = ((Json.object ls).get? n.1).isSome)
    (hnested : ∀ n ∈ q.nested, ∀ field other, (Json.object ms).get? n.1 = some field →
      (Json.object ls).get? n.1 = some other → Agree C n.2 field other) :
    Agree C q (.object ms) (.object ls)

/-- **Documents that agree on all that a query names:** the fields that clauses name and those that
are taken are the same wherever the query goes. -/
def Alike : Query → Json → Json → Prop :=
  Agree fun q v w => ∀ f ∈ q.filters, v.get? f.key = w.get? f.key

/-- The clauses of a node hold of both values or of neither. -/
def ClausesAgree (q : Query) (v w : Json) : Prop := q.clausesHold v = q.clausesHold w

section

variable {C D : Query → Json → Json → Prop} {q : Query} {v w : Json}

theorem Agree.mono (hCD : ∀ q v w, C q v w → D q v w) (h : Agree C q v w) : Agree D q v w := by
  induction h with
  | scalar hv => exact .scalar hv
  | array hlength _ ih => exact .array hlength ih
  | object hclauses hfields hthere _ ih => exact .object (hCD _ _ _ hclauses) hfields hthere ih

/-- Every document agrees with itself. -/
theorem Agree.refl (q : Query) : ∀ v : Json, Agree ClausesAgree q v v := by
  induction q with
  | node fs ns qs ih =>
    intro v
    induction v with
    | scalar v hv => exact .scalar hv
    | array es iharray =>
      refine .array rfl fun p hp => ?_
      rw [← eq_of_mem_zip_self hp]
      exact iharray p.1 (List.of_mem_zip hp).1
    | object ms _ =>
      refine .object rfl (fun _ _ => rfl) (fun _ _ => rfl) ?_
      intro n hn field other hfield hother
      obtain rfl := Option.some.inj (hfield.symm.trans hother)
      exact ih n hn field

/-- Clauses look at members through their names only. -/
theorem clausesAgree_of_get? (h : ∀ f ∈ q.filters,
    (v.get? f.key).any (fun field => f.accepts (.ofJson field)) =
      (w.get? f.key).any fun field => f.accepts (.ofJson field)) : ClausesAgree q v w := by
  unfold ClausesAgree clausesHold
  rw [Bool.eq_iff_iff, List.all_eq_true, List.all_eq_true]
  refine forall_congr' fun f => imp_congr_right fun hf => ?_
  rw [Filter.admits, Filter.admits, h f hf]

theorem Alike.agree (h : q.Alike v w) : Agree ClausesAgree q v w := by
  refine Agree.mono (fun q v w hkeys => ?_) h
  refine clausesAgree_of_get? fun f hf => ?_
  rw [hkeys f hf]

end

/-! ## 3. Answers about documents that agree -/

section

variable {q : Query} {v w : Json}

theorem any_eq_elim (p : Json → Bool) (field? : Option Json) :
    field?.any p = field?.elim false p := by
  cases field? <;> rfl

theorem projectField_eq_elim (v : Json) (n : String) (q : Query) :
    projectField v n q = (v.get? n).elim (.ok none) (q.project n) := by
  rw [projectField]
  cases v.get? n <;> rfl

/-- **The same documents are admitted.** -/
theorem check_agree (h : Agree ClausesAgree q v w) : q.check v = q.check w := by
  induction h with
  | scalar _ => rfl
  | @array q es ds hlength _ ih =>
    have hchecks : es.map q.check = ds.map q.check := map_eq_of_zip hlength ih
    rw [check_array, check_array]
    simpa only [List.any_map, Function.id_comp] using congrArg (List.any · id) hchecks
  | @object q ms ls hclauses _ hthere _ ih =>
    have hfield : ∀ n ∈ q.nested, ((Json.object ms).get? n.1).any n.2.check =
        ((Json.object ls).get? n.1).any n.2.check := by
      intro n hn
      rw [any_eq_elim, any_eq_elim]
      exact elim_congr_of_both (hthere n hn) (ih n hn)
    rw [Bool.eq_iff_iff, check_object, check_object, hclauses, Bool.and_eq_true, Bool.and_eq_true,
      List.all_eq_true, List.all_eq_true]
    refine and_congr_right fun _ => forall_congr' fun n => imp_congr_right fun hn => ?_
    rw [hfield n hn]

/-- **The same is kept,** and the errors are the same. -/
theorem project_agree (h : Agree ClausesAgree q v w) :
    ∀ name : String, q.project name v = q.project name w := by
  induction h with
  | scalar _ => exact fun _ => rfl
  | @array q es ds hlength _ ih =>
    intro name
    have hkept : es.map (q.project name) = ds.map (q.project name) :=
      map_eq_of_zip hlength fun p hp => ih p hp name
    have hall : es.mapM (q.project name) = ds.mapM (q.project name) := by
      have := congrArg (List.mapM id) hkept
      rwa [List.mapM_map, List.mapM_map] at this
    rw [project_array, project_array, hall]
  | @object q ms ls hclauses hfields hthere _ ih =>
    intro name
    have htaken : q.taken (.object ms) = q.taken (.object ls) := taken_congr hfields
    have hnested : projectNested (.object ms) q.nested = projectNested (.object ls) q.nested := by
      refine projectNested_congr fun n hn => ?_
      rw [projectField_eq_elim, projectField_eq_elim]
      exact elim_congr_of_both (hthere n hn) fun field other hfield hother =>
        ih n hn field other hfield hother n.1
    rw [project_object, project_object, hclauses, htaken, hnested]

theorem keep_agree (h : Agree ClausesAgree q v w) : q.keep v = q.keep w := by
  rw [keep_eq_keptText, keep_eq_keptText, projection, projection, project_agree h]

/-- Documents that agree still do so when the clauses of the node are left out. -/
theorem Agree.unfiltered {ms ls : List (String × Json)}
    (h : Agree ClausesAgree q (.object ms) (.object ls)) :
    Agree ClausesAgree q.unfiltered (.object ms) (.object ls) := by
  have hclauses : ClausesAgree q.unfiltered (.object ms) (.object ls) := by
    rw [ClausesAgree, clausesHold_unfiltered, clausesHold_unfiltered]
  cases q with
  | node fs ns qs =>
    cases h with
    | scalar hv => cases hv
    | object _ hfields hthere hnested => exact .object hclauses hfields hthere hnested

theorem retrieve_agree (h : Agree ClausesAgree q v w) : q.retrieve v = q.retrieve w := by
  cases h with
  | scalar _ => rfl
  | array hlength helements =>
    rw [retrieve_of_not_object q (by simp [Json.kind]),
      retrieve_of_not_object q (by simp [Json.kind])]
    exact keep_agree (.array hlength helements)
  | object hclauses hfields hthere hnested =>
    rw [retrieve_object, retrieve_object]
    exact keep_agree (Agree.unfiltered (.object hclauses hfields hthere hnested))

/-- **Documents that agree get the same answers.** -/
theorem Agree.sameAnswers (h : Agree ClausesAgree q v w) : q.SameAnswers v w :=
  ⟨check_agree h, keep_agree h, retrieve_agree h⟩

end

/-! ## 4. Changes of other members -/

/-- The names of a node: those of its clauses, of the fields that it takes, and of nested
queries. -/
def names (q : Query) : List String :=
  q.filters.map Filter.key ++ q.fields ++ q.nested.map Prod.fst

/-- **One change of members that a query does not name:** some are added, removed, changed or moved
in an object, be it the document itself, an element of it, or a field that a nested query goes into.
A field that is also taken as it is belongs to what the query names, down to the last member. -/
inductive Edit : Query → Json → Json → Prop
  | members {q : Query} {ms ls : List (String × Json)}
    (h : (ms.filter fun m => m.1 ∈ q.names) = ls.filter fun m => m.1 ∈ q.names) :
    Edit q (.object ms) (.object ls)
  | element {q : Query} {es ds : List Json} {e e' : Json} (h : Edit q e e') :
    Edit q (.array (es ++ e :: ds)) (.array (es ++ e' :: ds))
  | field {q : Query} {ms ls : List (String × Json)} {name : String} {v v' : Json}
    (htaken : name ∉ q.fields) (hname : name ∈ q.nested.map Prod.fst)
    (h : ∀ n ∈ q.nested, n.1 = name → Edit n.2 v v') :
    Edit q (.object (ms ++ (name, v) :: ls)) (.object (ms ++ (name, v') :: ls))

section

variable {q : Query} {v w : Json}

/-- What can be edited is no scalar, and stays none. -/
theorem Edit.scalar?_eq_none (h : q.Edit v w) : v.scalar? = none ∧ w.scalar? = none := by
  cases h with
  | members _ => exact ⟨rfl, rfl⟩
  | element _ => exact ⟨rfl, rfl⟩
  | field _ _ _ => exact ⟨rfl, rfl⟩

theorem ofJson_array_of_mem {es : List Json} {e : Json} (he : e ∈ es) (h : e.scalar? = none) :
    Candidate.ofJson (.array es) = .unsupported := by
  rw [Candidate.ofJson]
  cases hes : es.mapM Json.scalar? with
  | none => rfl
  | some ss =>
    have hscalar := isScalar_of_mem_mapM hes e he
    rw [← Json.isSome_scalar?, h] at hscalar
    cases hscalar

/-- **No clause accepts what can be edited,** before or after. -/
theorem Edit.ofJson_eq (h : q.Edit v w) :
    Candidate.ofJson v = .unsupported ∧ Candidate.ofJson w = .unsupported := by
  cases h with
  | members _ => exact ⟨rfl, rfl⟩
  | element h =>
    obtain ⟨hbefore, hafter⟩ := h.scalar?_eq_none
    exact ⟨ofJson_array_of_mem (by simp) hbefore, ofJson_array_of_mem (by simp) hafter⟩
  | field _ _ _ => exact ⟨rfl, rfl⟩

/-- Members of other names have no part in looking up a name. -/
theorem get?_filter_names {names : List String} {name : String} (hname : name ∈ names)
    (ms : List (String × Json)) :
    (Json.object (ms.filter fun m => m.1 ∈ names)).get? name = (Json.object ms).get? name := by
  unfold Json.get? Json.members
  rw [List.find?_filter]
  refine congrArg (fun p => (ms.find? p).map Prod.snd) (funext fun m => ?_)
  by_cases hm : m.1 = name
  · simp [hm, hname]
  · simp [hm]

/-- Only under its own name is found another value in the place of a member. -/
theorem get?_replaced (ms ls : List (String × Json)) (name key : String) (v v' : Json) :
    (Json.object (ms ++ (name, v) :: ls)).get? key =
        (Json.object (ms ++ (name, v') :: ls)).get? key ∨
      key = name ∧ (Json.object (ms ++ (name, v) :: ls)).get? key = some v ∧
        (Json.object (ms ++ (name, v') :: ls)).get? key = some v' := by
  simp only [Json.get?_append, Json.get?_cons]
  cases (Json.object ms).get? key with
  | some w => exact .inl rfl
  | none =>
    by_cases hkey : name = key
    · exact .inr ⟨hkey.symm, by simp [hkey], by simp [hkey]⟩
    · exact .inl (by simp [hkey])

/-- **An edited document agrees with what it was.** -/
theorem Edit.agree (h : q.Edit v w) : Agree ClausesAgree q v w := by
  induction h with
  | @members q ms ls h =>
    have hget : ∀ name ∈ q.names, (Json.object ms).get? name = (Json.object ls).get? name := by
      intro name hname
      rw [← get?_filter_names hname ms, h, get?_filter_names hname ls]
    have hkey : ∀ f ∈ q.filters, f.key ∈ q.names := fun f hf =>
      List.mem_append_left _ (List.mem_append_left _ (List.mem_map_of_mem hf))
    have hfield : ∀ name ∈ q.fields, name ∈ q.names := fun name hname =>
      List.mem_append_left _ (List.mem_append_right _ hname)
    have hnested : ∀ n ∈ q.nested, n.1 ∈ q.names := fun n hn =>
      List.mem_append_right _ (List.mem_map_of_mem hn)
    refine .object (clausesAgree_of_get? fun f hf => ?_) (fun name hname => ?_) (fun n hn => ?_) ?_
    · rw [hget _ (hkey f hf)]
    · exact hget name (hfield name hname)
    · rw [hget _ (hnested n hn)]
    · intro n hn field other hm hl
      rw [hget _ (hnested n hn)] at hm
      obtain rfl := Option.some.inj (hm.symm.trans hl)
      exact .refl n.2 field
  | @element q es ds e e' _ ih =>
    refine .array (by simp) fun p hp => ?_
    rw [List.zip_append rfl, List.zip_cons_cons, List.mem_append, List.mem_cons] at hp
    rcases hp with hp | rfl | hp
    · rw [← eq_of_mem_zip_self hp]
      exact .refl q p.1
    · exact ih
    · rw [← eq_of_mem_zip_self hp]
      exact .refl q p.1
  | @field q ms ls name v v' htaken hname h ih =>
    -- whichever of the nested queries goes by the name, it cannot tell the two values apart
    obtain ⟨n, hn, hnamed⟩ := List.mem_map.mp hname
    obtain ⟨hbefore, hafter⟩ := (h n hn hnamed).ofJson_eq
    refine .object (clausesAgree_of_get? fun f _ => ?_) (fun key hkey => ?_) (fun n _ => ?_) ?_
    · rcases get?_replaced ms ls name f.key v v' with hget | ⟨-, hv, hv'⟩
      · rw [hget]
      · rw [hv, hv', Option.any_some, Option.any_some, hbefore, hafter]
    · rcases get?_replaced ms ls name key v v' with hget | ⟨rfl, -, -⟩
      · exact hget
      · exact absurd hkey htaken
    · rcases get?_replaced ms ls name n.1 v v' with hget | ⟨-, hv, hv'⟩
      · rw [hget]
      · rw [hv, hv']
        rfl
    · intro n hn field other hm hl
      rcases get?_replaced ms ls name n.1 v v' with hget | ⟨hkey, hv, hv'⟩
      · rw [hget] at hm
        obtain rfl := Option.some.inj (hm.symm.trans hl)
        exact .refl n.2 field
      · obtain rfl := Option.some.inj (hv.symm.trans hm)
        obtain rfl := Option.some.inj (hv'.symm.trans hl)
        exact ih n hn hkey

end

/-! ## 5. The answers -/

/-- **What a query does not name has no influence on its answers.**  Documents that agree on all
that it names, at every depth, are both admitted or both not, and the same is kept and retrieved of
them, texts and errors alike; so are documents that come from each other by one change or several of
members that it does not name. -/
theorem sameAnswers_of_unnamed (q : Query) {v w : Json}
    (h : q.Alike v w ∨ Relation.TransGen q.Edit v w) : q.SameAnswers v w := by
  rcases h with halike | hedits
  · exact halike.agree.sameAnswers
  · induction hedits with
    | single hedit => exact hedit.agree.sameAnswers
    | tail _ hedit ih =>
      obtain ⟨hcheck, hkeep, hretrieve⟩ := hedit.agree.sameAnswers
      exact ⟨ih.1.trans hcheck, ih.2.1.trans hkeep, ih.2.2.trans hretrieve⟩

/-- A document loses a member inside an element and gains another one in front. -/
theorem sameAnswers_of_unnamed_notes :
    let q : Query := .node [⟨"k", .strictEq, "true"⟩] [] [("n", .node [] ["b"] [])]
    let v : Json := .object [("k", .bool true),
      ("n", .array [.object [("b", .null), ("note", .bool false)]])]
    let w : Json := .object [("note", .string "new"), ("k", .bool true),
      ("n", .array [.object [("b", .null)]])]
    q.Alike v w ∧ Relation.TransGen q.Edit v w ∧ q.SameAnswers v w := by
  intro q v w
  have hinner : Edit (.node [] ["b"] []) (.object [("b", .null), ("note", .bool false)])
      (.object [("b", .null)]) := .members (by simp [names, filters, fields, nested])
  have helement : Edit (.node [] ["b"] [])
      (.array [.object [("b", .null), ("note", .bool false)]])
      (.array [.object [("b", .null)]]) := @Edit.element _ [] [] _ _ hinner
  have hfield : q.Edit v (.object [("k", .bool true), ("n", .array [.object [("b", .null)]])]) := by
    refine @Edit.field q [("k", .bool true)] [] _ _ _ (by simp [q, fields]) (by simp [q, nested])
      fun n hn _ => ?_
    obtain rfl := List.mem_singleton.mp hn
    exact helement
  have hfront : q.Edit (.object [("k", .bool true), ("n", .array [.object [("b", .null)]])]) w :=
    .members (by simp [q, names, filters, fields, nested])
  have hedits : Relation.TransGen q.Edit v w := (Relation.TransGen.single hfield).tail hfront
  have halike : q.Alike v w := by
    refine .object (fun f hf => ?_) (List.forall_mem_nil _) (fun n hn => ?_)
      fun n hn field other hm hl => ?_
    · obtain rfl := List.mem_singleton.mp hf
      rfl
    · obtain rfl := List.mem_singleton.mp hn
      rfl
    · obtain rfl := List.mem_singleton.mp hn
      cases hm
      cases hl
      refine .array rfl fun p hp => ?_
      obtain rfl := List.mem_singleton.mp hp
      refine .object (List.forall_mem_nil _) (fun name hname => ?_) (List.forall_mem_nil _)
        (List.forall_mem_nil _)
      obtain rfl := List.mem_singleton.mp hname
      rfl
  exact ⟨halike, hedits, sameAnswers_of_unnamed q (.inl halike)⟩

end Query

end JsonSieve
