/-
# Other numbers with the same verdicts

A query sees the numbers of a document only through its clauses.  So other numbers that satisfy the
same clauses change neither whether a document is admitted (`check_renumber`) nor what is kept of it
(`project_renumber`), except that the other numbers are kept.  The sign of a zero is nothing that a
clause can see (`sameVerdicts_plainZero`).
-/
import JsonSieve.Proofs.Evaluate.Rules
import JsonSieve.Proofs.Json.Document
import JsonSieve.Proofs.Query.Shape

namespace JsonSieve

/-! ## 1. Verdicts -/

/-- What clauses can tell of a scalar: its sort, and which of them it satisfies. -/
def Scalar.verdicts (s : Scalar) : Family × (Filter → Bool) := (s.family, fun f => f.compares s)

/-- Scalars are of one sort if any two of them are. -/
theorem ofOneFamily_iff {ss : List Scalar} :
    ofOneFamily ss = true ↔ ∀ s ∈ ss, ∀ t ∈ ss, s.family = t.family := by
  cases ss with
  | nil => simp [ofOneFamily]
  | cons u ss =>
    rw [ofOneFamily, List.all_eq_true]
    simp only [beq_iff_eq]
    constructor
    · intro h
      have hall : ∀ s ∈ u :: ss, s.family = u.family := List.forall_mem_cons.mpr ⟨rfl, h⟩
      exact fun s hs t ht => (hall s hs).trans (hall t ht).symm
    · exact fun h t ht => h t (List.mem_cons_of_mem _ ht) u List.mem_cons_self

theorem ofOneFamily_congr {ss ts : List Scalar}
    (h : ss.map Scalar.verdicts = ts.map Scalar.verdicts) : ofOneFamily ss = ofOneFamily ts := by
  have hall : ∀ (us : List Scalar) (k : Family), us.all (fun u => u.family == k) =
      (us.map Scalar.verdicts).all fun w => w.1 == k := fun us k => by
    rw [List.all_map]
    rfl
  cases ss with
  | nil =>
    cases ts with
    | nil => rfl
    | cons t ts => cases h
  | cons s ss =>
    cases ts with
    | nil => cases h
    | cons t ts =>
      obtain ⟨hst, htail⟩ := List.cons.inj h
      have hfamily : s.family = t.family := congrArg Prod.fst hst
      rw [ofOneFamily, ofOneFamily, hall, hall, htail, hfamily]

namespace Filter

variable (f : Filter)

/-- Whether a clause accepts an array of such scalars. -/
def acceptsAll (ss : List Scalar) : Bool := ofOneFamily ss && f.accepts (.scalars ss)

theorem acceptsAll_congr {ss ts : List Scalar}
    (h : ss.map Scalar.verdicts = ts.map Scalar.verdicts) : f.acceptsAll ss = f.acceptsAll ts := by
  have hcompares : ss.map f.compares = ts.map f.compares := by
    have := congrArg (List.map fun w => w.2 f) h
    rwa [List.map_map, List.map_map] at this
  have hevery : ss.all f.compares = ts.all f.compares := by
    have := congrArg (List.all · id) hcompares
    simpa only [List.all_map, Function.id_comp] using this
  have hsome : ss.any f.compares = ts.any f.compares := by
    have := congrArg (List.any · id) hcompares
    simpa only [List.any_map, Function.id_comp] using this
  rw [acceptsAll, acceptsAll, ofOneFamily_congr h, accepts, accepts, hevery, hsome]

/-- **An array is accepted** as the list of scalars that it is, if it is one. -/
theorem accepts_array (es : List Json) :
    f.accepts (.ofJson (.array es)) = (es.mapM Json.scalar?).any f.acceptsAll := by
  rw [Candidate.ofJson]
  cases es.mapM Json.scalar? with
  | none => rfl
  | some ss =>
    simp only [Option.any_some, acceptsAll]
    cases ofOneFamily ss <;> rfl

/-- **Anything else is accepted** as the scalar that it is, if it is one. -/
theorem accepts_of_not_array {v : Json} (h : v.isArray = false) :
    f.accepts (.ofJson v) = v.scalar?.any f.compares := by
  cases v with
  | array es => cases h
  | _ => rfl

end Filter

/-! ## 2. What a clause sees of a field -/

section

variable {P : Number → Prop} {k : Number → Number}

/-- Numbers with a property get the same verdicts as those that are put in their place. -/
def SameVerdicts (P : Number → Prop) (k : Number → Number) : Prop :=
  ∀ n, P n → (k n).toScalar.verdicts = n.toScalar.verdicts

namespace Json

/-- A scalar gets the verdicts of the scalar with the other number. -/
theorem verdicts_renumber (hk : SameVerdicts P k) {depth : Nat} {v : Json}
    (h : v.IsDocument P depth) :
    (v.renumber k).scalar?.map Scalar.verdicts = v.scalar?.map Scalar.verdicts := by
  cases v with
  | number n => exact congrArg some (hk n h.of_number)
  | array es =>
    rw [renumber_array]
    rfl
  | object ms =>
    rw [renumber_object]
    rfl
  | _ => rfl

theorem mapM_scalar?_renumber (hk : SameVerdicts P k) {depth : Nat} {es : List Json}
    (h : ∀ e ∈ es, e.IsDocument P depth) :
    ((es.map (renumber k)).mapM scalar?).map (List.map Scalar.verdicts) =
      (es.mapM scalar?).map (List.map Scalar.verdicts) := by
  refine (mapM_map_result scalar? Scalar.verdicts _).symm.trans ?_
  refine Eq.trans ?_ (mapM_map_result scalar? Scalar.verdicts es)
  rw [List.mapM_map]
  exact mapM_congr_mem fun e he => verdicts_renumber hk (h e he)

end Json

/-- **A clause does not tell a field from the one with the other numbers.** -/
theorem Filter.accepts_renumber (f : Filter) (hk : SameVerdicts P k) {depth : Nat} {v : Json}
    (h : v.IsDocument P depth) :
    f.accepts (.ofJson (v.renumber k)) = f.accepts (.ofJson v) := by
  cases v with
  | array es =>
    cases h with
    | scalar hv _ => cases hv
    | array hes =>
      have hscalars := Json.mapM_scalar?_renumber hk hes
      rw [Json.renumber_array, f.accepts_array, f.accepts_array]
      generalize (es.map (Json.renumber k)).mapM Json.scalar? = ts at hscalars
      generalize es.mapM Json.scalar? = ss at hscalars
      cases ts with
      | none =>
        cases ss with
        | none => rfl
        | some ss => cases hscalars
      | some ts =>
        cases ss with
        | none => cases hscalars
        | some ss => exact f.acceptsAll_congr (Option.some.inj hscalars)
  | _ =>
    have hscalar := congrArg (Option.any fun w => w.2 f) (Json.verdicts_renumber hk h)
    rw [Option.any_map, Option.any_map] at hscalar
    rw [f.accepts_of_not_array rfl, f.accepts_of_not_array rfl]
    exact hscalar

/-! ## 3. What a query sees of a document -/

namespace Query

theorem clausesHold_renumber (q : Query) (hk : SameVerdicts P k) {depth : Nat} {v : Json}
    (h : v.IsDocument P depth) : q.clausesHold (v.renumber k) = q.clausesHold v := by
  refine congrArg (List.all q.filters) (funext fun f => ?_)
  rw [Filter.admits, Filter.admits, Json.get?_renumber]
  cases hfield : v.get? f.key with
  | none => rfl
  | some field => exact f.accepts_renumber hk (h.get? hfield)

/-- An object is admitted with the other numbers if its fields are to the nested queries. -/
theorem check_object_renumber (hk : SameVerdicts P k) (q : Query) {depth : Nat}
    {ms : List (String × Json)} (h : (Json.object ms).IsDocument P depth)
    (hfields : ∀ n ∈ q.nested, ∀ field, (Json.object ms).get? n.1 = some field →
      n.2.check (field.renumber k) = n.2.check field) :
    q.check ((Json.object ms).renumber k) = q.check (.object ms) := by
  have hnested : ∀ n ∈ q.nested, (((Json.object ms).renumber k).get? n.1).any n.2.check =
      ((Json.object ms).get? n.1).any n.2.check := by
    intro n hn
    rw [Json.get?_renumber]
    cases hfield : (Json.object ms).get? n.1 with
    | none => rfl
    | some field => exact hfields n hn field hfield
  have hclauses := clausesHold_renumber q hk h
  rw [Json.renumber_object] at hclauses hnested ⊢
  rw [Bool.eq_iff_iff, check_object, check_object, hclauses, Bool.and_eq_true,
    Bool.and_eq_true, List.all_eq_true, List.all_eq_true]
  refine and_congr_right fun _ => forall_congr' fun n => imp_congr_right fun hn => ?_
  rw [hnested n hn]

/-- **A query admits a document** exactly if it admits the one with the other numbers. -/
theorem check_renumber (hk : SameVerdicts P k) (q : Query) : ∀ {depth : Nat} {v : Json},
    v.IsDocument P depth → q.check (v.renumber k) = q.check v := by
  induction q with
  | node fs ns qs ih =>
    intro depth v h
    induction h with
    | scalar hv _ => rw [check_scalar _ hv, check_scalar _ (by rwa [Json.kind_renumber])]
    | @array _ es _ iharray =>
      rw [Json.renumber_array, check_array, check_array, List.any_map, Bool.eq_iff_iff,
        List.any_eq_true, List.any_eq_true]
      refine exists_congr fun e => and_congr_right fun he => ?_
      rw [Function.comp, iharray e he]
    | object hnames hms _ =>
      have hdoc := Json.IsDocument.object hnames hms
      exact check_object_renumber hk _ hdoc fun n hn field hfield => ih n hn (hdoc.get? hfield)

/-- The fields that are taken are those with the other numbers. -/
theorem taken_renumber (q : Query) (v : Json) :
    q.taken (v.renumber k) = (q.taken v).map fun m => (m.1, m.2.renumber k) := by
  rw [taken, taken, List.map_filterMap]
  refine congrArg (List.filterMap · q.fields) (funext fun name => ?_)
  rw [Json.get?_renumber]
  cases v.get? name <;> rfl

theorem projectNested_renumber {v : Json} : ∀ {qs : List (String × Query)},
    (∀ n ∈ qs, ∀ field, v.get? n.1 = some field →
      n.2.project n.1 (field.renumber k) =
        (n.2.project n.1 field).map (Option.map (Json.renumber k))) →
    projectNested (v.renumber k) qs =
      (projectNested v qs).map (List.map fun m => (m.1, m.2.renumber k))
  | [], _ => rfl
  | (name, q) :: qs, h => by
    have hfield : projectField (v.renumber k) name q =
        (projectField v name q).map (Option.map (Json.renumber k)) := by
      rw [projectField, projectField, Json.get?_renumber]
      cases hv : v.get? name with
      | none => rfl
      | some field => exact h (name, q) List.mem_cons_self field hv
    rw [projectNested_cons, projectNested_cons, hfield,
      projectNested_renumber fun n hn => h n (List.mem_cons_of_mem _ hn)]
    cases projectField v name q with
    | error err => rfl
    | ok kept =>
      cases projectNested v qs with
      | error err => rfl
      | ok rest => cases kept <;> rfl

theorem project_array_renumber {q : Query} {name : String} {es : List Json}
    (h : ∀ e ∈ es, q.project name (e.renumber k) =
      (q.project name e).map (Option.map (Json.renumber k))) :
    q.project name ((Json.array es).renumber k) =
      (q.project name (.array es)).map (Option.map (Json.renumber k)) := by
  have hes : (es.map (Json.renumber k)).mapM (q.project name) =
      List.map (Option.map (Json.renumber k)) <$> es.mapM (q.project name) := by
    rw [List.mapM_map, ← mapM_map_result]
    exact mapM_congr_mem h
  rw [Json.renumber_array, project_array, project_array, hes]
  cases es.mapM (q.project name) with
  | error err => rfl
  | ok kept =>
    have hkept : (kept.map (Option.map (Json.renumber k))).filterMap id =
        (kept.filterMap id).map (Json.renumber k) := by
      rw [List.filterMap_map, List.map_filterMap]
      rfl
    show Except.ok (some (Json.array _)) =
      .ok (some ((Json.array (kept.filterMap id)).renumber k))
    rw [hkept, Json.renumber_array]

/-- **What a query keeps of a document** is what it keeps of the one with the other numbers, but for
the numbers. -/
theorem project_renumber (hk : SameVerdicts P k) (q : Query) : ∀ {depth : Nat} {v : Json}
    (name : String), v.IsDocument P depth →
      q.project name (v.renumber k) = (q.project name v).map (Option.map (Json.renumber k)) := by
  induction q with
  | node fs ns qs ih =>
    intro depth v name h
    induction h with
    | @scalar _ v hv _ =>
      rw [project_scalar _ hv, project_scalar _ (by rwa [Json.kind_renumber]), Json.kind_renumber]
      split <;> rfl
    | array _ iharray => exact project_array_renumber iharray
    | @object _ ms hnames hms _ =>
      have hdoc := Json.IsDocument.object hnames hms
      have hnested := projectNested_renumber (v := .object ms) (k := k)
        fun n (hn : n ∈ qs) field hfield => ih n hn n.1 (hdoc.get? hfield)
      have hclauses := clausesHold_renumber (node fs ns qs) hk hdoc
      have htaken := taken_renumber (k := k) (node fs ns qs) (.object ms)
      rw [Json.renumber_object] at hclauses htaken hnested ⊢
      rw [project_object, project_object, hclauses, htaken]
      split
      · rw [nested, hnested]
        cases projectNested (Json.object ms) qs with
        | error err => rfl
        | ok kept => simp [Except.map, Json.renumber_object]
      · rfl

end Query

end

/-! ## 4. The sign of a zero -/

section

variable {x y : Binary64} (h : x.rank? = y.rank?)
include h

theorem numbersEqual?_real (l : Literal) :
    numbersEqual? l (.real x) = numbersEqual? l (.real y) := by
  have hequals : ∀ z : Binary64, z.equals x = z.equals y := fun z => by
    unfold Binary64.equals Binary64.compare?
    rw [h]
  cases l with
  | integer n => exact congrArg some (hequals _)
  | real z => exact congrArg some (hequals z)
  | _ => rfl

theorem sameAs?_real (l : Literal) : sameAs? l (.real x) = sameAs? l (.real y) := by
  have hnumbers := numbersEqual?_real h l
  cases l with
  | integer n => exact hnumbers
  | real z => exact hnumbers
  | _ => rfl

theorem orderTo?_real (l : Literal) : orderTo? l (.real x) = orderTo? l (.real y) := by
  have hcompare : ∀ z : Binary64, x.compare? z = y.compare? z := fun z => by
    unfold Binary64.compare?
    rw [h]
  cases l with
  | integer n => exact hcompare _
  | real z => exact hcompare z
  | _ => rfl

theorem looselyEquals_real (l : Literal) :
    looselyEquals l (.real x) = looselyEquals l (.real y) := by
  have hsame := sameAs?_real h l
  cases l with
  | integer n => simp only [looselyEquals, hsame]
  | real z => simp only [looselyEquals, hsame]
  | _ => rfl

/-- **Numbers in the same place of the line get the same verdicts.** -/
theorem verdicts_real : (Scalar.real x).verdicts = (Scalar.real y).verdicts := by
  refine Prod.ext rfl (funext fun f => ?_)
  simp only [Scalar.verdicts, Filter.compares, sameAs?_real h, orderTo?_real h,
    looselyEquals_real h]
  rfl

end

/-- **No clause sees the sign of a zero.** -/
theorem sameVerdicts_plainZero (P : Number → Prop) : SameVerdicts P Number.plainZero := by
  intro n _
  cases n with
  | integer n => rfl
  | real x => exact verdicts_real x.rank?_plainZero

end JsonSieve
