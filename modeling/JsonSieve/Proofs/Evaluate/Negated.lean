/-
# Negated comparisons

Each negated operator is the complement of another one, but only of a field that can be compared at
all: a scalar of the sort that the operator compares with, or an array of nothing else (`isOf`).  Of
any other field both are false (`admits_negated`).

On scalars this is so because both look at the same optional verdict, one for true and one for
false, and there is a verdict just if the sorts agree.  On an array one operator asks for every
element and the other for some element, whichever of the two is the negated one.

The operator `==` is the complement of `!==` unless the literal is a text.  Then it looks for the
literal inside the field, and `!==` does not.
-/
import JsonSieve.Proofs.Evaluate.Numbers

namespace JsonSieve

/-! ## 1. Fields that can be compared -/

/-- The sort of a literal. -/
def Literal.family : Literal → Family
  | bool _ => .boolean
  | null => .null
  | integer _ | real _ => .number
  | text _ => .text

/-- Whether a field is a scalar of a sort, or an array of nothing else. -/
def Json.isOf (k : Family) : Json → Bool
  | array es => es.all fun e => e.scalar?.any fun s => s.family == k
  | v => v.scalar?.any fun s => s.family == k

theorem Json.isOf_of_not_array {k : Family} {v : Json} (h : v.isArray = false) :
    v.isOf k = v.scalar?.any fun s => s.family == k := by
  cases v with
  | array es => cases h
  | _ => rfl

/-- An array of a sort is a list of scalars of that sort. -/
theorem Json.isOf_array_iff {k : Family} {es : List Json} :
    (array es).isOf k = true ↔ ∃ ss, es.mapM scalar? = some ss ∧ ∀ s ∈ ss, s.family = k := by
  simp only [isOf, List.all_eq_true, Option.any_eq_true, beq_iff_eq]
  constructor
  · intro h
    induction es with
    | nil => exact ⟨[], rfl, List.forall_mem_nil _⟩
    | cons e es ih =>
      obtain ⟨s, hs, hk⟩ := h e List.mem_cons_self
      obtain ⟨ss, hss, hall⟩ := ih fun d hd => h d (List.mem_cons_of_mem _ hd)
      exact ⟨s :: ss, by simp [hs, hss], List.forall_mem_cons.mpr ⟨hk, hall⟩⟩
  · rintro ⟨ss, hss, hall⟩ e he
    obtain ⟨s, hs, heq⟩ := exists_of_mem_of_map_eq (mapM_eq_some_iff.mp hss) he
    exact ⟨s, heq, hall s hs⟩

/-! ## 2. Arrays and scalars -/

namespace Filter

section

variable {f g : Filter} {k : Family} {field : Json}

/-- An array of one sort is compared element by element. -/
theorem accepts_array_of {es : List Json} {ss : List Scalar} (hes : es.mapM Json.scalar? = some ss)
    (hss : ∀ s ∈ ss, s.family = k) : f.accepts (.ofJson (.array es)) = f.accepts (.scalars ss) := by
  have hfamily : ofOneFamily ss = true :=
    ofOneFamily_iff.mpr fun s hs t ht => (hss s hs).trans (hss t ht).symm
  rw [f.accepts_array, hes, Option.any_some, acceptsAll, hfamily, Bool.true_and]

/-- **Clauses that disagree on every scalar of a sort** disagree on every field of that sort, if one
asks for all elements of an array and the other for some. -/
theorem accepts_eq_not (hf : f.op.fold = .every) (hg : g.op.fold = .some)
    (h : ∀ s : Scalar, s.family = k → f.compares s = !g.compares s) (hfield : field.isOf k = true) :
    f.accepts (.ofJson field) = !g.accepts (.ofJson field) := by
  cases field with
  | array es =>
    obtain ⟨ss, hes, hss⟩ := Json.isOf_array_iff.mp hfield
    rw [accepts_array_of hes hss, accepts_array_of hes hss]
    simp only [accepts, hf, hg]
    rw [Bool.eq_iff_iff, List.all_eq_true, Bool.not_eq_true', List.any_eq_false]
    refine forall₂_congr fun s hs => ?_
    rw [h s (hss s hs), Bool.not_eq_true', Bool.not_eq_true]
  | _ =>
    rw [Json.isOf_of_not_array rfl] at hfield
    obtain ⟨s, hs, hk⟩ := (Option.any_eq_true _ _).mp hfield
    rw [accepts_of_not_array _ rfl, accepts_of_not_array _ rfl, hs]
    exact h s (beq_iff_eq.mp hk)

/-- A clause that accepts an array accepts one of its elements, if there are any. -/
theorem exists_compares_of_accepts {s : Scalar} {ss : List Scalar}
    (h : f.accepts (.scalars (s :: ss)) = true) : ∃ t ∈ s :: ss, f.compares t = true := by
  rw [accepts] at h
  cases hfold : f.op.fold with
  | every =>
    rw [hfold] at h
    exact ⟨s, List.mem_cons_self, List.all_eq_true.mp h s List.mem_cons_self⟩
  | some =>
    rw [hfold] at h
    exact List.any_eq_true.mp h

/-- **A clause that holds of scalars of one sort only** accepts no field of another sort. -/
theorem accepts_eq_false (h : ∀ s : Scalar, f.compares s = true → s.family = k)
    (hfield : field.isOf k = false) : f.accepts (.ofJson field) = false := by
  rw [← Bool.not_eq_true] at hfield ⊢
  refine fun haccepts => hfield ?_
  cases field with
  | array es =>
    rw [f.accepts_array, Option.any_eq_true] at haccepts
    obtain ⟨ss, hes, haccepts⟩ := haccepts
    obtain ⟨hfamily, haccepts⟩ := Bool.and_eq_true_iff.mp haccepts
    refine Json.isOf_array_iff.mpr ⟨ss, hes, fun t ht => ?_⟩
    cases ss with
    | nil => cases ht
    | cons s ss =>
      -- one element has the sort, and all have the same
      obtain ⟨u, hu, hcompares⟩ := exists_compares_of_accepts haccepts
      exact (ofOneFamily_iff.mp hfamily t ht u hu).trans (h u hcompares)
  | _ =>
    rw [accepts_of_not_array _ rfl, Option.any_eq_true] at haccepts
    obtain ⟨s, hs, hcompares⟩ := haccepts
    rw [Json.isOf_of_not_array rfl, hs, Option.any_some, beq_iff_eq]
    exact h s hcompares

end

/-! ## 3. Verdicts on scalars -/

section

variable {l : Literal} {s : Scalar} {o : Option Bool}

theorem isSome_of_beq {b : Bool} (h : (o == some b) = true) : o.isSome = true := by
  rw [beq_iff_eq.mp h]
  rfl

/-- A verdict that is there says the one or the other. -/
theorem beq_some_false_eq_not (h : o.isSome = true) : (o == some false) = !(o == some true) := by
  obtain ⟨b, rfl⟩ := Option.isSome_iff_exists.mp h
  cases b <;> rfl

/-- **A literal and a scalar are the same or not** just if they are of one sort. -/
theorem isSome_sameAs? : (sameAs? l s).isSome = true ↔ s.family = l.family := by
  cases l <;> cases s <;> simp [sameAs?, numbersEqual?, Literal.toReal?, Scalar.toReal?,
    Literal.family, Scalar.family]

/-- Apart from texts, what loosely equals a literal is the same. -/
theorem looselyEquals_of_family_ne (h : l.family ≠ .text) :
    looselyEquals l s = (sameAs? l s == some true) := by
  cases l with
  | text raw => exact absurd rfl h
  | _ => rfl

theorem family_of_looselyEquals (h : looselyEquals l s = true) : s.family = l.family := by
  by_cases hl : l.family = .text
  · cases l with
    | text raw =>
      cases s with
      | text t => rfl
      | _ => cases h
    | _ => cases hl
  · rw [looselyEquals_of_family_ne hl] at h
    exact isSome_sameAs?.mp (isSome_of_beq h)

theorem isSome_onText {test : List Char → Bool} :
    (onText test s).isSome = true ↔ s.family = .text := by
  cases s <;> simp [onText, Scalar.family]

/-- **A pattern is found or not** just in a text, and just if it is one. -/
theorem isSome_like? {f : Filter} :
    (f.like? s).isSome = true ↔ f.pattern?.isSome = true ∧ s.family = .text := by
  rw [like?]
  cases f.pattern? with
  | none => simp
  | some p => simp [isSome_onText]

end

/-! ## 4. The operators -/

/-- The clause with another operator. -/
def withOp (f : Filter) (op : Operator) : Filter := ⟨f.key, op, f.raw⟩

section

variable {f : Filter} {s : Scalar}

/-- Only scalars of the sort of the literal are the same, like it or different. -/
theorem family_of_compares (hop : f.op ∈ [.strictEq, .looseDiff, .looseEq, .strictDiff])
    (h : f.compares s = true) : s.family = f.literal.family := by
  obtain ⟨key, op, raw⟩ := f
  cases op with
  | strictEq | looseDiff | strictDiff => exact isSome_sameAs?.mp (isSome_of_beq h)
  | looseEq => exact family_of_looselyEquals h
  | _ => simp at hop

/-- Only texts are searched, whatever the literal. -/
theorem family_of_compares_text (hop : f.op ∈ [.contains, .notContains, .like, .notLike])
    (h : f.compares s = true) : s.family = .text := by
  obtain ⟨key, op, raw⟩ := f
  cases op with
  | contains | notContains => exact isSome_onText.mp (isSome_of_beq h)
  | like | notLike => exact (isSome_like?.mp (isSome_of_beq h)).2
  | _ => simp at hop

variable (f)

theorem compares_strictEq_eq_not (h : s.family = f.literal.family) :
    (f.withOp .strictEq).compares s = !(f.withOp .looseDiff).compares s := by
  show (sameAs? f.literal s == some true) = !(sameAs? f.literal s == some false)
  rw [beq_some_false_eq_not (isSome_sameAs?.mpr h), Bool.not_not]

theorem compares_strictDiff_eq_not (hl : f.literal.family ≠ .text)
    (h : s.family = f.literal.family) :
    (f.withOp .strictDiff).compares s = !(f.withOp .looseEq).compares s := by
  show (sameAs? f.literal s == some false) = !looselyEquals f.literal s
  rw [looselyEquals_of_family_ne hl, beq_some_false_eq_not (isSome_sameAs?.mpr h)]

theorem compares_notContains_eq_not (h : s.family = .text) :
    (f.withOp .notContains).compares s = !(f.withOp .contains).compares s :=
  beq_some_false_eq_not (isSome_onText.mpr h)

theorem compares_notLike_eq_not (hpattern : (Pattern.compile? f.content).isSome = true)
    (h : s.family = .text) :
    (f.withOp .notLike).compares s = !(f.withOp .like).compares s :=
  beq_some_false_eq_not (isSome_like?.mpr ⟨hpattern, h⟩)

end

/-! ## 5. Fields -/

section

variable (f : Filter) {v field : Json}

theorem admits_of_get? (hfield : v.get? f.key = some field) :
    f.admits v = f.accepts (.ofJson field) := by
  rw [admits, hfield, Option.any_some]

/-- Every field is the one that some value has under the key of a clause. -/
theorem exists_get? (field : Json) : ∃ v : Json, v.get? f.key = some field :=
  ⟨.object [(f.key, field)], by simp [Json.get?, Json.members]⟩

/-- **Negated operators are complements** on the fields that can be compared, and hold of no other
field, as do those that they negate.  What can be compared is of the sort of the literal for the
comparisons of values, and of the sort of texts for the searches. -/
theorem admits_negated (hfield : v.get? f.key = some field) :
    (field.isOf f.literal.family = true →
      (f.withOp .looseDiff).admits v = !(f.withOp .strictEq).admits v ∧
        (f.literal.family ≠ .text →
          (f.withOp .strictDiff).admits v = !(f.withOp .looseEq).admits v)) ∧
    (field.isOf .text = true →
      (f.withOp .notContains).admits v = !(f.withOp .contains).admits v ∧
        ((Pattern.compile? f.content).isSome = true →
          (f.withOp .notLike).admits v = !(f.withOp .like).admits v)) ∧
    (field.isOf f.literal.family = false →
      ∀ op ∈ [.strictEq, .looseDiff, .looseEq, .strictDiff], (f.withOp op).admits v = false) ∧
    (field.isOf .text = false →
      ∀ op ∈ [.contains, .notContains, .like, .notLike], (f.withOp op).admits v = false) := by
  have hadmits : ∀ op, (f.withOp op).admits v = (f.withOp op).accepts (.ofJson field) :=
    fun op => (f.withOp op).admits_of_get? hfield
  simp only [hadmits]
  refine ⟨fun hof => ⟨?_, fun hl => ?_⟩, fun hof => ⟨?_, fun hpattern => ?_⟩,
    fun hof op hop => ?_, fun hof op hop => ?_⟩
  · rw [accepts_eq_not rfl rfl (fun _ => f.compares_strictEq_eq_not) hof, Bool.not_not]
  · exact accepts_eq_not rfl rfl (fun _ => f.compares_strictDiff_eq_not hl) hof
  · exact accepts_eq_not rfl rfl (fun _ => f.compares_notContains_eq_not) hof
  · exact accepts_eq_not rfl rfl (fun _ => f.compares_notLike_eq_not hpattern) hof
  · exact accepts_eq_false (fun _ => family_of_compares hop) hof
  · exact accepts_eq_false (fun _ => family_of_compares_text hop) hof

/-- An array of booleans, for a literal that is one. -/
theorem admits_negated_flags :
    (∃ field, (Json.object [("k", .array [.bool true, .bool false])]).get? "k" = some field ∧
      field.isOf .boolean = true ∧ field.isOf .text = false) ∧
    ((⟨"k", .looseDiff, "true"⟩ : Filter).admits
        (.object [("k", .array [.bool true, .bool false])]) =
      !(⟨"k", .strictEq, "true"⟩ : Filter).admits
        (.object [("k", .array [.bool true, .bool false])])) ∧
    ∀ op ∈ [.contains, .notContains, .like, .notLike],
      (⟨"k", op, "true"⟩ : Filter).admits (.object [("k", .array [.bool true, .bool false])]) =
        false := by
  have hfield : (Json.object [("k", .array [.bool true, .bool false])]).get? "k" =
      some (.array [.bool true, .bool false]) := rfl
  obtain ⟨hvalue, -, -, htext⟩ := admits_negated ⟨"k", .strictEq, "true"⟩ hfield
  exact ⟨⟨_, hfield, rfl, rfl⟩, (hvalue (by cbv)).1, htext rfl⟩

end

end Filter

end JsonSieve
