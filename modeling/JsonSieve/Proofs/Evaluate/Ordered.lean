/-
# Order and equality

The operators `>` and `<` ask for the order between a literal and a scalar.  The operator `===`
looks at neither but has a rule of its own, and both rules take integers apart from other numbers.
They agree: where there is an order, a literal and a scalar are the same just if neither comes
before the other (`sameAs?_of_orderTo?`).  So one of `>`, `<` and `===` holds of a scalar that
stands in an order with the literal, only one, and it decides the other comparisons
(`comparisons_agree`).

There is an order between texts and between numbers that have a place on the line of all numbers,
which NaN has not, and there is none between any other literal and scalar.
-/
import JsonSieve.Proofs.Evaluate.Negated

namespace JsonSieve

/-! ## 1. What stands in an order -/

/-- The place of a literal on the line of all numbers, in units.  NaN has none. -/
def Literal.place? : Literal → Option Int
  | integer n => some (n * unitsPerOne)
  | real x => x.rank?
  | _ => none

/-- The place of a scalar on the line of all numbers, in units.  NaN has none. -/
def Scalar.place? : Scalar → Option Int
  | integer n => some (n * unitsPerOne)
  | real x => x.rank?
  | _ => none

/-- Whether a literal and a scalar stand in an order: two numbers that have a place, or two
texts. -/
def areOrdered (l : Literal) (s : Scalar) : Bool :=
  l.place?.isSome && s.place?.isSome || l.family == .text && s.family == .text

namespace Binary64

theorem isSome_rank?_ofInt (n : Int) : (ofInt n).rank?.isSome = true := by
  rw [ofInt, Magnitude.ofNat?]
  cases Magnitude.nearest? (n.natAbs * unitsPerOne) 1 <;> rfl

theorem isSome_compare? (x y : Binary64) :
    (x.compare? y).isSome = (x.rank?.isSome && y.rank?.isSome) := by
  rw [compare?]
  cases x.rank? <;> cases y.rank? <;> rfl

/-- **Numbers in an order are equal** just if neither comes before the other. -/
theorem equals_of_compare? {x y : Binary64} {o : Ordering} (h : y.compare? x = some o) :
    x.equals y = (o == .eq) := by
  rw [compare?] at h
  rw [Bool.eq_iff_iff, equals_iff, beq_iff_eq]
  cases hy : y.rank? with
  | none => rw [hy] at h; cases h
  | some j =>
    cases hx : x.rank? with
    | none => rw [hy, hx] at h; cases h
    | some i =>
      rw [hy, hx] at h
      obtain rfl := Option.some.inj h
      rw [Int.compare_eq_eq]
      constructor
      · rintro ⟨r, hi, hj⟩
        exact (Option.some.inj hj).trans (Option.some.inj hi).symm
      · rintro rfl
        exact ⟨j, rfl, rfl⟩

end Binary64

section

variable {l : Literal} {s : Scalar} {o : Ordering}

/-- Unless both are integers, numbers are ordered in the double format. -/
theorem orderTo?_of_toReal? {x y : Binary64} (hl : l.toReal? = some x) (hs : s.toReal? = some y)
    (h : ∀ a b, l = .integer a → s ≠ .integer b) : orderTo? l s = y.compare? x := by
  rw [orderTo?, hl, hs]
  · rfl
  · exact h
  · rintro raw t rfl
    cases hl

theorem orderTo?_integer_real (a : Int) (y : Binary64) :
    orderTo? (.integer a) (.real y) = y.compare? (.ofInt a) :=
  orderTo?_of_toReal? rfl rfl nofun

theorem orderTo?_real_integer (x : Binary64) (b : Int) :
    orderTo? (.real x) (.integer b) = (Binary64.ofInt b).compare? x :=
  orderTo?_of_toReal? rfl rfl nofun

theorem orderTo?_real_real (x y : Binary64) : orderTo? (.real x) (.real y) = y.compare? x :=
  orderTo?_of_toReal? rfl rfl nofun

/-- Unless both are integers, numbers are the same as they are in the double format. -/
theorem sameAs?_of_toReal? {x y : Binary64} (hl : l.toReal? = some x) (hs : s.toReal? = some y)
    (h : ∀ a b, l = .integer a → s ≠ .integer b) : sameAs? l s = some (x.equals y) := by
  rw [sameAs?, numbersEqual?, hl, hs]
  · rfl
  · exact h
  · rintro raw t rfl
    cases hl
  · rintro rfl
    cases hl
  · rintro raw t rfl
    cases hl

/-- **An order is found** just where there is one. -/
theorem isSome_orderTo? : (orderTo? l s).isSome = areOrdered l s := by
  cases l with
  | integer a =>
    cases s with
    | real y =>
      rw [orderTo?_integer_real, Binary64.isSome_compare?, Binary64.isSome_rank?_ofInt,
        Bool.and_true]
      exact (Bool.or_false _).symm
    | _ => rfl
  | real x =>
    cases s with
    | integer b =>
      rw [orderTo?_real_integer, Binary64.isSome_compare?, Binary64.isSome_rank?_ofInt,
        Bool.true_and]
      exact ((Bool.or_false _).trans (Bool.and_true _)).symm
    | real y =>
      rw [orderTo?_real_real, Binary64.isSome_compare?, Bool.and_comm]
      exact (Bool.or_false _).symm
    | _ => simp [orderTo?, areOrdered, Scalar.toReal?, Scalar.place?, Literal.family]
  | _ => cases s <;> rfl

/-- **A scalar in an order with a literal is the same** just if neither comes before the other. -/
theorem sameAs?_of_orderTo? (h : orderTo? l s = some o) : sameAs? l s = some (o == .eq) := by
  have hreals : ∀ {x y : Binary64}, l.toReal? = some x → s.toReal? = some y →
      (∀ a b, l = .integer a → s ≠ .integer b) → sameAs? l s = some (o == .eq) := by
    intro x y hl hs hne
    rw [orderTo?_of_toReal? hl hs hne] at h
    rw [sameAs?_of_toReal? hl hs hne, Binary64.equals_of_compare? h]
  cases l with
  | integer a =>
    cases s with
    | integer b =>
      obtain rfl := Option.some.inj h
      refine congrArg some ?_
      rw [Bool.eq_iff_iff, beq_iff_eq, beq_iff_eq, Int.compare_eq_eq, eq_comm]
    | real y => exact hreals rfl rfl nofun
    | _ => cases h
  | real x =>
    cases s with
    | integer b => exact hreals rfl rfl nofun
    | real y => exact hreals rfl rfl nofun
    | _ => cases h
  | text raw =>
    cases s with
    | text t =>
      obtain rfl := Option.some.inj h
      refine congrArg some ?_
      rw [Bool.eq_iff_iff, beq_iff_eq, beq_iff_eq, Std.compare_eq_iff_eq, ← String.toList_inj,
        String.toList_ofList]
    | _ => cases h
  | _ => cases s <;> cases h

end

/-! ## 2. What an order decides -/

/-- The operators that an order decides. -/
def Operator.ofValues : List Operator :=
  [.strictEq, .strictDiff, .looseDiff, .gt, .gte, .lt, .lte]

/-- Whether an operator holds of a scalar that stands in this order to the literal. -/
def Operator.holdsFor : Operator → Ordering → Bool
  | .strictEq, o => o == .eq
  | .strictDiff, o | .looseDiff, o => o != .eq
  | .gt, o => o == .gt
  | .gte, o => o != .lt
  | .lt, o => o == .lt
  | .lte, o => o != .gt
  | _, _ => false

namespace Filter

variable {f : Filter} {s : Scalar}

/-- **The order between the literal and a scalar** decides every comparison of values. -/
theorem compares_of_orderTo? {op : Operator} {o : Ordering} (hop : op ∈ Operator.ofValues)
    (h : orderTo? f.literal s = some o) : (f.withOp op).compares s = op.holdsFor o := by
  have hsame := sameAs?_of_orderTo? h
  have hliteral : (f.withOp op).literal = f.literal := rfl
  rw [compares, hliteral]
  cases op with
  | strictEq | strictDiff | looseDiff =>
    rw [withOp, hsame]
    cases o <;> rfl
  | gt | gte | lt | lte =>
    rw [withOp, h]
    cases o <;> rfl
  | _ => simp [Operator.ofValues] at hop

/-- Without an order none of its operators holds. -/
theorem compares_of_not_ordered {op : Operator} (hop : op ∈ [.gt, .gte, .lt, .lte])
    (h : areOrdered f.literal s = false) : (f.withOp op).compares s = false := by
  have hnone : orderTo? f.literal s = none := by
    rwa [← isSome_orderTo?, Option.isSome_eq_false_iff, Option.isNone_iff_eq_none] at h
  have hliteral : (f.withOp op).literal = f.literal := rfl
  rw [compares, hliteral]
  cases op with
  | gt | gte | lt | lte =>
    rw [withOp, hnone]
    rfl
  | _ => simp at hop

/-- A literal that is a text is the whole token. -/
theorem literal_eq_text (h : f.literal.family = .text) : f.literal = .text f.raw := by
  rw [literal, Literal.typed] at h ⊢
  split_ifs at h ⊢
  · cases h
  · cases h
  · cases h
  · split at h
    · cases h
    · split at h
      · cases h
      · rfl

/-- Of `>`, `<` and `===` an order decides for exactly one. -/
theorem exists_unique_holdsFor (o : Ordering) :
    ∃! op : Operator, op ∈ [Operator.gt, .lt, .strictEq] ∧ op.holdsFor o = true := by
  have hunique : ∀ {op op' : Operator}, op' ∈ [Operator.gt, .lt, .strictEq] →
      op'.holdsFor o = true → op ∈ [Operator.gt, .lt, .strictEq] → op.holdsFor o = true →
      op' = op := by
    simp only [List.mem_cons, List.not_mem_nil, or_false]
    rintro op op' (rfl | rfl | rfl) h' (rfl | rfl | rfl) h <;>
      cases o <;> cases h <;> cases h' <;> rfl
  cases o with
  | lt => exact ⟨.lt, ⟨by decide, rfl⟩, fun op h => hunique h.1 h.2 (by decide) rfl⟩
  | eq => exact ⟨.strictEq, ⟨by decide, rfl⟩, fun op h => hunique h.1 h.2 (by decide) rfl⟩
  | gt => exact ⟨.gt, ⟨by decide, rfl⟩, fun op h => hunique h.1 h.2 (by decide) rfl⟩

/-- **Order and equality agree.**  If a scalar stands in an order with the literal, exactly one of
`>`, `<` and `===` holds of it, and the other comparisons of values are put together from these.
For texts `<` is the lexicographic order.  Without an order none of its four operators holds. -/
theorem comparisons_agree (f : Filter) (s : Scalar) :
    (areOrdered f.literal s = true →
      (∃! op, op ∈ [.gt, .lt, .strictEq] ∧ (f.withOp op).accepts (.scalar s) = true) ∧
      ((f.withOp .gte).accepts (.scalar s) =
        ((f.withOp .gt).accepts (.scalar s) || (f.withOp .strictEq).accepts (.scalar s))) ∧
      ((f.withOp .lte).accepts (.scalar s) =
        ((f.withOp .lt).accepts (.scalar s) || (f.withOp .strictEq).accepts (.scalar s))) ∧
      ∀ op ∈ [.strictDiff, .looseDiff], (f.withOp op).accepts (.scalar s) =
        ((f.withOp .gt).accepts (.scalar s) || (f.withOp .lt).accepts (.scalar s))) ∧
    (∀ t, f.literal.family = .text → s = .text t →
      ((f.withOp .lt).accepts (.scalar s) = true ↔ t.toList < f.content)) ∧
    (areOrdered f.literal s = false → ∀ op ∈ [.gt, .gte, .lt, .lte],
      (f.withOp op).accepts (.scalar s) = false) := by
  simp only [accepts]
  refine ⟨fun hordered => ?_, ?_, fun h op hop => compares_of_not_ordered hop h⟩
  · rw [← isSome_orderTo?] at hordered
    obtain ⟨o, ho⟩ := Option.isSome_iff_exists.mp hordered
    have hcompares : ∀ {op}, op ∈ Operator.ofValues → (f.withOp op).compares s = op.holdsFor o :=
      fun hop => compares_of_orderTo? hop ho
    have hthree : [Operator.gt, .lt, .strictEq] ⊆ Operator.ofValues := by decide
    have hdiffer : [Operator.strictDiff, .looseDiff] ⊆ Operator.ofValues := by decide
    refine ⟨?_, ?_, ?_, ?_⟩
    · obtain ⟨op, ⟨hop, hholds⟩, hunique⟩ := exists_unique_holdsFor o
      refine ⟨op, ⟨hop, (hcompares (hthree hop)).trans hholds⟩, fun op' h => ?_⟩
      exact hunique op' ⟨h.1, (hcompares (hthree h.1)).symm.trans h.2⟩
    · rw [hcompares (by decide), hcompares (by decide), hcompares (by decide)]
      cases o <;> rfl
    · rw [hcompares (by decide), hcompares (by decide), hcompares (by decide)]
      cases o <;> rfl
    · intro op hop
      rw [hcompares (hdiffer hop), hcompares (by decide), hcompares (by decide)]
      simp only [List.mem_cons, List.not_mem_nil, or_false] at hop
      rcases hop with rfl | rfl <;> cases o <;> rfl
  · rintro t hfamily rfl
    have hliteral := literal_eq_text hfamily
    have horder : orderTo? f.literal (.text t) =
        some (compare t (String.ofList f.content)) := by
      rw [hliteral]
      rfl
    have hlt : compare t (String.ofList f.content) = .lt ↔ t < String.ofList f.content :=
      compareOfLessAndEq_eq_lt
    rw [compares_of_orderTo? (by decide) horder, Operator.holdsFor, beq_iff_eq, hlt,
      String.lt_iff, String.toList_ofList]

/-- An integer literal with a number of the double format and with NaN, and a text with a text. -/
theorem comparisons_agree_seven :
    (areOrdered (⟨"k", .strictEq, "7"⟩ : Filter).literal (.real .zero) = true ∧
      ∃! op, op ∈ [.gt, .lt, .strictEq] ∧
        (⟨"k", op, "7"⟩ : Filter).accepts (.scalar (.real .zero)) = true) ∧
    (areOrdered (⟨"k", .strictEq, "7"⟩ : Filter).literal (.real .nan) = false ∧
      ∀ op ∈ [.gt, .gte, .lt, .lte],
        (⟨"k", op, "7"⟩ : Filter).accepts (.scalar (.real .nan)) = false) ∧
    ((⟨"k", .strictEq, "\"é\""⟩ : Filter).literal.family = .text ∧
      ((⟨"k", .lt, "\"é\""⟩ : Filter).accepts (.scalar (.text "z")) = true ↔ ['z'] < ['é'])) := by
  have hseven : (⟨"k", .strictEq, "7"⟩ : Filter).literal = .integer 7 := by decide +kernel
  have hzero : areOrdered (⟨"k", .strictEq, "7"⟩ : Filter).literal (.real .zero) = true := by
    rw [hseven]
    rfl
  have hnan : areOrdered (⟨"k", .strictEq, "7"⟩ : Filter).literal (.real .nan) = false := by
    rw [hseven]
    rfl
  have htext : (⟨"k", .strictEq, "\"é\""⟩ : Filter).literal.family = .text := by decide +kernel
  exact ⟨⟨hzero, ((comparisons_agree _ _).1 hzero).1⟩,
    ⟨hnan, (comparisons_agree _ _).2.2 hnan⟩,
    ⟨htext, (comparisons_agree ⟨"k", .strictEq, "\"é\""⟩ (.text "z")).2.1 "z" htext rfl⟩⟩

end Filter

end JsonSieve
