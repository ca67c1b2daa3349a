/-
# A number is compared by its value

Whatever number a filter asks for, of two numbers of one form the greater one passes every test for
greater values that the smaller one passes.  This need not be so of an integer and a number of the
double format.  An integer literal is compared with integers as it is, and with other numbers as it
is rounded to the double format; it is as if there were two thresholds.  If they are the same, all
numbers are compared by their values (`Follows`).  Otherwise a number that is level with one
threshold may be beyond the other one, but never on the wrong side of it (`NearlyFollows`): no
number of the format is passed in rounding.

The thresholds are the same for every integer that is a number of the format.  For any other integer
there are numbers that get the wrong answer, but for the last integer of 64 bits, which has no
integer behind it (`orderings_follow_value`).
-/
import JsonSieve.Proofs.Binary64.Rounding
import JsonSieve.Proofs.Evaluate.Ordered

namespace JsonSieve

open Binary64

/-! ## 1. Thresholds -/

/-- Whether a scalar is kept as an integer. -/
def Scalar.isInteger : Scalar → Bool
  | integer _ => true
  | _ => false

/-- Whether a literal is compared with every number as it is: an integer has to be a number of the
double format. -/
def Literal.IsFaithful : Literal → Prop
  | integer n => (ofInt n).rank? = some (n * unitsPerOne)
  | _ => True

instance : DecidablePred Literal.IsFaithful
  | .integer n => inferInstanceAs (Decidable ((ofInt n).rank? = some (n * unitsPerOne)))
  | .real _ | .bool _ | .null | .text _ => inferInstanceAs (Decidable True)

theorem isFaithful_integer {a : Int} :
    (Literal.integer a).IsFaithful ↔ rounded (a * unitsPerOne) = a * unitsPerOne := by
  rw [Literal.IsFaithful, rank?_ofInt, Option.some_inj]

section

variable {x : Scalar} {p : Int} (hx : x.place? = some p)
include hx

/-- With a number of the double format every number is compared as it is rounded. -/
theorem orderTo?_real_place {c : Binary64} {k : Int} (hc : c.rank? = some k) :
    orderTo? (.real c) x = some (compare (rounded p) k) := by
  cases x with
  | integer b =>
    obtain rfl := Option.some.inj hx
    rw [orderTo?_real_integer, compare?, rank?_ofInt, hc]
  | real y =>
    rw [orderTo?_real_real, compare?, show y.rank? = some p from hx, hc, rounded_of_rank? hx]
  | _ => cases hx

/-- With an integer other integers are compared as they are, and other numbers with what it is
rounded to. -/
theorem orderTo?_integer_place (a : Int) :
    orderTo? (.integer a) x =
      some (compare p (if x.isInteger then a * unitsPerOne else rounded (a * unitsPerOne))) := by
  cases x with
  | integer b =>
    obtain rfl := Option.some.inj hx
    exact congrArg some (compare_mul_pos (Int.natCast_pos.mpr unitsPerOne_pos)).symm
  | real y =>
    rw [orderTo?_integer_real, compare?, show y.rank? = some p from hx, rank?_ofInt]
    rfl
  | _ => cases hx

end

/-- Whether an integer has 64 bits with its sign; nothing is asked of other scalars. -/
def Scalar.FitsWord : Scalar → Prop
  | integer n => fitsWord n = true
  | _ => True

/-- Whether two scalars are numbers of which the first is not greater than the second. -/
def Scalar.NotAbove (x y : Scalar) : Prop := ∃ p q, x.place? = some p ∧ y.place? = some q ∧ p ≤ q

section

variable {x : Scalar} {p : Int} (hx : x.place? = some p) (hreal : x.isInteger = false) (i : Int)
include hx hreal

/-- What is not kept as an integer is a number of the format. -/
theorem exists_rank?_eq : ∃ y : Binary64, y.rank? = some p := by
  cases x with
  | integer b => cases hreal
  | real y => exact ⟨y, hx⟩
  | _ => cases hx

theorem le_rounded_place (hle : p ≤ i) : p ≤ rounded i := by
  obtain ⟨y, hy⟩ := exists_rank?_eq hx hreal
  exact le_rounded hy hle

theorem rounded_le_place (hle : i ≤ p) : rounded i ≤ p := by
  obtain ⟨y, hy⟩ := exists_rank?_eq hx hreal
  exact rounded_le hy hle

end

/-! ## 2. Which numbers pass -/

namespace Filter

/-- What passes a test for greater values is beyond the threshold, and what passes a test for
smaller values is before it. -/
theorem accepts_of_orderTo? {f : Filter} {x : Scalar} {i k : Int}
    (h : orderTo? f.literal x = some (compare i k)) :
    ((f.withOp .gt).accepts (.scalar x) = true ↔ k < i) ∧
      ((f.withOp .gte).accepts (.scalar x) = true ↔ k ≤ i) ∧
      ((f.withOp .lt).accepts (.scalar x) = true ↔ i < k) ∧
      ((f.withOp .lte).accepts (.scalar x) = true ↔ i ≤ k) := by
  simp only [accepts]
  rw [compares_of_orderTo? (by decide) h, compares_of_orderTo? (by decide) h,
    compares_of_orderTo? (by decide) h, compares_of_orderTo? (by decide) h]
  simp only [Operator.holdsFor, beq_iff_eq, bne_iff_ne, ne_eq, Int.compare_eq_gt, Int.compare_eq_lt,
    Int.not_lt, and_self]

/-- **The second number passes every test for greater values** that the first one passes, and the
first one every test for smaller values that the second one passes. -/
def Follows (f : Filter) (x y : Scalar) : Prop :=
  (∀ op ∈ [.gt, .gte],
    (f.withOp op).accepts (.scalar x) = true → (f.withOp op).accepts (.scalar y) = true) ∧
  ∀ op ∈ [.lt, .lte],
    (f.withOp op).accepts (.scalar y) = true → (f.withOp op).accepts (.scalar x) = true

/-- The same but for numbers that are level with the threshold: what is beyond it for one number is
at least level with it for the other. -/
def NearlyFollows (f : Filter) (x y : Scalar) : Prop :=
  ((f.withOp .gt).accepts (.scalar x) = true → (f.withOp .gte).accepts (.scalar y) = true) ∧
  ((f.withOp .lt).accepts (.scalar y) = true → (f.withOp .lte).accepts (.scalar x) = true)

theorem Follows.nearlyFollows {f : Filter} {x y : Scalar} (h : f.Follows x y) :
    f.NearlyFollows x y := by
  -- what is beyond the threshold is at least level with it
  have habove : (f.withOp .gt).accepts (.scalar y) = true →
      (f.withOp .gte).accepts (.scalar y) = true := fun hy => Bool.or_eq_true_iff.mpr (.inl hy)
  have hbelow : (f.withOp .lt).accepts (.scalar x) = true →
      (f.withOp .lte).accepts (.scalar x) = true := fun hx => Bool.or_eq_true_iff.mpr (.inl hx)
  exact ⟨fun hx => habove (h.1 .gt (by decide) hx), fun hy => hbelow (h.2 .lt (by decide) hy)⟩

section

variable {f : Filter} {x y : Scalar} {i j k l : Int}
  (hx : orderTo? f.literal x = some (compare i k)) (hy : orderTo? f.literal y = some (compare j l))
include hx hy

theorem follows_iff : f.Follows x y ↔
    ((k < i → l < j) ∧ (k ≤ i → l ≤ j)) ∧ (j < l → i < k) ∧ (j ≤ l → i ≤ k) := by
  obtain ⟨hx₁, hx₂, hx₃, hx₄⟩ := accepts_of_orderTo? hx
  obtain ⟨hy₁, hy₂, hy₃, hy₄⟩ := accepts_of_orderTo? hy
  simp only [Follows, List.forall_mem_cons, List.not_mem_nil, false_imp_iff, implies_true, and_true,
    hx₁, hx₂, hx₃, hx₄, hy₁, hy₂, hy₃, hy₄]

theorem nearlyFollows_iff : f.NearlyFollows x y ↔ (k < i → l ≤ j) ∧ (j < l → i ≤ k) := by
  obtain ⟨hx₁, -, -, hx₄⟩ := accepts_of_orderTo? hx
  obtain ⟨-, hy₂, hy₃, -⟩ := accepts_of_orderTo? hy
  rw [NearlyFollows, hx₁, hx₄, hy₂, hy₃]

end

/-! ## 3. Numbers in the order of their values -/

section

variable {f : Filter} {x y : Scalar}

/-- **With a number of the double format** all numbers are compared in the order of their values. -/
theorem follows_of_real {c : Binary64} {k : Int} (hl : f.literal = .real c) (hc : c.rank? = some k)
    (h : x.NotAbove y) : f.Follows x y := by
  obtain ⟨p, q, hx, hy, hle⟩ := h
  have hmono := rounded_mono hle
  rw [follows_iff (hl ▸ orderTo?_real_place hx hc) (hl ▸ orderTo?_real_place hy hc)]
  omega

/-- **With an integer** numbers are compared in the order of their values, if the threshold for both
is the same. -/
theorem follows_of_integer {a : Int} (hl : f.literal = .integer a) (h : x.NotAbove y)
    (hsame : f.literal.IsFaithful ∨ x.isInteger = y.isInteger) : f.Follows x y := by
  obtain ⟨p, q, hx, hy, hle⟩ := h
  rw [follows_iff (hl ▸ orderTo?_integer_place hx a) (hl ▸ orderTo?_integer_place hy a)]
  rcases hsame with hfaithful | hform
  · rw [hl, isFaithful_integer] at hfaithful
    rw [hfaithful, ite_self, ite_self]
    omega
  · rw [hform]
    omega

/-- **With any integer** no number is put on the wrong side of another one. -/
theorem nearlyFollows_of_integer {a : Int} (hl : f.literal = .integer a) (h : x.NotAbove y) :
    f.NearlyFollows x y := by
  obtain ⟨p, q, hx, hy, hle⟩ := h
  rw [nearlyFollows_iff (hl ▸ orderTo?_integer_place hx a) (hl ▸ orderTo?_integer_place hy a)]
  cases hxi : x.isInteger <;> cases hyi : y.isInteger <;>
    simp only [if_true, Bool.false_eq_true, if_false]
  · omega
  · have hpass := le_rounded_place hx hxi (a * unitsPerOne)
    omega
  · have hpass := rounded_le_place hy hyi (a * unitsPerOne)
    omega
  · omega

end

/-! ## 4. Where values decide -/

section

variable {f : Filter} {a : Int}

theorem fitsWord_of_literal (hl : f.literal = .integer a) : fitsWord a = true := by
  rw [literal, Literal.typed] at hl
  split_ifs at hl
  split at hl
  · next n hn =>
    cases hl
    exact (Option.filter_eq_some_iff.mp hn).2
  · split at hl <;> cases hl

variable (hl : f.literal = .integer a)
include hl

/-- **An integer that is rounded up** is below its neighbour, which is not beyond the number that
the integer is rounded to. -/
theorem not_follows_of_lt (hlt : a * unitsPerOne < rounded (a * unitsPerOne)) :
    (Scalar.integer (a + 1)).NotAbove (.real (.ofInt a)) ∧
      ¬ f.Follows (.integer (a + 1)) (.real (.ofInt a)) := by
  have hpos : (0 : Int) < unitsPerOne := Int.natCast_pos.mpr unitsPerOne_pos
  have hx : (Scalar.integer (a + 1)).place? = some ((a + 1) * unitsPerOne) := rfl
  have hy : (Scalar.real (.ofInt a)).place? = some (rounded (a * unitsPerOne)) := rank?_ofInt a
  refine ⟨⟨_, _, hx, hy, ?_⟩, ?_⟩
  · obtain ⟨m, hm⟩ := exists_rounded_eq a
    rw [hm] at hlt ⊢
    exact (Int.mul_le_mul_right hpos).mpr ((Int.mul_lt_mul_right hpos).mp hlt)
  · have hnext : a * unitsPerOne < (a + 1) * unitsPerOne :=
      (Int.mul_lt_mul_right hpos).mpr (Int.lt_succ a)
    rw [follows_iff (hl ▸ orderTo?_integer_place hx a) (hl ▸ orderTo?_integer_place hy a)]
    rintro ⟨⟨habove, -⟩, -⟩
    exact absurd (habove hnext) (Int.lt_irrefl _)

/-- **An integer that is rounded down** is above its neighbour, which is not before the number that
the integer is rounded to. -/
theorem not_follows_of_gt (hlt : rounded (a * unitsPerOne) < a * unitsPerOne) :
    (Scalar.real (.ofInt a)).NotAbove (.integer (a - 1)) ∧
      ¬ f.Follows (.real (.ofInt a)) (.integer (a - 1)) := by
  have hpos : (0 : Int) < unitsPerOne := Int.natCast_pos.mpr unitsPerOne_pos
  have hx : (Scalar.real (.ofInt a)).place? = some (rounded (a * unitsPerOne)) := rank?_ofInt a
  have hy : (Scalar.integer (a - 1)).place? = some ((a - 1) * unitsPerOne) := rfl
  refine ⟨⟨_, _, hx, hy, ?_⟩, ?_⟩
  · obtain ⟨m, hm⟩ := exists_rounded_eq a
    rw [hm] at hlt ⊢
    exact (Int.mul_le_mul_right hpos).mpr
      (Int.le_sub_one_of_lt ((Int.mul_lt_mul_right hpos).mp hlt))
  · have hnext : (a - 1) * unitsPerOne < a * unitsPerOne :=
      (Int.mul_lt_mul_right hpos).mpr (Int.sub_one_lt_of_le (Int.le_refl a))
    rw [follows_iff (hl ▸ orderTo?_integer_place hx a) (hl ▸ orderTo?_integer_place hy a)]
    rintro ⟨⟨-, hatLeast⟩, -⟩
    exact absurd (hatLeast (Int.le_refl _)) (Int.not_le.mpr hnext)

end

/-- The last integer of 64 bits with a sign. -/
def lastWord : Int := 9223372036854775807

section

variable {f : Filter} {x y : Scalar}

/-- Behind an integer of 64 bits, the last one apart, there is another one. -/
theorem fitsWord_succ {n : Int} (h : fitsWord n = true) (hne : n ≠ lastWord) :
    fitsWord (n + 1) = true := by
  simp only [fitsWord, Bool.and_eq_true, decide_eq_true_eq, lastWord] at h hne ⊢
  omega

/-- Before an integer of 64 bits that is rounded down there is another one. -/
theorem fitsWord_pred {n : Int} (h : fitsWord n = true)
    (hlt : rounded (n * unitsPerOne) < n * unitsPerOne) : fitsWord (n - 1) = true := by
  have hfirst : rounded (-9223372036854775808 * unitsPerOne) =
      -9223372036854775808 * unitsPerOne := by
    decide +kernel
  have hne : n ≠ -9223372036854775808 := by
    rintro rfl
    omega
  simp only [fitsWord, Bool.and_eq_true, decide_eq_true_eq] at h ⊢
  omega

theorem le_lastWord {n : Int} (h : fitsWord n = true) : n ≤ lastWord := by
  simp only [fitsWord, Bool.and_eq_true, decide_eq_true_eq] at h
  rw [lastWord]
  omega

/-- An integer of 64 bits has its place at the last one or before it. -/
theorem place_le_lastWord {p : Int} (hfits : x.FitsWord) (hx : x.place? = some p)
    (hinteger : x.isInteger = true) : p ≤ lastWord * unitsPerOne := by
  cases x with
  | integer n =>
    obtain rfl := Option.some.inj hx
    exact Int.mul_le_mul_of_nonneg_right (le_lastWord hfits) (Int.natCast_nonneg _)
  | _ => cases hinteger

/-- **The last integer of 64 bits** is rounded up, but no integer lies between it and what it
becomes. -/
theorem follows_of_lastWord (hl : f.literal = .integer lastWord) (hxfits : x.FitsWord)
    (hyfits : y.FitsWord) (h : x.NotAbove y) : f.Follows x y := by
  have hup : lastWord * unitsPerOne ≤ rounded (lastWord * unitsPerOne) := by decide +kernel
  by_cases hform : x.isInteger = y.isInteger
  · exact follows_of_integer hl h (.inr hform)
  obtain ⟨p, q, hx, hy, hle⟩ := h
  rw [follows_iff (hl ▸ orderTo?_integer_place hx _) (hl ▸ orderTo?_integer_place hy _)]
  cases hxi : x.isInteger with
  | true =>
    have hyi : y.isInteger = false := by rwa [hxi, eq_comm, Bool.not_eq_true] at hform
    have hlast := place_le_lastWord hxfits hx hxi
    have hpass := rounded_le_place hy hyi (lastWord * unitsPerOne)
    simp only [hyi, if_true, Bool.false_eq_true, if_false]
    omega
  | false =>
    have hyi : y.isInteger = true := by rwa [hxi, eq_comm, Bool.not_eq_false] at hform
    have hlast := place_le_lastWord hyfits hy hyi
    simp only [hyi, if_true, Bool.false_eq_true, if_false]
    omega

end

/-- **Numbers are compared in the order of their values** if they are of one form, or if the literal
is a number of the double format.  With any other literal no number is put on the wrong side of
another one, but there are numbers that are not compared in the order of their values, unless the
literal is the last integer of 64 bits. -/
theorem orderings_follow_value (f : Filter) (hf : f.literal.place?.isSome = true) :
    (∀ x y : Scalar, x.NotAbove y →
      (f.literal.IsFaithful ∨ x.isInteger = y.isInteger → f.Follows x y) ∧ f.NearlyFollows x y) ∧
    ((∀ x y : Scalar, x.FitsWord → y.FitsWord → x.NotAbove y → f.Follows x y) ↔
      f.literal.IsFaithful ∨ f.literal = .integer lastWord) := by
  cases hl : f.literal with
  | real c =>
    rw [hl] at hf
    obtain ⟨k, hc⟩ := Option.isSome_iff_exists.mp hf
    have hfollows : ∀ x y : Scalar, x.NotAbove y → f.Follows x y :=
      fun _ _ h => follows_of_real hl hc h
    exact ⟨fun x y h => ⟨fun _ => hfollows x y h, (hfollows x y h).nearlyFollows⟩,
      iff_of_true (fun x y _ _ h => hfollows x y h) (.inl trivial)⟩
  | integer a =>
    rw [← hl]
    refine ⟨fun x y h => ⟨follows_of_integer hl h, nearlyFollows_of_integer hl h⟩, fun h => ?_, ?_⟩
    · rcases Int.lt_trichotomy (a * unitsPerOne) (rounded (a * unitsPerOne)) with hlt | heq | hlt
      · obtain ⟨hplaces, hnot⟩ := not_follows_of_lt hl hlt
        refine .inr (hl ▸ congrArg _ (by_contra fun hne => ?_))
        have hfits : (Scalar.integer (a + 1)).FitsWord := fitsWord_succ (fitsWord_of_literal hl) hne
        exact hnot (h _ _ hfits trivial hplaces)
      · exact .inl (hl ▸ isFaithful_integer.mpr heq.symm)
      · obtain ⟨hplaces, hnot⟩ := not_follows_of_gt hl hlt
        have hfits : (Scalar.integer (a - 1)).FitsWord := fitsWord_pred (fitsWord_of_literal hl) hlt
        exact absurd (h (.real (.ofInt a)) _ trivial hfits hplaces) hnot
    · rintro (hfaithful | hlast) x y hx hy h
      · exact follows_of_integer hl h (.inl hfaithful)
      · exact follows_of_lastWord hlast hx hy h
  | _ => rw [hl] at hf; cases hf

/-- An odd integer above `2⁵³`, with its neighbour in either form, and the same with the neighbour
as the literal. -/
theorem orderings_follow_value_neighbours :
    (⟨"k", .gt, "9007199254740995"⟩ : Filter).literal.place?.isSome = true ∧
    (⟨"k", .gt, "9007199254740996"⟩ : Filter).literal.place?.isSome = true ∧
    (Scalar.integer 9007199254740996).NotAbove (.real (.ofInt 9007199254740996)) ∧
    (⟨"k", .gt, "9007199254740996"⟩ : Filter).literal.IsFaithful ∧
    (⟨"k", .gt, "9007199254740995"⟩ : Filter).NearlyFollows (.integer 9007199254740996)
      (.real (.ofInt 9007199254740996)) ∧
    (⟨"k", .gt, "9007199254740996"⟩ : Filter).Follows (.integer 9007199254740996)
      (.real (.ofInt 9007199254740996)) := by
  have hodd : (⟨"k", .gt, "9007199254740995"⟩ : Filter).literal.place?.isSome = true := by
    decide +kernel
  have heven : (⟨"k", .gt, "9007199254740996"⟩ : Filter).literal.place?.isSome = true := by
    decide +kernel
  have hfaithful : (⟨"k", .gt, "9007199254740996"⟩ : Filter).literal.IsFaithful := by
    decide +kernel
  have hplaces : (Scalar.integer 9007199254740996).NotAbove (.real (.ofInt 9007199254740996)) :=
    ⟨_, 9007199254740996 * unitsPerOne, rfl, by decide +kernel, Int.le_refl _⟩
  exact ⟨hodd, heven, hplaces, hfaithful, ((orderings_follow_value _ hodd).1 _ _ hplaces).2,
    ((orderings_follow_value _ heven).1 _ _ hplaces).1 (.inl hfaithful)⟩

/-- **Two forms of one number may get different answers:** with a literal that is rounded up to it,
it is greater as an integer and not greater as a number of the double format. -/
theorem gt_one_form_only :
    (⟨"k", .gt, "9007199254740995"⟩ : Filter).literal = .integer 9007199254740995 ∧
    (Scalar.real (.ofInt 9007199254740996)).place? = (Scalar.integer 9007199254740996).place? ∧
    (⟨"k", .gt, "9007199254740995"⟩ : Filter).accepts
      (.scalar (.integer 9007199254740996)) = true ∧
    (⟨"k", .gt, "9007199254740995"⟩ : Filter).accepts
      (.scalar (.real (.ofInt 9007199254740996))) = false := by
  decide +kernel

end Filter

end JsonSieve
