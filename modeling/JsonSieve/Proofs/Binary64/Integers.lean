/-
# Integers in the double format

Rounding an integer to the format loses nothing below `2⁵³`, and above that it never brings a number
back below: the least that is found for a count is the power of two it starts with
(`two_pow_log2_le_nearestUnits`).  So a small integer stands in the same order to every other
integer before and after both are rounded (`compare?_ofInt`), although the other one may be rounded
to a different number, or out of range altogether.
-/
import Mathlib.Algebra.Order.Ring.Int
import JsonSieve.Proofs.Json.Numeral

namespace JsonSieve.Binary64

/-! ## 1. Counts of units -/

theorem unitsPerOne_small : 2 ^ 67 * unitsPerOne < rangeUnits := by decide +kernel

theorem exists_unitsPerOne_eq : ∃ t, unitsPerOne = 2 ^ t := ⟨1074, by decide +kernel⟩

theorem two_pow_mul_unitsPerOne : 2 ^ 53 * unitsPerOne = 2 ^ 1127 := by decide +kernel

/-- Rounding to the format at most doubles a count. -/
theorem nearestUnits_le (n : Nat) : Magnitude.nearestUnits n 1 ≤ 2 * n + 1 := by
  have hpow : 2 ^ Magnitude.excess n 1 ≤ n + 1 := by
    by_cases h0 : n = 0
    · subst h0
      decide
    · have hlog : 2 ^ (n.log2 - 52) ≤ 2 ^ n.log2 := Nat.pow_le_pow_right (by decide) (by omega)
      have hself := Nat.log2_self_le h0
      rw [Magnitude.excess, Nat.div_one]
      omega
  have hround := roundHalfEven_le n (1 * 2 ^ Magnitude.excess n 1)
  rw [Magnitude.nearestUnits]
  rw [Nat.one_mul] at hround ⊢
  generalize 2 ^ Magnitude.excess n 1 = p at *
  have hmul := Nat.mul_le_mul_right p hround
  have hdiv := Nat.div_mul_le_self n p
  rw [Nat.add_mul, Nat.one_mul] at hmul
  omega

/-- **Rounding never goes below the power of two that a quotient starts with.** -/
theorem two_pow_log2_le_nearestUnits {n den : Nat} (h : n / den ≠ 0) :
    2 ^ (n / den).log2 ≤ Magnitude.nearestUnits n den := by
  have hexcess : Magnitude.excess n den ≤ (n / den).log2 := by
    rw [Magnitude.excess]
    omega
  have hround := le_roundHalfEven n (den * 2 ^ Magnitude.excess n den)
  rw [← Nat.div_div_eq_div_mul] at hround
  rw [Magnitude.nearestUnits]
  generalize Magnitude.excess n den = s at *
  -- the grid divides the power of two, so the part of it below the quotient is on the grid
  have hgrid : 2 ^ ((n / den).log2 - s) ≤ n / den / 2 ^ s := by
    rw [Nat.le_div_iff_mul_le (Nat.two_pow_pos s), ← Nat.pow_add, Nat.sub_add_cancel hexcess]
    exact Nat.log2_self_le h
  calc 2 ^ (n / den).log2
      = 2 ^ ((n / den).log2 - s) * 2 ^ s := by rw [← Nat.pow_add, Nat.sub_add_cancel hexcess]
    _ ≤ n / den / 2 ^ s * 2 ^ s := Nat.mul_le_mul_right _ hgrid
    _ ≤ roundHalfEven n (den * 2 ^ s) * 2 ^ s := Nat.mul_le_mul_right _ hround

theorem two_pow_le_nearestUnits {n k : Nat} (h : 2 ^ k ≤ n) :
    2 ^ k ≤ Magnitude.nearestUnits n 1 := by
  have hne : n ≠ 0 := by
    have := Nat.two_pow_pos k
    omega
  have hlog : k ≤ n.log2 := (Nat.le_log2 hne).mpr h
  have hpow := @two_pow_log2_le_nearestUnits n 1
  rw [Nat.div_one] at hpow
  exact Nat.le_trans (Nat.pow_le_pow_right (by decide) hlog) (hpow hne)

/-! ## 2. Small integers -/

section

variable {n : Int}

/-- A whole number of ones is a count that the format holds if it has at most 53 bits, zeros at the
end apart. -/
theorem exists_units_eq {j s : Nat} (hj : j < 2 ^ 53) (hs : j * 2 ^ s ≤ 2 ^ 67) :
    ∃ m : Magnitude, m.units = j * 2 ^ s * unitsPerOne := by
  have hbound : j * 2 ^ s * unitsPerOne < rangeUnits :=
    Nat.lt_of_le_of_lt (Nat.mul_le_mul_right unitsPerOne hs) unitsPerOne_small
  refine ⟨⟨j * 2 ^ s * unitsPerOne, hbound, ?_⟩, rfl⟩
  obtain ⟨t, ht⟩ := exists_unitsPerOne_eq
  rw [ht, Nat.mul_assoc, ← Nat.pow_add]
  have hlog := Nat.sub_le_iff_le_add'.mpr (Magnitude.log2_mul_two_pow_le (s := s + t) hj)
  exact Nat.dvd_trans (Nat.pow_dvd_pow 2 hlog) (Nat.dvd_mul_left _ _)

/-- An integer whose count of units the format holds is a number of the format. -/
theorem ofInt_of_units {m : Magnitude} (h : m.units = n.natAbs * unitsPerOne) :
    ofInt n = .finite (n < 0) m := by
  have hnear := Magnitude.nearest?_units m 1 (by decide)
  rw [Nat.mul_one, h] at hnear
  rw [ofInt, Magnitude.ofNat?, hnear]
  rfl

/-- **A small integer is a number of the format.** -/
theorem ofInt_of_small (h : n.natAbs < 2 ^ 53) :
    ∃ m : Magnitude, m.units = n.natAbs * unitsPerOne ∧ ofInt n = .finite (n < 0) m := by
  obtain ⟨m, hm⟩ := @exists_units_eq n.natAbs 0 h (by omega)
  rw [Nat.pow_zero, Nat.mul_one] at hm
  exact ⟨m, hm, ofInt_of_units hm⟩

theorem signed_mul (negative : Bool) (a b : Nat) :
    signed negative (a * b) = signed negative a * b := by
  cases negative with
  | false => exact Int.natCast_mul a b
  | true => rw [signed, signed, if_pos rfl, if_pos rfl, Int.natCast_mul, Int.neg_mul]

/-- A number that is an integer is where the integer is on the line. -/
theorem rank?_finite_of_units {m : Magnitude} (h : m.units = n.natAbs * unitsPerOne) :
    (finite (n < 0) m).rank? = some (n * unitsPerOne) := by
  rw [rank?, h, signed_mul, signed_natAbs]

/-- **A small integer keeps its place on the line.** -/
theorem rank?_ofInt_of_small (h : n.natAbs < 2 ^ 53) :
    (ofInt n).rank? = some (n * unitsPerOne) := by
  obtain ⟨m, hm, hofInt⟩ := ofInt_of_small h
  rw [hofInt, rank?_finite_of_units hm]

/-- **A small integer is found again** in the number that it becomes. -/
theorem smallWhole?_ofInt (h : n.natAbs < 2 ^ 53) : (ofInt n).smallWhole? = some n := by
  obtain ⟨m, hm, hofInt⟩ := ofInt_of_small h
  have hwhole : m.isWhole = true := by
    simp [Magnitude.isWhole, hm]
  have hones : m.ones = n.natAbs := by
    rw [Magnitude.ones, hm, Nat.mul_div_cancel _ unitsPerOne_pos]
  rw [hofInt, smallWhole?, hwhole, hones, signed_natAbs, decide_eq_true h]
  rfl

/-! ## 3. Small integers among all integers -/

/-- **A large integer stays large,** whatever it is rounded to. -/
theorem rank?_ofInt_of_large (h : 2 ^ 53 ≤ n.natAbs) :
    ∃ r : Nat, 2 ^ 53 * unitsPerOne ≤ r ∧ (ofInt n).rank? = some (signed (n < 0) r) := by
  have hunits : 2 ^ 53 * unitsPerOne ≤ n.natAbs * unitsPerOne := Nat.mul_le_mul_right _ h
  rw [ofInt, Magnitude.ofNat?]
  cases hnear : Magnitude.nearest? (n.natAbs * unitsPerOne) 1 with
  | none =>
    have := unitsPerOne_small
    exact ⟨rangeUnits, by omega, rfl⟩
  | some m =>
    refine ⟨m.units, ?_, rfl⟩
    have hm : Magnitude.nearestUnits (n.natAbs * unitsPerOne) 1 = m.units := by
      unfold Magnitude.nearest? at hnear
      split at hnear
      · cases hnear
        rfl
      · cases hnear
    rw [two_pow_mul_unitsPerOne] at hunits ⊢
    rw [← hm]
    exact @two_pow_le_nearestUnits _ 1127 hunits

/-- Integers are ordered as their multiples are. -/
theorem compare_mul_pos {a b c : Int} (hc : 0 < c) :
    compare (a * c) (b * c) = compare a b := by
  rw [← cmp_eq_compare, ← cmp_eq_compare, cmp_mul_pos_right hc]

/-- **A small integer is compared with any other** as the numbers that they become. -/
theorem compare?_ofInt {a b : Int} (hb : b.natAbs < 2 ^ 53) :
    (ofInt b).compare? (ofInt a) = some (compare b a) := by
  have hunits : (0 : Int) < unitsPerOne := Int.natCast_pos.mpr unitsPerOne_pos
  rw [compare?, rank?_ofInt_of_small hb]
  rcases Nat.lt_or_ge a.natAbs (2 ^ 53) with ha | ha
  · rw [rank?_ofInt_of_small ha]
    exact congrArg some (compare_mul_pos hunits)
  · obtain ⟨r, hr, hrank⟩ := rank?_ofInt_of_large ha
    rw [hrank]
    refine congrArg some ?_
    have hr : (2 ^ 53 * unitsPerOne : Int) ≤ r := by exact_mod_cast hr
    have hlow : -(2 ^ 53 * unitsPerOne : Int) < b * unitsPerOne := by
      rw [← Int.neg_mul]
      exact Int.mul_lt_mul_of_pos_right (by omega) hunits
    have hhigh : b * unitsPerOne < (2 ^ 53 * unitsPerOne : Int) :=
      Int.mul_lt_mul_of_pos_right (by omega) hunits
    by_cases hneg : a < 0
    · rw [Int.compare_eq_gt.mpr (by omega : a < b), Int.compare_eq_gt]
      simp only [hneg, decide_true, signed, if_true]
      omega
    · rw [Int.compare_eq_lt.mpr (by omega : b < a), Int.compare_eq_lt]
      simp only [hneg, decide_false, signed, Bool.false_eq_true, if_false]
      omega

theorem equals_ofInt {a b : Int} (hb : b.natAbs < 2 ^ 53) :
    (ofInt a).equals (ofInt b) = (a == b) := by
  have hcompare := compare?_ofInt (a := a) hb
  rw [Bool.eq_iff_iff, equals_iff, beq_iff_eq, rank?_ofInt_of_small hb]
  rw [compare?, rank?_ofInt_of_small hb] at hcompare
  cases hrank : (ofInt a).rank? with
  | none =>
    rw [hrank] at hcompare
    cases hcompare
  | some r =>
    rw [hrank] at hcompare
    have horder : compare (b * unitsPerOne : Int) r = compare b a := Option.some.inj hcompare
    constructor
    · rintro ⟨s, hr, hs⟩
      obtain rfl := Option.some.inj hr
      obtain rfl := Option.some.inj hs
      rw [Int.compare_eq_eq.mpr rfl] at horder
      exact (Int.compare_eq_eq.mp horder.symm).symm
    · rintro rfl
      rw [Int.compare_eq_eq.mpr (rfl : a = a), Int.compare_eq_eq] at horder
      exact ⟨r, rfl, by rw [horder]⟩

/-! ## 4. Integers of 64 bits -/

/-- A whole number of ones that the format holds has at most 53 bits, zeros at the end apart. -/
theorem two_pow_dvd_of_units {m : Magnitude} {k s : Nat} (h : m.units = k * unitsPerOne)
    (hk : 2 ^ (s + 52) ≤ k) : 2 ^ s ∣ k := by
  obtain ⟨t, ht⟩ := exists_unitsPerOne_eq
  rw [ht] at h
  have hle : 2 ^ (s + t + 52) ≤ m.units := by
    rw [h, Nat.add_right_comm, Nat.pow_add 2 (s + 52)]
    exact Nat.mul_le_mul_right _ hk
  have hne : m.units ≠ 0 := Nat.ne_of_gt (Nat.lt_of_lt_of_le (Nat.two_pow_pos _) hle)
  have hlog : s + t ≤ m.units.log2 - 52 := Nat.le_sub_of_add_le ((Nat.le_log2 hne).mpr hle)
  have hdvd : 2 ^ s * 2 ^ t ∣ k * 2 ^ t := by
    rw [← Nat.pow_add, ← h]
    exact Nat.dvd_trans (Nat.pow_dvd_pow 2 hlog) m.aligned
  exact Nat.dvd_of_mul_dvd_mul_right (Nat.two_pow_pos t) hdvd

/-- **An integer that takes all of 64 bits keeps its place on the line** just if it ends in eleven
zeros, since the format has 53 bits. -/
theorem rank?_ofInt_iff (hlow : 2 ^ 63 ≤ n.natAbs) (hhigh : n.natAbs < 2 ^ 64) :
    (ofInt n).rank? = some (n * unitsPerOne) ↔ 2 ^ 11 ∣ n.natAbs := by
  constructor
  · intro hrank
    rw [ofInt, Magnitude.ofNat?] at hrank
    cases hnear : Magnitude.nearest? (n.natAbs * unitsPerOne) 1 with
    | none =>
      rw [hnear] at hrank
      have hunits := congrArg Int.natAbs (Option.some.inj hrank)
      rw [natAbs_signed, Int.natAbs_mul, Int.natAbs_natCast] at hunits
      have hle := Nat.mul_le_mul_right unitsPerOne (Nat.le_of_lt hhigh)
      have := unitsPerOne_small
      omega
    | some m =>
      rw [hnear] at hrank
      have hunits := congrArg Int.natAbs (Option.some.inj hrank)
      rw [natAbs_signed, Int.natAbs_mul, Int.natAbs_natCast] at hunits
      exact two_pow_dvd_of_units hunits hlow
  · rintro ⟨j, hj⟩
    obtain ⟨m, hm⟩ := @exists_units_eq j 11 (by omega) (by omega)
    rw [Nat.mul_comm j, ← hj] at hm
    rw [ofInt_of_units hm, rank?_finite_of_units hm]

end

end JsonSieve.Binary64
