/-
# Rounding keeps the order

Rounding an integer to the double format never changes the order between integers, though it may
level them (`rounded_mono`), and it leaves every number of the format where it is
(`rounded_of_rank?`).  So no number of the format is passed: what is on one side of it stays on that
side or moves onto it (`le_rounded`, `rounded_le`).

Quotients that start with the same power of two are rounded on one grid, where rounding is monotone
because it is to the nearest whole number.  Quotients that start with different powers are kept
apart by the larger of the two.
-/
import JsonSieve.Proofs.Binary64.Integers

namespace JsonSieve

/-! ## 1. Counts -/

/-- Quotients of one denominator are rounded to whole numbers in their order. -/
theorem roundHalfEven_mono {n m den : Nat} (h : n ≤ m) :
    roundHalfEven n den ≤ roundHalfEven m den := by
  rcases Nat.lt_or_ge (n / den) (m / den) with hlt | hge
  · have hn := roundHalfEven_le n den
    have hm := le_roundHalfEven m den
    omega
  · have hdiv : n / den = m / den := Nat.le_antisymm (Nat.div_le_div_right h) hge
    have hmod : n % den ≤ m % den := by
      have hn := Nat.div_add_mod n den
      have hm := Nat.div_add_mod m den
      rw [hdiv] at hn
      omega
    simp only [roundHalfEven, hdiv]
    repeat' split
    all_goals omega

namespace Magnitude

/-- Rounding never goes above the next power of two. -/
theorem nearestUnits_le_two_pow (n den : Nat) :
    nearestUnits n den ≤ 2 ^ ((n / den).log2 + 1) := by
  by_cases hsmall : (n / den).log2 < 52
  · have hexcess : excess n den = 0 := by
      rw [excess]
      omega
    have hround := roundHalfEven_le n den
    have hlt := @Nat.lt_log2_self (n / den)
    rw [nearestUnits, hexcess, Nat.pow_zero, Nat.mul_one, Nat.mul_one]
    omega
  · have hexcess : (n / den).log2 + 1 = 53 + excess n den := by
      rw [excess]
      omega
    have hround := roundHalfEven_le n (den * 2 ^ excess n den)
    have hlt := div_excess_lt n den
    rw [nearestUnits, hexcess, Nat.pow_add]
    exact Nat.mul_le_mul_right _ (by omega)

/-- **Quotients of one denominator are rounded in their order.** -/
theorem nearestUnits_mono {n m : Nat} (h : n ≤ m) (den : Nat) :
    nearestUnits n den ≤ nearestUnits m den := by
  have hdiv : n / den ≤ m / den := Nat.div_le_div_right h
  by_cases hlog : (n / den).log2 = (m / den).log2
  · have hexcess : excess n den = excess m den := by
      rw [excess, excess, hlog]
    rw [nearestUnits, nearestUnits, hexcess]
    exact Nat.mul_le_mul_right _ (roundHalfEven_mono h)
  · have hm : m / den ≠ 0 := by
      intro hm
      rw [hm] at hlog hdiv
      exact hlog (congrArg Nat.log2 (Nat.le_zero.mp hdiv))
    have hlt : n / den < 2 ^ ((m / den).log2 + 1) := Nat.lt_of_le_of_lt hdiv Nat.lt_log2_self
    have hlog : (n / den).log2 + 1 ≤ (m / den).log2 := by
      by_cases hn : n / den = 0
      · rw [hn] at hlog ⊢
        exact Nat.pos_of_ne_zero (Ne.symm hlog)
      · have := (Nat.log2_lt hn).mpr hlt
        omega
    calc nearestUnits n den
        ≤ 2 ^ ((n / den).log2 + 1) := nearestUnits_le_two_pow n den
      _ ≤ 2 ^ (m / den).log2 := Nat.pow_le_pow_right (by decide) hlog
      _ ≤ nearestUnits m den := Binary64.two_pow_log2_le_nearestUnits hm

/-- The count that a count is rounded to, or the first one that is out of range. -/
def closest (n : Nat) : Nat := min (nearestUnits n 1) rangeUnits

theorem closest_mono {n m : Nat} (h : n ≤ m) : closest n ≤ closest m := by
  have hunits := nearestUnits_mono h 1
  rw [closest, closest]
  omega

/-- A count of the format stays as it is. -/
theorem closest_units (m : Magnitude) : closest m.units = m.units := by
  have hnear := nearest?_units m 1 (by decide)
  rw [Nat.mul_one, nearest?] at hnear
  split at hnear
  · have hunits : nearestUnits m.units 1 = m.units :=
      congrArg Magnitude.units (Option.some.inj hnear)
    rw [closest, hunits]
    exact Nat.min_eq_left (Nat.le_of_lt m.bounded)
  · cases hnear

theorem exists_rangeUnits_eq : ∃ t, rangeUnits = 2 ^ t := ⟨2098, by decide +kernel⟩

/-- The first count that is out of range stays as it is. -/
theorem closest_rangeUnits : closest rangeUnits = rangeUnits := by
  obtain ⟨t, ht⟩ := exists_rangeUnits_eq
  rw [closest, ht]
  exact Nat.min_eq_right (Binary64.two_pow_le_nearestUnits (Nat.le_refl _))

/-- The nearest count is the closest one, if it is in range. -/
theorem ofMagnitude?_nearest? (negative : Bool) (n : Nat) :
    (Binary64.ofMagnitude? negative (nearest? n 1)).rank? =
      some (Binary64.signed negative (closest n)) := by
  rw [nearest?, closest]
  split
  · next h => rw [Nat.min_eq_left (Nat.le_of_lt h)]; rfl
  · next h => rw [Nat.min_eq_right (Nat.le_of_not_lt h)]; rfl

end Magnitude

/-! ## 2. Places on the line -/

namespace Binary64

/-- The place that a place on the line is rounded to. -/
def rounded (i : Int) : Int := signed (i < 0) (Magnitude.closest i.natAbs)

/-- **An integer becomes the number** that its place is rounded to. -/
theorem rank?_ofInt (n : Int) : (ofInt n).rank? = some (rounded (n * unitsPerOne)) := by
  have hpos : (0 : Int) < unitsPerOne := Int.natCast_pos.mpr unitsPerOne_pos
  have hsign : n * unitsPerOne < 0 ↔ n < 0 := by
    have hiff := @Int.mul_lt_mul_right unitsPerOne n 0 hpos
    rwa [Int.zero_mul] at hiff
  rw [ofInt, Magnitude.ofNat?, Magnitude.ofMagnitude?_nearest?, rounded,
    decide_eq_decide.mpr hsign, Int.natAbs_mul, Int.natAbs_natCast]

/-- **Places are rounded in their order.** -/
theorem rounded_mono {i j : Int} (h : i ≤ j) : rounded i ≤ rounded j := by
  by_cases hi : i < 0
  · by_cases hj : j < 0
    · have hclosest := Magnitude.closest_mono (show j.natAbs ≤ i.natAbs by omega)
      simp only [rounded, signed, hi, hj, decide_true, if_true]
      omega
    · simp only [rounded, signed, hi, hj, decide_true, decide_false, if_true, Bool.false_eq_true,
        if_false]
      omega
  · have hclosest := Magnitude.closest_mono (show i.natAbs ≤ j.natAbs by omega)
    have hj : ¬ j < 0 := by omega
    simp only [rounded, signed, hi, hj, decide_false, Bool.false_eq_true, if_false]
    omega

theorem rounded_signed {negative : Bool} {n : Nat} (h : Magnitude.closest n = n) :
    rounded (signed negative n) = signed negative n := by
  rw [rounded, natAbs_signed, h]
  cases negative with
  | false => rw [signed, signed, if_neg Bool.false_ne_true, if_neg (by simp)]
  | true =>
    by_cases hn : n = 0
    · subst hn
      rfl
    · rw [signed, signed, if_pos rfl, if_pos (by simp; omega)]

/-- **The place of a number stays as it is.** -/
theorem rounded_of_rank? {x : Binary64} {r : Int} (h : x.rank? = some r) : rounded r = r := by
  cases x with
  | nan => cases h
  | infinite negative =>
    obtain rfl := Option.some.inj h
    exact rounded_signed Magnitude.closest_rangeUnits
  | finite negative m =>
    obtain rfl := Option.some.inj h
    exact rounded_signed m.closest_units

section

variable {x : Binary64} {r i : Int} (h : x.rank? = some r)
include h

/-- **Rounding does not go below a number of the format.** -/
theorem le_rounded (hle : r ≤ i) : r ≤ rounded i := by
  rw [← rounded_of_rank? h]
  exact rounded_mono hle

/-- **Rounding does not go above a number of the format.** -/
theorem rounded_le (hle : i ≤ r) : rounded i ≤ r := by
  rw [← rounded_of_rank? h]
  exact rounded_mono hle

end

theorem unitsPerOne_dvd_rangeUnits : unitsPerOne ∣ rangeUnits := by decide +kernel

/-- A large count is rounded to a whole number of ones. -/
theorem unitsPerOne_dvd_closest {n : Nat} (h : 2 ^ 53 * unitsPerOne ≤ n) :
    unitsPerOne ∣ Magnitude.closest n := by
  obtain ⟨t, ht⟩ := exists_unitsPerOne_eq
  rw [ht, ← Nat.pow_add] at h
  have hle := two_pow_le_nearestUnits h
  have hne : Magnitude.nearestUnits n 1 ≠ 0 :=
    Nat.ne_of_gt (Nat.lt_of_lt_of_le (Nat.two_pow_pos _) hle)
  have hlog : t ≤ (Magnitude.nearestUnits n 1).log2 - 52 := by
    have := (Nat.le_log2 hne).mpr hle
    omega
  rw [Magnitude.closest]
  rcases Nat.le_total (Magnitude.nearestUnits n 1) rangeUnits with hmin | hmin
  · rw [Nat.min_eq_left hmin, ht]
    exact Nat.dvd_trans (Nat.pow_dvd_pow 2 hlog) (Magnitude.aligned_nearest n 1)
  · rw [Nat.min_eq_right hmin]
    exact unitsPerOne_dvd_rangeUnits

/-- **An integer is rounded to an integer.** -/
theorem exists_rounded_eq (n : Int) : ∃ m : Int, rounded (n * unitsPerOne) = m * unitsPerOne := by
  rcases Nat.lt_or_ge n.natAbs (2 ^ 53) with hsmall | hlarge
  · have hrank := rank?_ofInt_of_small hsmall
    rw [rank?_ofInt] at hrank
    exact ⟨n, Option.some.inj hrank⟩
  · obtain ⟨m, hm⟩ := unitsPerOne_dvd_closest (Nat.mul_le_mul_right unitsPerOne hlarge)
    refine ⟨signed (n * unitsPerOne < 0) m, ?_⟩
    rw [rounded, Int.natAbs_mul, Int.natAbs_natCast, hm, Nat.mul_comm, signed_mul]

end Binary64

end JsonSieve
