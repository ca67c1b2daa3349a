/-
# Rounding to binary64

The number of the double format nearest to a given quotient of whole numbers, and with it the
numbers written by a decimal and by an integer.  Halfway cases go to the even neighbour.

The quotient is rounded on the grid that its size allows: with `q` its whole part, the grid is the
whole numbers while `q` has at most 53 bits, and the multiples of `2ˢ` when it has `53 + s`.  A
count found this way is always one that the format holds (`aligned_nearest`), so what remains to
test is the upper bound alone.
-/
import JsonSieve.Binary64.Basic

namespace JsonSieve

/-! ## 1. One quotient, one grid -/

/-- The whole number nearest to `num / den`, the even one of two that are equally near. -/
def roundHalfEven (num den : Nat) : Nat :=
  let q := num / den
  let r := num % den
  if 2 * r < den then q else if den < 2 * r then q + 1 else if q % 2 = 0 then q else q + 1

theorem roundHalfEven_le (num den : Nat) : roundHalfEven num den ≤ num / den + 1 := by
  simp only [roundHalfEven]
  repeat' split
  all_goals omega

theorem le_roundHalfEven (num den : Nat) : num / den ≤ roundHalfEven num den := by
  simp only [roundHalfEven]
  repeat' split
  all_goals omega

/-- **Rounding depends on the quotient alone.** -/
theorem roundHalfEven_scale (num den k : Nat) (hk : 0 < k) :
    roundHalfEven (k * num) (k * den) = roundHalfEven num den := by
  have h1 : ∀ a b, k * a < k * b ↔ a < b := fun a b => Nat.mul_lt_mul_left hk
  have e : 2 * (k * (num % den)) = k * (2 * (num % den)) := by
    rw [← Nat.mul_assoc, ← Nat.mul_assoc, Nat.mul_comm 2 k]
  simp only [roundHalfEven, Nat.mul_div_mul_left _ _ hk, Nat.mul_mod_mul_left, e, h1]

/-- A whole number is its own nearest whole number. -/
theorem roundHalfEven_mul (n den : Nat) (hd : 0 < den) : roundHalfEven (n * den) den = n := by
  simp [roundHalfEven, Nat.mul_div_cancel _ hd, Nat.mul_mod_left, hd]

namespace Magnitude

/-! ## 2. The nearest count -/

/-- The number of bits by which the whole part of `num / den` exceeds 53. -/
def excess (num den : Nat) : Nat := (num / den).log2 - 52

/-- The count nearest to `num / den`, before the upper bound is looked at. -/
def nearestUnits (num den : Nat) : Nat :=
  roundHalfEven num (den * 2 ^ excess num den) * 2 ^ excess num den

/-- The whole part on the coarser grid has at most 53 bits. -/
theorem div_excess_lt (num den : Nat) : num / (den * 2 ^ excess num den) < 2 ^ 53 := by
  rw [← Nat.div_div_eq_div_mul, Nat.div_lt_iff_lt_mul (Nat.two_pow_pos _), ← Nat.pow_add]
  refine Nat.lt_of_lt_of_le Nat.lt_log2_self (Nat.pow_le_pow_right (by decide) ?_)
  unfold excess; omega

theorem log2_mul_two_pow_le {q s : Nat} (h : q < 2 ^ 53) : (q * 2 ^ s).log2 ≤ 52 + s := by
  by_cases h0 : q * 2 ^ s = 0
  · simp [h0]
  · have hlt : q * 2 ^ s < 2 ^ (53 + s) := by
      rw [Nat.pow_add]; exact Nat.mul_lt_mul_of_pos_right h (Nat.two_pow_pos s)
    have := (Nat.log2_lt h0).mpr hlt
    omega

/-- **Rounding lands on a count the format holds,** also when it carries into one bit more. -/
theorem aligned_nearest (num den : Nat) :
    2 ^ ((nearestUnits num den).log2 - 52) ∣ nearestUnits num den := by
  generalize hs : excess num den = s
  have hle := roundHalfEven_le num (den * 2 ^ s)
  have hlt := div_excess_lt num den
  rw [hs] at hlt
  simp only [nearestUnits, hs]
  generalize roundHalfEven num (den * 2 ^ s) = q at *
  rcases Nat.lt_or_ge q (2 ^ 53) with hq | hq
  · have := log2_mul_two_pow_le (s := s) hq
    exact Nat.dvd_trans (Nat.pow_dvd_pow 2 (by omega)) (Nat.dvd_mul_left _ _)
  · have hq : q = 2 ^ 53 := by omega
    rw [hq, ← Nat.pow_add, Nat.log2_two_pow]
    exact Nat.pow_dvd_pow 2 (by omega)

/-- The count nearest to `num / den`, unless it is out of range. -/
def nearest? (num den : Nat) : Option Magnitude :=
  if h : nearestUnits num den < rangeUnits then some ⟨_, h, aligned_nearest num den⟩ else none

theorem nearestUnits_scale (num den k : Nat) (hk : 0 < k) :
    nearestUnits (k * num) (k * den) = nearestUnits num den := by
  simp only [nearestUnits, excess, Nat.mul_div_mul_left _ _ hk, Nat.mul_assoc,
    roundHalfEven_scale _ _ _ hk]

/-- **The nearest count depends on the quotient alone.** -/
theorem nearest?_scale (num den k : Nat) (hk : 0 < k) :
    nearest? (k * num) (k * den) = nearest? num den := by
  simp only [nearest?, nearestUnits_scale _ _ _ hk]

/-- **A count that the format holds is its own nearest count.** -/
theorem nearest?_units (m : Magnitude) (den : Nat) (hd : 0 < den) :
    nearest? (m.units * den) den = some m := by
  have hu : nearestUnits (m.units * den) den = m.units := by
    have hq : m.units * den / den = m.units := Nat.mul_div_cancel _ hd
    obtain ⟨k, hk⟩ := m.aligned
    have he : excess (m.units * den) den = m.units.log2 - 52 := by rw [excess, hq]
    simp only [nearestUnits, he]
    generalize m.units.log2 - 52 = s at hk
    have hp : 0 < den * 2 ^ s := Nat.mul_pos hd (Nat.two_pow_pos s)
    have e : m.units * den = k * (den * 2 ^ s) := by
      rw [hk, Nat.mul_comm (2 ^ s) k, Nat.mul_assoc, Nat.mul_comm (2 ^ s) den]
    rw [e, roundHalfEven_mul k _ hp, Nat.mul_comm, ← hk]
  have hb : nearestUnits (m.units * den) den < rangeUnits := by rw [hu]; exact m.bounded
  simp only [nearest?, hb, dif_pos, Option.some.injEq]
  exact ext_units hu

/-- The count nearest to a whole number of ones. -/
def ofNat? (n : Nat) : Option Magnitude := nearest? (n * unitsPerOne) 1

/-- The product of two counts, rounded. -/
def times? (a b : Magnitude) : Option Magnitude := nearest? (a.units * b.units) unitsPerOne

/-- The quotient of two counts, rounded. -/
def over? (a b : Magnitude) : Option Magnitude := nearest? (a.units * unitsPerOne) b.units

end Magnitude

/-! ## 3. Decimals -/

/-- The number `digits · 10 ^ exponent`. -/
structure Decimal where
  digits : Nat
  exponent : Int
deriving DecidableEq, Repr

/-- How many digits a positive number has in base ten. -/
def digitCount (n : Nat) : Nat := (Nat.toDigits 10 n).length

namespace Decimal

/-- The power of ten just above a nonzero decimal. -/
def order (d : Decimal) : Int := d.exponent + digitCount d.digits

/-- The counts of units nearest to a decimal.  The first two cases settle what is far out of range
without working out the power of ten. -/
def magnitude? (d : Decimal) : Option Magnitude :=
  if d.digits = 0 then some .zero
  else if 310 < d.order then none
  else if d.order < -330 then some .zero
  else match d.exponent with
    | .ofNat e => Magnitude.nearest? (d.digits * 10 ^ e * unitsPerOne) 1
    | .negSucc e => Magnitude.nearest? (d.digits * unitsPerOne) (10 ^ (e + 1))

end Decimal

namespace Binary64

/-- The number nearest to a decimal, with the sign that is asked for. -/
def ofDecimal (negative : Bool) (d : Decimal) : Binary64 := .ofMagnitude? negative d.magnitude?

/-- The number nearest to an integer. -/
def ofInt (n : Int) : Binary64 :=
  .ofMagnitude? (n < 0) (Magnitude.ofNat? n.natAbs)

end Binary64
end JsonSieve
