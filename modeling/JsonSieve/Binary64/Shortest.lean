/-
# The shortest decimal that reads back

Which digits stand for a number of the double format: the fewest that are rounded back to it, and of
the decimals with that many digits the one nearest to the number.

Every count of units is a decimal in its own right (`exact`), so its neighbours on the grid of
decimals with `n` digits come from one division.  If any decimal on a grid is rounded to the count,
one of these two is.  The grids of 1, 2, … 17 digits are tried in turn, and the exact decimal stands
behind them, so that an answer always exists; `magnitude?_shortest` says that it reads back.

From the digits to text, two layouts are in use: `marked`, in which a number can always be told from
an integer by a point or an exponent, and `plain`, which writes every number out in full.  All that
tells them apart is one record, `Layout`.
-/
import JsonSieve.Binary64.Round

namespace JsonSieve

/-! ## 1. Decimals without trailing zeros -/

namespace Decimal

/-- The decimal with at most `fuel` trailing zeros of its digits moved into the exponent. -/
def strip : Nat → Decimal → Decimal
  | 0, d => d
  | fuel + 1, d => if d.digits % 10 = 0 then strip fuel ⟨d.digits / 10, d.exponent + 1⟩ else d

/-- The same number written without trailing zeros. -/
def trimZeros (d : Decimal) : Decimal :=
  if d.digits = 0 then ⟨0, 0⟩ else strip (digitCount d.digits) d

/-- The same number with one zero more at the end of its digits. -/
def pad (d : Decimal) : Decimal := ⟨d.digits * 10, d.exponent - 1⟩

theorem digitCount_mul_ten {n : Nat} (h : n ≠ 0) : digitCount (n * 10) = digitCount n + 1 := by
  unfold digitCount
  rw [Nat.toDigits_eq_if (by decide), if_neg (by omega)]
  simp

theorem order_pad {d : Decimal} (h : d.digits ≠ 0) : d.pad.order = d.order := by
  simp only [order, pad, digitCount_mul_ten h]; omega

/-- **A zero at the end of the digits changes nothing.** -/
theorem magnitude?_pad (d : Decimal) : d.pad.magnitude? = d.magnitude? := by
  by_cases h0 : d.digits = 0
  · simp [magnitude?, pad, h0]
  have h1 : d.pad.digits ≠ 0 := by simp only [pad]; omega
  unfold magnitude?
  rw [if_neg h0, if_neg h1, order_pad h0]
  split
  · rfl
  · split
    · rfl
    · obtain ⟨digits, exponent⟩ := d
      cases exponent with
      | ofNat e =>
        cases e with
        | zero =>
          have : (Int.ofNat 0 - 1) = Int.negSucc 0 := rfl
          simp only [pad, this]
          rw [← Magnitude.nearest?_scale (digits * 10 ^ 0 * unitsPerOne) 1 10 (by decide)]
          congr 1
          simp only [Nat.pow_zero, Nat.mul_one, Nat.mul_comm digits 10, Nat.mul_assoc]
        | succ e =>
          have : (Int.ofNat (e + 1) - 1) = Int.ofNat e := by simp
          simp only [pad, this]
          congr 1
          rw [Nat.mul_assoc digits, ← Nat.pow_succ']
      | negSucc e =>
        have : (Int.negSucc e - 1) = Int.negSucc (e + 1) := rfl
        simp only [pad, this]
        rw [← Magnitude.nearest?_scale (digits * unitsPerOne) (10 ^ (e + 1)) 10 (by decide)]
        congr 1
        · rw [Nat.mul_comm digits 10, Nat.mul_assoc]
        · rw [← Nat.pow_succ']

theorem magnitude?_strip : ∀ (fuel : Nat) (d : Decimal), (strip fuel d).magnitude? = d.magnitude?
  | 0, _ => rfl
  | fuel + 1, d => by
    unfold strip
    split
    · rw [magnitude?_strip fuel, ← magnitude?_pad]
      congr 1
      obtain ⟨digits, exponent⟩ := d
      simp only [pad, mk.injEq]
      simp only at *
      omega
    · rfl

theorem magnitude?_trimZeros (d : Decimal) : d.trimZeros.magnitude? = d.magnitude? := by
  unfold trimZeros
  split
  · next h => simp [magnitude?, h]
  · exact magnitude?_strip _ _

end Decimal

/-! ## 2. The neighbours on a grid, and the first that reads back -/

namespace Magnitude

/-- What a unit is worth in units of `10⁻¹⁰⁷⁴`. -/
@[irreducible] def unitDigits : Nat := 5 ^ 1074

/-- The count as a decimal, digit for digit. -/
def exact (m : Magnitude) : Decimal := ⟨m.units * unitDigits, -1074⟩

/-- The decimals just below and just above the count on the grid that drops so many of its digits,
the nearer one first; of two equally near ones the upper one comes first. -/
def neighbours (m : Magnitude) (dropped : Nat) : List Decimal :=
  let step := 10 ^ dropped
  let low := m.exact.digits / step
  let left := m.exact.digits % step
  let onGrid (digits : Nat) : Decimal := ⟨digits, m.exact.exponent + dropped⟩
  if 2 * left < step then [onGrid low, onGrid (low + 1)] else [onGrid (low + 1), onGrid low]

/-- Whether a decimal is rounded to the count. -/
def readBackFrom (m : Magnitude) (d : Decimal) : Bool := d.magnitude? == some m

/-- The decimal of fewest digits, up to seventeen, that is rounded to the count. -/
def brief? (m : Magnitude) : Option Decimal :=
  let size := digitCount m.exact.digits
  (List.range 17).findSome? fun n => (m.neighbours (size - (n + 1))).find? m.readBackFrom

theorem readBackFrom_of_brief? {m : Magnitude} {d : Decimal} (h : m.brief? = some d) :
    m.readBackFrom d = true := by
  obtain ⟨n, _, hn⟩ := List.exists_of_findSome?_eq_some h
  exact List.find?_some hn

/-- The decimal that stands for the count: the shortest one, or failing that the exact one. -/
def shortest (m : Magnitude) : Decimal := (m.brief?.getD m.exact).trimZeros

/-! ## 3. The answer reads back -/

theorem digitCount_le_iff {n k : Nat} (hk : 0 < k) : digitCount n ≤ k ↔ n < 10 ^ k :=
  Nat.length_toDigits_le_iff (by decide) hk

theorem unitDigits_large : 10 ^ 750 ≤ unitDigits := by decide +kernel

theorem range_digits_small : rangeUnits * unitDigits < 10 ^ 1384 := by decide +kernel

theorem unit_product : unitDigits * unitsPerOne = 10 ^ (1073 + 1) := by decide +kernel

theorem exact_mul_unitsPerOne (m : Magnitude) :
    m.exact.digits * unitsPerOne = m.units * 10 ^ (1073 + 1) :=
  (Nat.mul_assoc m.units unitDigits unitsPerOne).trans (congrArg (m.units * ·) unit_product)

/-- The guards against numbers far out of range let every exact decimal through. -/
theorem order_exact (m : Magnitude) (h : m.units ≠ 0) :
    ¬ 310 < m.exact.order ∧ ¬ m.exact.order < -330 := by
  have hpos : 0 < m.units := Nat.pos_of_ne_zero h
  have hlow : ¬ digitCount m.exact.digits ≤ 750 := by
    rw [digitCount_le_iff (by decide)]
    have := Nat.mul_le_mul hpos unitDigits_large
    simp only [exact]
    omega
  have hhigh : digitCount m.exact.digits ≤ 1384 := by
    rw [digitCount_le_iff (by decide)]
    exact Nat.lt_of_le_of_lt (Nat.mul_le_mul_right _ (Nat.le_of_lt m.bounded)) range_digits_small
  simp only [Decimal.order]
  have he : m.exact.exponent = -1074 := rfl
  omega

/-- **The exact decimal is rounded to the count it was made from.** -/
theorem magnitude?_exact (m : Magnitude) : m.exact.magnitude? = some m := by
  by_cases h0 : m.units = 0
  · have hd : m.exact.digits = 0 := by simp [exact, h0]
    simp only [Decimal.magnitude?, hd, if_pos, Option.some.injEq]
    exact ext_units h0.symm
  · have hd : m.exact.digits ≠ 0 := by
      have : 0 < unitDigits := Nat.lt_of_lt_of_le (Nat.pow_pos (by decide)) unitDigits_large
      simp only [exact, ne_eq, Nat.mul_eq_zero]
      omega
    have ho := order_exact m h0
    have he : m.exact.exponent = Int.negSucc 1073 := rfl
    simp only [Decimal.magnitude?, if_neg hd, if_neg ho.1, if_neg ho.2, he,
      exact_mul_unitsPerOne]
    exact nearest?_units m _ (by decide +kernel)

/-- **What is written for a count reads back as that count.** -/
theorem magnitude?_shortest (m : Magnitude) : m.shortest.magnitude? = some m := by
  rw [shortest, Decimal.magnitude?_trimZeros]
  cases h : m.brief? with
  | none => exact magnitude?_exact m
  | some d => simpa [readBackFrom] using readBackFrom_of_brief? h

end Magnitude

/-! ## 4. Two layouts -/

/-- The decisions that turn digits into text. -/
structure Layout where
  /-- Which numbers are written without an exponent, by the power of ten just above them. -/
  positional : Int → Bool
  /-- What follows the last digit of a whole number that is written without an exponent. -/
  wholeEnd : List Char

namespace Layout

/-- Whole numbers end in `.0`; numbers from `10¹⁶` on and those below `10⁻⁴` have an exponent. -/
def marked : Layout := ⟨fun order => -3 ≤ order && order ≤ 16, ['.', '0']⟩

/-- No number has an exponent, and a whole number ends with its last digit. -/
def plain : Layout := ⟨fun _ => true, []⟩

/-! ## 5. Digits -/

/-- The decimal digits of a natural number. -/
def digits (n : Nat) : List Char := Nat.toDigits 10 n

/-- An integer in decimal. -/
def integer (n : Int) : List Char := if n < 0 then '-' :: digits n.natAbs else digits n.natAbs

/-- Digits with the decimal point in its place; `order` is the power of ten just above. -/
def spread (wholeEnd : List Char) (ds : List Char) (order : Int) : List Char :=
  if order ≤ 0 then '0' :: '.' :: (List.replicate (-order).toNat '0' ++ ds)
  else if ds.length ≤ order.toNat then
    ds ++ List.replicate (order.toNat - ds.length) '0' ++ wholeEnd
  else ds.take order.toNat ++ '.' :: ds.drop order.toNat

/-- Digits with a point after the first and the power of ten of that first digit behind them. -/
def scientific (ds : List Char) (order : Int) : List Char :=
  ds.take 1 ++ (if ds.length ≤ 1 then [] else '.' :: ds.drop 1) ++ 'e' :: integer (order - 1)

/-- The text of a decimal that has no trailing zeros. -/
def decimal (layout : Layout) (d : Decimal) : List Char :=
  if d.digits = 0 then '0' :: layout.wholeEnd
  else if layout.positional d.order then spread layout.wholeEnd (digits d.digits) d.order
  else scientific (digits d.digits) d.order

end Layout

/-! ## 6. Numbers -/

namespace Binary64

/-- The text of a number in a layout; a NaN has no sign, and an infinity has a word of its own. -/
def layOut (layout : Layout) : Binary64 → List Char
  | .nan => ['N', 'a', 'N']
  | .infinite negative => (if negative then ['-'] else []) ++ ['i', 'n', 'f']
  | .finite negative m => (if negative then ['-'] else []) ++ layout.decimal m.shortest

/-- The text that tells a number from an integer. -/
def markedText (x : Binary64) : String := String.ofList (x.layOut .marked)

/-- The text without exponents. -/
def plainText (x : Binary64) : String := String.ofList (x.layOut .plain)

end Binary64
end JsonSieve
