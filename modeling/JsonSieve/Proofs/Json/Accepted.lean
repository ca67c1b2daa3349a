/-
# Decimals in range

A reader may refuse a decimal as out of range that another one takes for the largest number of the
double format.  Rounding by parts refuses some of these: its errors add up, and the result may pass
the largest number although the decimal does not.  It refuses nothing else that is read by rounding
to the nearest (`exists_magnitude?_bestEffort`), and it accepts the decimal that is written for the
largest number.  So the text of every finite number is read (`acceptsWritten_bestEffort`).

The argument is one of monotony.  The digits that are gathered, and the power of ten they are scaled
with, make up no more than the decimal (`magnitude?_bestEffort_eq`).  A scaled word grows with the
word, so for each power of ten it is enough to look at the largest word that may stand before it.
-/
import JsonSieve.Proofs.Binary64.Rounding
import JsonSieve.Proofs.Json.Restored

namespace JsonSieve

open Json.Reader

/-! ## 1. The largest count -/

namespace Magnitude

/-- Half the distance of the largest counts. -/
@[irreducible] def halfStep : Nat := 2 ^ 2044

/-- The largest count of the format. -/
def top : Magnitude := ⟨(2 ^ 53 - 1) * (2 * halfStep), by decide +kernel, by decide +kernel⟩

/-- The middle between the largest count and the one below it, which is rounded to the latter. -/
def belowTop : Nat := (2 ^ 54 - 3) * halfStep

theorem exists_halfStep_eq : ∃ t, rangeUnits = 2 ^ (t + 1) ∧ 2 ^ (t - 52) = 2 * halfStep ∧
    rangeUnits = 2 ^ 53 * (2 * halfStep) ∧ 2 ^ t ≤ top.units := ⟨2097, by decide +kernel⟩

/-- **A count that is not below the largest one is the largest one.** -/
theorem eq_top {m : Magnitude} (h : top.units ≤ m.units) : m = top := by
  obtain ⟨t, hrange, hstep, hrangeStep, htop⟩ := exists_halfStep_eq
  have hpow : 2 ^ t ≤ m.units := Nat.le_trans htop h
  have hlog : m.units.log2 = t := by
    have hne : m.units ≠ 0 := by
      have := Nat.two_pow_pos t
      omega
    exact (Nat.log2_eq_iff hne).mpr ⟨hpow, hrange ▸ m.bounded⟩
  obtain ⟨q, hq⟩ := m.aligned
  rw [hlog, hstep] at hq
  have hlt := m.bounded
  have hunits : top.units = (2 * halfStep) * (2 ^ 53 - 1) := Nat.mul_comm ..
  refine ext_units ?_
  rw [hunits, hq] at h
  rw [hrangeStep, Nat.mul_comm, hq] at hlt
  rw [hunits, hq]
  have hpos : 0 < 2 * halfStep := by decide +kernel
  have hlow := Nat.le_of_mul_le_mul_left h hpos
  have hhigh := Nat.lt_of_mul_lt_mul_left hlt
  have hq : q = 2 ^ 53 - 1 := by omega
  rw [hq]

/-- The nearest count to a whole part is no more than that to the quotient. -/
theorem nearestUnits_div_le (num den : Nat) (hden : 0 < den) :
    nearestUnits (num / den) 1 ≤ nearestUnits num den := by
  have hscale := nearestUnits_scale (num / den) 1 den hden
  rw [Nat.mul_one] at hscale
  rw [← hscale]
  exact nearestUnits_mono (Nat.mul_div_le num den) den

/-- Above the middle every quotient is rounded to the largest count, or is out of range. -/
theorem div_le_belowTop {num den : Nat} (hden : 0 < den)
    (h : nearestUnits num den < top.units) : num / den ≤ belowTop := by
  by_cases hle : num / den ≤ belowTop
  · exact hle
  · have htop : nearestUnits (belowTop + 1) 1 = top.units := by decide +kernel
    have hmono := nearestUnits_mono (n := belowTop + 1) (m := num / den) (by omega) 1
    have hdiv := nearestUnits_div_le num den hden
    omega

theorem units_of_nearest? {num den : Nat} {m : Magnitude} (h : nearest? num den = some m) :
    nearestUnits num den = m.units := by
  rw [nearest?] at h
  split at h
  · exact congrArg Magnitude.units (Option.some.inj h)
  · cases h

theorem exists_nearest?_iff {num den : Nat} :
    (∃ m, nearest? num den = some m) ↔ nearestUnits num den < rangeUnits := by
  constructor
  · rintro ⟨m, hm⟩
    rw [units_of_nearest? hm]
    exact m.bounded
  · intro h
    exact ⟨_, dif_pos h⟩

/-- What is no more than a quotient in range is in range. -/
theorem exists_nearest?_of_le {n k den : Nat} (h : n ≤ k) (hk : ∃ m, nearest? k den = some m) :
    ∃ m, nearest? n den = some m :=
  exists_nearest?_iff.mpr
    (Nat.lt_of_le_of_lt (nearestUnits_mono h den) (exists_nearest?_iff.mp hk))

end Magnitude

/-! ## 2. Decimals below the largest count -/

namespace Decimal

open Magnitude (belowTop top)

/-- The whole part of a decimal, counted in units of the double format. -/
def wholeUnits (d : Decimal) : Nat :=
  match d.exponent with
  | .ofNat e => d.digits * 10 ^ e * unitsPerOne
  | .negSucc e => d.digits * unitsPerOne / 10 ^ (e + 1)

theorem wholeUnits_ofNat (digits e : Nat) :
    wholeUnits ⟨digits, .ofNat e⟩ = digits * 10 ^ e * unitsPerOne := rfl

theorem wholeUnits_negSucc (digits e : Nat) :
    wholeUnits ⟨digits, .negSucc e⟩ = digits * unitsPerOne / 10 ^ (e + 1) := rfl

theorem wholeUnits_of_zero {d : Decimal} (h : d.digits = 0) : d.wholeUnits = 0 := by
  obtain ⟨digits, e | e⟩ := d
  all_goals obtain rfl : digits = 0 := h
  · rw [wholeUnits_ofNat, Nat.zero_mul, Nat.zero_mul]
  · rw [wholeUnits_negSucc, Nat.zero_mul, Nat.zero_div]

/-- A decimal far below the range is less than one. -/
theorem wholeUnits_of_order {d : Decimal} (h : d.order < -330) : d.wholeUnits ≤ unitsPerOne := by
  obtain ⟨digits, e | e⟩ := d
  · simp only [order, Int.ofNat_eq_natCast] at h
    omega
  · simp only [order, Int.negSucc_eq] at h
    have hdigits : digits ≤ 10 ^ (e + 1) :=
      Nat.le_of_lt ((Magnitude.digitCount_le_iff (Nat.succ_pos e)).mp (by omega))
    rw [wholeUnits_negSucc]
    exact Nat.div_le_of_le_mul (Nat.mul_le_mul_right _ hdigits)

/-- **A decimal that is rounded to less than the largest count** is not above the middle before
it. -/
theorem wholeUnits_le {d : Decimal} {m : Magnitude} (h : d.magnitude? = some m)
    (hm : m.units < top.units) : d.wholeUnits ≤ belowTop := by
  unfold magnitude? at h
  split at h
  · next h0 =>
    rw [wholeUnits_of_zero h0]
    exact Nat.zero_le _
  split at h
  · cases h
  split at h
  · next hlow => exact Nat.le_trans (wholeUnits_of_order hlow) (by decide +kernel)
  obtain ⟨digits, e | e⟩ := d
  · have hdiv := Magnitude.div_le_belowTop Nat.one_pos ((Magnitude.units_of_nearest? h).trans_lt hm)
    rwa [Nat.div_one] at hdiv
  · exact Magnitude.div_le_belowTop (Nat.pow_pos (by decide))
      ((Magnitude.units_of_nearest? h).trans_lt hm)

/-- **Digits that open a decimal,** with the power of ten that is due, make up no more than it. -/
theorem mul_le_wholeUnits {d : Decimal} {n k e : Nat} (hn : n * 10 ^ k ≤ d.digits)
    (he : d.exponent + k = e) : n * 10 ^ e * unitsPerOne ≤ d.wholeUnits := by
  obtain ⟨digits, j | j⟩ := d
  · simp only [Int.ofNat_eq_natCast] at he
    have hsum : e = k + j := by omega
    rw [wholeUnits_ofNat, hsum, Nat.pow_add, ← Nat.mul_assoc]
    exact Nat.mul_le_mul_right _ (Nat.mul_le_mul_right _ hn)
  · simp only [Int.negSucc_eq] at he
    have hsum : k = e + (j + 1) := by omega
    rw [hsum, Nat.pow_add, ← Nat.mul_assoc] at hn
    rw [wholeUnits_negSucc, Nat.le_div_iff_mul_le (Nat.pow_pos (by decide)), Nat.mul_right_comm]
    exact Nat.mul_le_mul_right _ hn

end Decimal

namespace Rounding

/-! ## 3. The digits that are gathered -/

/-- **What is gathered** are digits that open the list, as many as fit: with the next one the number
would have more than 64 bits. -/
theorem exists_gather (n : Nat) (ds : List Char) (hn : n < 2 ^ 64) :
    ∃ taken, ds = taken ++ (gather n ds).2 ∧
      (gather n ds).1 = Nat.ofDigitChars 10 taken n ∧ (gather n ds).1 < 2 ^ 64 ∧
      ∀ c cs, (gather n ds).2 = c :: cs →
        2 ^ 64 ≤ 10 * (gather n ds).1 + (c.toNat - '0'.toNat) := by
  induction ds generalizing n with
  | nil => exact ⟨[], rfl, rfl, hn, nofun⟩
  | cons d ds ih =>
    rw [gather]
    by_cases hd : 10 * n + (d.toNat - '0'.toNat) < 2 ^ 64
    · obtain ⟨taken, hds, hvalue, hlt, hnext⟩ := ih _ hd
      rw [if_pos hd]
      refine ⟨d :: taken, by rw [List.cons_append, ← hds], ?_, hlt, hnext⟩
      rw [hvalue, Nat.ofDigitChars_cons]
    · rw [if_neg hd]
      refine ⟨[], rfl, rfl, hn, fun c cs h => ?_⟩
      cases h
      exact Nat.le_of_not_lt hd

section

variable {n : Nat} {c : Char} (hnext : 2 ^ 64 ≤ 10 * n + (c.toNat - '0'.toNat))
include hnext

/-- Once a digit did not fit, at most one digit more is gathered, and it is a smaller one. -/
theorem gathered_le_of_dropped {taken : List Char} (hlt : Nat.ofDigitChars 10 taken n < 2 ^ 64) :
    Nat.ofDigitChars 10 taken n * 10 ≤ (10 * n + (c.toNat - '0'.toNat)) * 10 ^ taken.length := by
  have hc : c.toNat < 2 ^ 32 := c.val.toNat_lt
  cases taken with
  | nil =>
    rw [Nat.ofDigitChars_nil, List.length_nil, Nat.pow_zero]
    omega
  | cons d taken =>
    rw [Nat.ofDigitChars_cons] at hlt ⊢
    cases taken with
    | nil =>
      rw [Nat.ofDigitChars_nil] at hlt ⊢
      rw [List.length_singleton, Nat.pow_one]
      omega
    | cons e taken =>
      rw [Nat.ofDigitChars_cons] at hlt
      have := le_ofDigitChars taken (10 * (10 * n + (d.toNat - '0'.toNat)) + (e.toNat - '0'.toNat))
      omega

end

/-- **The digits that are gathered,** with zeros for those that are not, make up no more than all
digits. -/
theorem gathered_le (whole fraction : List Char) :
    (gather (gather 0 whole).1 fraction).1 * 10 ^ ((gather 0 whole).2.length +
      (gather (gather 0 whole).1 fraction).2.length) ≤ digitsValue (whole ++ fraction) := by
  obtain ⟨opening, hwhole, hn, hlt, hnext⟩ := exists_gather 0 whole (by decide)
  obtain ⟨taken, hfraction, hm, hltm, -⟩ := exists_gather (gather 0 whole).1 fraction hlt
  generalize (gather 0 whole).2 = dropped at *
  generalize (gather (gather 0 whole).1 fraction).2 = ignored at *
  generalize (gather (gather 0 whole).1 fraction).1 = m at *
  generalize (gather 0 whole).1 = n at *
  have hdigits : digitsValue (whole ++ fraction) = Nat.ofDigitChars 10 (dropped ++ fraction) n := by
    rw [hn, hwhole, List.append_assoc, digitsValue, Nat.ofDigitChars_append]
  rw [hdigits]
  cases dropped with
  | nil =>
    rw [hfraction, List.nil_append, Nat.ofDigitChars_append, ← hm, List.length_nil, Nat.zero_add]
    exact mul_le_ofDigitChars ignored m
  | cons c cs =>
    have hle := gathered_le_of_dropped (hnext c cs rfl) (hm ▸ hltm)
    rw [← hm] at hle
    have hlength : (c :: cs).length + ignored.length = 1 + (cs.length + ignored.length) := by
      rw [List.length_cons]
      omega
    rw [List.cons_append, Nat.ofDigitChars_cons, hlength, Nat.pow_add, Nat.pow_one, ← Nat.mul_assoc]
    calc m * 10 * 10 ^ (cs.length + ignored.length)
        ≤ (10 * n + (c.toNat - '0'.toNat)) * 10 ^ taken.length *
            10 ^ (cs.length + ignored.length) := Nat.mul_le_mul_right _ hle
      _ = (10 * n + (c.toNat - '0'.toNat)) * 10 ^ (cs ++ fraction).length := by
          rw [Nat.mul_assoc, ← Nat.pow_add, List.length_append, hfraction, List.length_append]
          congr 2
          omega
      _ ≤ _ := mul_le_ofDigitChars (cs ++ fraction) _

/-- **What rounding by parts makes of a numeral:** it rounds a word of digits that open the numeral
and scales what it found with the power of ten that is due. -/
theorem magnitude?_bestEffort_eq (w : Numeral) :
    ∃ n k : Nat, n < 2 ^ 64 ∧ n * 10 ^ k ≤ w.value.digits ∧
      bestEffort.magnitude? w =
        (Magnitude.ofNat? n).bind fun m => scaled? m (w.value.exponent + k) := by
  obtain ⟨-, -, -, hlt, -⟩ := exists_gather 0 w.whole (by decide)
  obtain ⟨taken, hfraction, -, hltm, -⟩ := exists_gather (gather 0 w.whole).1 w.fraction hlt
  refine ⟨_, _, hltm, gathered_le w.whole w.fraction, ?_⟩
  have hlength := congrArg List.length hfraction
  rw [List.length_append] at hlength
  have hexponent : w.power + (gather 0 w.whole).2.length -
      (w.fraction.length - (gather (gather 0 w.whole).1 w.fraction).2.length : Nat) =
      w.value.exponent + ((gather 0 w.whole).2.length +
        (gather (gather 0 w.whole).1 w.fraction).2.length : Nat) := by
    show _ = w.power - w.fraction.length + _
    omega
  rw [← hexponent]
  rfl

/-! ## 4. What is scaled -/

/-- The largest word that may stand before a power of ten in a decimal below the largest count. -/
def largestWord (e : Nat) : Nat := min (2 ^ 64 - 1) (Magnitude.belowTop / (10 ^ e * unitsPerOne))

/-- The powers of ten that do not leave room for every word, and the one before them: the largest
words are in range when they are scaled. -/
theorem isSome_times?_largestWord : ∀ i ≤ 20, ((Magnitude.ofNat? (largestWord (288 + i))).bind
    fun m => (tenPower? (288 + i)).bind m.times?).isSome = true := by
  decide +kernel

section

variable {n e : Nat} {m : Magnitude}

theorem exists_ofNat? (hn : n < 2 ^ 64) : ∃ m, Magnitude.ofNat? n = some m := by
  have hlargest : (Magnitude.ofNat? (2 ^ 64)).isSome = true := by decide +kernel
  exact Magnitude.exists_nearest?_of_le (Nat.mul_le_mul_right _ (Nat.le_of_lt hn))
    (Option.isSome_iff_exists.mp hlargest)

/-- Numbers become counts in their order. -/
theorem units_ofNat?_mono {k : Nat} {l : Magnitude} (h : n ≤ k) (hm : Magnitude.ofNat? n = some m)
    (hl : Magnitude.ofNat? k = some l) : m.units ≤ l.units := by
  rw [← Magnitude.units_of_nearest? hm, ← Magnitude.units_of_nearest? hl]
  exact Magnitude.nearestUnits_mono (Nat.mul_le_mul_right _ h) 1

/-- The powers of ten up to `10³⁰⁸` are in range, and they are one at least. -/
theorem exists_tenPower? (he : e ≤ 308) :
    ∃ p : Magnitude, tenPower? e = some p ∧ unitsPerOne ≤ p.units := by
  obtain ⟨k, hk, hlargest⟩ : ∃ k, e ≤ k ∧ (tenPower? k).isSome = true :=
    ⟨308, he, by decide +kernel⟩
  have hpow : 10 ^ e * unitsPerOne ≤ 10 ^ k * unitsPerOne :=
    Nat.mul_le_mul_right _ (Nat.pow_le_pow_right (by decide) hk)
  obtain ⟨p, hp⟩ :=
    Magnitude.exists_nearest?_of_le hpow (Option.isSome_iff_exists.mp hlargest)
  have hone : (Magnitude.ofNat? 1).map Magnitude.units = some unitsPerOne := by decide +kernel
  obtain ⟨one, hone, hunits⟩ := Option.map_eq_some_iff.mp hone
  exact ⟨p, hp, hunits ▸ units_ofNat?_mono (Nat.pow_pos (by decide)) hone hp⟩

/-- **A word is scaled up in range** if what it makes up with the power of ten is below the largest
count. -/
theorem exists_times? (hn : n < 2 ^ 64) (hm : Magnitude.ofNat? n = some m)
    (hle : n * 10 ^ e * unitsPerOne ≤ Magnitude.belowTop) (he : e ≤ 308) :
    ∃ l, (tenPower? e).bind m.times? = some l := by
  -- every word may stand before a power up to `10²⁸⁸`, so these need not be told apart
  obtain ⟨i, hi, hpow, hword⟩ : ∃ i ≤ 20, e ≤ 288 + i ∧ n ≤ largestWord (288 + i) := by
    by_cases hsmall : e ≤ 288
    · have hall : 2 ^ 64 - 1 ≤ largestWord (288 + 0) := by decide +kernel
      exact ⟨0, by decide, hsmall, by omega⟩
    · have hdiv : n ≤ Magnitude.belowTop / (10 ^ e * unitsPerOne) := by
        rw [Nat.le_div_iff_mul_le (Nat.mul_pos (Nat.pow_pos (by decide)) unitsPerOne_pos),
          ← Nat.mul_assoc]
        exact hle
      have hsum : 288 + (e - 288) = e := by omega
      refine ⟨e - 288, by omega, by omega, ?_⟩
      rw [hsum, largestWord]
      omega
  obtain ⟨l, hl⟩ := Option.isSome_iff_exists.mp (isSome_times?_largestWord i hi)
  obtain ⟨b, hb, hl⟩ := Option.bind_eq_some_iff.mp hl
  obtain ⟨q, hq, hl⟩ := Option.bind_eq_some_iff.mp hl
  obtain ⟨p, hp, -⟩ := exists_tenPower? he
  rw [hp, Option.bind_some]
  have hproduct : m.units * p.units ≤ b.units * q.units :=
    Nat.mul_le_mul (units_ofNat?_mono hword hm hb)
      (units_ofNat?_mono (Nat.pow_le_pow_right (by decide) hpow) hp hq)
  exact Magnitude.exists_nearest?_of_le hproduct ⟨l, hl⟩

/-- **A count is divided in range** by a number that is one at least. -/
theorem exists_over? {p : Magnitude} (hp : unitsPerOne ≤ p.units) : ∃ l, m.over? p = some l := by
  have hpos : 0 < p.units := Nat.lt_of_lt_of_le unitsPerOne_pos hp
  have hmono := Magnitude.nearestUnits_mono (Nat.mul_le_mul_left m.units hp) p.units
  have hself := Magnitude.units_of_nearest? (Magnitude.nearest?_units m p.units hpos)
  have hlt := m.bounded
  exact Magnitude.exists_nearest?_iff.mpr (by omega)

/-- **A division in steps** stays in range. -/
theorem exists_divided (he : e ≤ 308) (steps : Nat) (m : Magnitude) :
    ∃ l, divided e steps m = some l := by
  induction steps generalizing m with
  | zero =>
    obtain ⟨p, hp, hone⟩ := exists_tenPower? he
    rw [divided, hp, Option.bind_some]
    exact exists_over? hone
  | succ steps ih =>
    rw [divided]
    split
    · exact ⟨_, rfl⟩
    · obtain ⟨p, hp, hone⟩ := exists_tenPower? (Nat.le_refl 308)
      obtain ⟨l, hl⟩ := exists_over? (m := m) hone
      rw [hp, Option.bind_some, hl, Option.bind_some]
      exact ih l

/-- **A word is scaled in range** if what it makes up with the power of ten is below the largest
count. -/
theorem exists_scaled? {x : Int} (hn : n < 2 ^ 64) (hm : Magnitude.ofNat? n = some m)
    (hle : ∀ e : Nat, x = e → n * 10 ^ e * unitsPerOne ≤ Magnitude.belowTop) :
    ∃ l, scaled? m x = some l := by
  obtain e | e := x
  · have hle := hle e rfl
    rw [scaled?]
    split
    · next he => exact exists_times? hn hm hle he
    next he =>
    -- so large a power of ten leaves room for a zero only
    obtain ⟨k, hk, hbelow⟩ : ∃ k, k ≤ e ∧ Magnitude.belowTop < 10 ^ k * unitsPerOne :=
      ⟨309, by omega, by decide +kernel⟩
    have h0 : n = 0 := by
      by_cases h0 : n = 0
      · exact h0
      · have hmul : 1 * 10 ^ k ≤ n * 10 ^ e :=
          Nat.mul_le_mul (Nat.pos_of_ne_zero h0) (Nat.pow_le_pow_right (by decide) hk)
        have := Nat.mul_le_mul_right unitsPerOne hmul
        rw [Nat.one_mul] at this
        omega
    have hzero : m.units = 0 := by
      rw [← Magnitude.units_of_nearest? hm, h0]
      decide +kernel
    exact ⟨_, if_pos hzero⟩
  · have he : e % 308 + 1 ≤ 308 := by omega
    rw [scaled?]
    exact exists_divided he (e / 308) m

end

/-! ## 5. What is accepted -/

/-- **Rounding by parts accepts every numeral** that is rounded to less than the largest count. -/
theorem exists_magnitude?_bestEffort {w : Numeral} {m : Magnitude}
    (hw : nearest.magnitude? w = some m) (hm : m.units < Magnitude.top.units) :
    ∃ l, bestEffort.magnitude? w = some l := by
  obtain ⟨n, k, hn, hdigits, heq⟩ := magnitude?_bestEffort_eq w
  obtain ⟨word, hword⟩ := exists_ofNat? hn
  rw [heq, hword, Option.bind_some]
  refine exists_scaled? hn hword fun e he => ?_
  exact Nat.le_trans (Decimal.mul_le_wholeUnits hdigits he) (Decimal.wholeUnits_le hw hm)

/-- A decimal that is rounded to the largest count may be out of range for rounding by parts. -/
example : nearest.magnitude? ⟨"17976931348623158".toList, [], 292⟩ = some Magnitude.top ∧
    bestEffort.magnitude? ⟨"17976931348623158".toList, [], 292⟩ = none := by decide +kernel

/-- **Rounding by parts accepts the text of every finite number.** -/
theorem acceptsWritten_bestEffort : bestEffort.AcceptsWritten := by
  intro x hx
  cases x with
  | finite negative m =>
    by_cases hm : m.units < Magnitude.top.units
    · obtain ⟨w, hw, hread⟩ := read_markedText negative m
      obtain ⟨l, hl⟩ := exists_magnitude?_bestEffort (hw.1.trans m.magnitude?_shortest) hm
      rw [hread, toFinite, hl]
      exact ⟨_, rfl⟩
    · have htop : ∀ negative, bestEffort.Restores (.finite negative .top) := by decide +kernel
      obtain rfl := Magnitude.eq_top (Nat.le_of_not_lt hm)
      exact ⟨_, htop negative⟩
  | _ => cases hx

end Rounding
end JsonSieve
