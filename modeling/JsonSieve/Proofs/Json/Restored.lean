/-
# Numbers that are read back

What a number reads back as is settled by the grammar if the number is written as an integer, and by
the rounding if it is written in the marked layout.  In the marked layout the rounding is given one
numeral, and all that matters is the count which it takes that numeral for (`read_markedText`).

`Rounding.Restores` says that a rounding finds a number again in its own text.  The nearest rounding
does so for every finite number (`restores_nearest`), because the shortest decimal was chosen to be
rounded to the number.  The rounding that the program runs with does so for numbers of few digits:
it is the nearest one on decimals below `2⁵³` with an exponent up to 22 (`magnitude?_bestEffort`).
Beyond, it may miss; `not_restores_bestEffort` is a number of sixteen digits that it does not find
again.

A document in the double format, the numbers of which are restored, reads back as itself, but for
the signs of zeros (`readBack_of_restoredBy`, `widen_reread`).
-/
import JsonSieve.Proofs.Binary64.Integers
import JsonSieve.Proofs.Json.RoundTrip

namespace JsonSieve

open Json.Reader Binary64

/-! ## 1. Numbers in the marked layout -/

/-- **What is read for a number in the marked layout** is the count, with the sign of the number,
that the rounding takes one numeral for.  The numeral does not depend on the rounding, and it stands
for the shortest decimal that is nearest to the number. -/
theorem read_markedText (negative : Bool) (m : Magnitude) :
    ∃ w : Numeral, w.StandsFor m.shortest ∧
      ∀ ρ, Json.read ρ (finite negative m).markedText =
        (toFinite ρ negative w).map Json.number := by
  obtain ⟨w, hw, hnumeral⟩ := exists_isNumeral_marked negative m
  exact ⟨w, hw, fun ρ => (Json.readsBack_numeral (hnumeral ρ) maxDepth).read_eq⟩

namespace Rounding

variable {ρ : Rounding} {x : Binary64}

/-- **A number is restored** by a rounding if its text in the marked layout is read as the number
again. -/
def Restores (ρ : Rounding) (x : Binary64) : Prop :=
  Json.read ρ x.markedText = .ok (.number (.real x))

/-- Whether what was read is a given number of the double format. -/
def isReadAs (x : Binary64) : Except ReadError Json → Bool
  | .ok (.number (.real y)) => y == x
  | _ => false

theorem isReadAs_iff {v : Except ReadError Json} :
    isReadAs x v = true ↔ v = .ok (.number (.real x)) := by
  constructor
  · intro h
    unfold isReadAs at h
    split at h
    · rw [beq_iff_eq.mp h]
    · cases h
  · rintro rfl
    exact beq_self_eq_true x

instance (ρ : Rounding) (x : Binary64) : Decidable (ρ.Restores x) :=
  decidable_of_iff (isReadAs x (Json.read ρ x.markedText) = true) isReadAs_iff

/-- **The nearest rounding restores every finite number.** -/
theorem restores_nearest (hx : x.isFinite = true) : nearest.Restores x := by
  cases x with
  | finite negative m =>
    obtain ⟨w, hw, hread⟩ := read_markedText negative m
    rw [Restores, hread, toFinite, magnitude?_nearest, hw.1, m.magnitude?_shortest]
    rfl
  | _ => cases hx

/-- A rounding that reads the text of every finite number as some number. -/
def AcceptsWritten (ρ : Rounding) : Prop :=
  ∀ x : Binary64, x.isFinite = true → ∃ v, Json.read ρ x.markedText = .ok v

theorem acceptsWritten_nearest : nearest.AcceptsWritten :=
  fun _ hx => ⟨_, restores_nearest hx⟩

/-! ## 2. Rounding by parts -/

/-- Every digit that is read onto a number makes it at least ten times as large. -/
theorem mul_le_ofDigitChars (ds : List Char) (n : Nat) :
    n * 10 ^ ds.length ≤ Nat.ofDigitChars 10 ds n := by
  rw [Nat.ofDigitChars_eq_ofDigitChars_zero, Nat.mul_comm]
  exact Nat.le_add_right _ _

theorem le_ofDigitChars (ds : List Char) (n : Nat) : n ≤ Nat.ofDigitChars 10 ds n :=
  Nat.le_trans (Nat.le_mul_of_pos_right n (Nat.pow_pos (by decide))) (mul_le_ofDigitChars ds n)

/-- Digits are gathered as long as the number is small. -/
theorem gather_of_small : ∀ {ds : List Char} {n : Nat}, Nat.ofDigitChars 10 ds n < 2 ^ 53 →
    gather n ds = (Nat.ofDigitChars 10 ds n, [])
  | [], _, _ => rfl
  | c :: ds, n, h => by
    rw [Nat.ofDigitChars_cons] at h ⊢
    have := le_ofDigitChars ds (10 * n + (c.toNat - '0'.toNat))
    rw [gather, if_pos (by omega)]
    exact gather_of_small h

/-- Up to `10²²` a power of ten is a number of the format. -/
theorem tenPower?_of_small {e : Nat} (he : e ≤ 22) :
    ∃ p : Magnitude, tenPower? e = some p ∧ p.units = 10 ^ e * unitsPerOne := by
  have hall : ∀ e ≤ 22,
      (tenPower? e).map Magnitude.units = some (10 ^ e * unitsPerOne) := by decide +kernel
  exact Option.map_eq_some_iff.mp (hall e he)

section

variable {n e : Nat} {m p : Magnitude} (hm : m.units = n * unitsPerOne)
  (hp : p.units = 10 ^ e * unitsPerOne)
include hm hp

/-- A product of whole numbers of the format is rounded once. -/
theorem times?_eq : m.times? p = Magnitude.nearest? (n * 10 ^ e * unitsPerOne) 1 := by
  rw [Magnitude.times?, hm, hp,
    ← Magnitude.nearest?_scale (n * 10 ^ e * unitsPerOne) 1 unitsPerOne unitsPerOne_pos,
    Nat.mul_one]
  congr 1
  ac_rfl

/-- A quotient of whole numbers of the format is rounded once. -/
theorem over?_eq : m.over? p = Magnitude.nearest? (n * unitsPerOne) (10 ^ e) := by
  rw [Magnitude.over?, hm, hp,
    ← Magnitude.nearest?_scale (n * unitsPerOne) (10 ^ e) unitsPerOne unitsPerOne_pos]
  congr 1 <;> ac_rfl

end

section

variable {d : Decimal} (hdigits : d.digits < 2 ^ 53) (hexponent : d.exponent.natAbs ≤ 22)
include hdigits hexponent

/-- A decimal of few digits is far from the ends of the range. -/
theorem magnitude?_of_small :
    d.magnitude? = match d.exponent with
      | .ofNat e => Magnitude.nearest? (d.digits * 10 ^ e * unitsPerOne) 1
      | .negSucc e => Magnitude.nearest? (d.digits * unitsPerOne) (10 ^ (e + 1)) := by
  by_cases h0 : d.digits = 0
  · have hzero : ∀ den, 0 < den → Magnitude.nearest? 0 den = some .zero := fun den hden => by
      simpa [Magnitude.zero] using Magnitude.nearest?_units .zero den hden
    rw [Decimal.magnitude?, if_pos h0, h0]
    cases d.exponent with
    | ofNat e => simp [hzero]
    | negSucc e => simp [hzero _ (Nat.pow_pos (show 0 < 10 by decide))]
  have hcount : digitCount d.digits ≤ 16 :=
    (Magnitude.digitCount_le_iff (by decide)).mpr (by omega)
  have horder : ¬ 310 < d.order ∧ ¬ d.order < -330 := by
    rw [Decimal.order]
    omega
  rw [Decimal.magnitude?]
  exact (if_neg h0).trans ((if_neg horder.1).trans (if_neg horder.2))

/-- A small whole number is scaled by a small power of ten in one step, which is exact up to the
rounding of the result. -/
theorem scaled?_of_small {m : Magnitude} (hm : m.units = d.digits * unitsPerOne) :
    scaled? m d.exponent = d.magnitude? := by
  rw [magnitude?_of_small hdigits hexponent]
  cases hcase : d.exponent with
  | ofNat e =>
    rw [hcase] at hexponent
    have he : e ≤ 22 := hexponent
    obtain ⟨p, hp, hunits⟩ := tenPower?_of_small he
    rw [scaled?, if_pos (by omega), hp, Option.bind_some, times?_eq hm hunits]
  | negSucc e =>
    rw [hcase] at hexponent
    have he : e + 1 ≤ 22 := hexponent
    obtain ⟨p, hp, hunits⟩ := tenPower?_of_small he
    rw [scaled?, Nat.mod_eq_of_lt (by omega), Nat.div_eq_of_lt (by omega), divided, hp,
      Option.bind_some, over?_eq hm hunits]

end

/-- **Rounding by parts is rounding to the nearest** for decimals below `2⁵³` with an exponent up to
22: nothing is lost before the last step. -/
theorem magnitude?_bestEffort {w : Numeral} (hdigits : w.value.digits < 2 ^ 53)
    (hexponent : w.value.exponent.natAbs ≤ 22) :
    bestEffort.magnitude? w = nearest.magnitude? w := by
  have hvalue : Nat.ofDigitChars 10 w.fraction (digitsValue w.whole) = w.value.digits :=
    (Nat.ofDigitChars_append ..).symm
  have hfraction : gather (digitsValue w.whole) w.fraction = (w.value.digits, []) := by
    rw [← hvalue] at hdigits ⊢
    exact gather_of_small hdigits
  have hwhole : gather 0 w.whole = (digitsValue w.whole, []) :=
    gather_of_small (Nat.lt_of_le_of_lt (hvalue ▸ le_ofDigitChars w.fraction _) hdigits)
  obtain ⟨m, hm⟩ := @exists_units_eq w.value.digits 0 hdigits (by omega)
  rw [Nat.pow_zero, Nat.mul_one] at hm
  have hnat : Magnitude.ofNat? w.value.digits = some m := by
    have hnear := Magnitude.nearest?_units m 1 (by decide)
    rwa [Nat.mul_one, hm] at hnear
  have hscale : w.value.exponent = w.power + (0 : Nat) - (w.fraction.length - 0 : Nat) := by
    simp [Numeral.value]
  rw [magnitude?_nearest, ← scaled?_of_small hdigits hexponent hm, hscale]
  simp only [bestEffort, hwhole, hfraction, hnat, Option.bind_some, List.length_nil]

/-- **Rounding by parts restores a number of few digits,** if it has a place behind the point and no
more than 22 of them. -/
theorem restores_bestEffort {negative : Bool} {m : Magnitude} (h0 : m.shortest.digits ≠ 0)
    (hdigits : m.shortest.digits < 2 ^ 53) (hfraction : m.shortest.exponent < 0)
    (hplaces : -22 ≤ m.shortest.exponent) : bestEffort.Restores (.finite negative m) := by
  obtain ⟨w, hw, hread⟩ := read_markedText negative m
  have hvalue : w.value = m.shortest := hw.2 h0 hfraction
  have hnearest : bestEffort.magnitude? w = some m := by
    rw [magnitude?_bestEffort (hvalue ▸ hdigits) (by rw [hvalue]; omega), magnitude?_nearest,
      hvalue, m.magnitude?_shortest]
  rw [Restores, hread, toFinite, hnearest]
  rfl

/-- Sixteen digits may be too many: the number of this decimal is written as `0.9452706955539223`
and read as its upper neighbour. -/
theorem not_restores_bestEffort :
    ¬ bestEffort.Restores (.ofDecimal false ⟨9452706955539223, -16⟩) := by
  decide +kernel

end Rounding

/-! ## 3. Numbers, one by one -/

section

variable {ρ : Rounding} {x : Binary64}

theorem readBack_real (ρ : Rounding) (x : Binary64) :
    (Number.real x).readBack ρ = Json.read ρ (String.ofList x.jsonText) := rfl

/-- A number that is written as an integer is read as that integer. -/
theorem readBack_of_smallWhole {n : Int} (h : x.smallWhole? = some n) :
    (Number.real x).readBack ρ = .ok (.number (.integer n)) := by
  rw [readBack_real, jsonText_of_smallWhole h]
  exact (Json.readsBack_numeral (isNumeral_integer (isKept_smallWhole h)) maxDepth).read_eq

/-- Another finite number is read from its marked layout. -/
theorem readBack_of_not_smallWhole (hx : x.isFinite = true) (h : x.smallWhole? = none) :
    (Number.real x).readBack ρ = Json.read ρ x.markedText := by
  rw [readBack_real, jsonText_of_not_smallWhole hx h]
  rfl

theorem readBack_of_not_finite (hx : x.isFinite = false) :
    (Number.real x).readBack ρ = .ok .null := by
  rw [readBack_real, jsonText_of_not_finite hx]
  exact (Json.readsBack_null maxDepth).read_eq

end

/-- What the text of a number of the double format is read as by a rounding that restores it. -/
def Binary64.reread (x : Binary64) : Json :=
  if x.isFinite then
    match x.smallWhole? with
    | some n => .number (.integer n)
    | none => .number (.real x)
  else .null

/-- **A number that is restored is read back.** -/
theorem readBack_of_restores {ρ : Rounding} {x : Binary64}
    (h : x.isFinite = true → ρ.Restores x) : (Number.real x).readBack ρ = .ok x.reread := by
  rw [Binary64.reread]
  cases hx : x.isFinite with
  | false => exact readBack_of_not_finite hx
  | true =>
    cases hwhole : x.smallWhole? with
    | some n => exact readBack_of_smallWhole hwhole
    | none => exact (readBack_of_not_smallWhole hx hwhole).trans (h hx)

/-- **A finite number reads back as itself** in the double format, but for the sign of a zero. -/
theorem Binary64.widen_reread {x : Binary64} (hx : x.isFinite = true) :
    x.reread.widen = .number (.real x.plainZero) := by
  rw [reread, if_pos hx]
  cases h : x.smallWhole? with
  | some n => simp only [Json.widen, Number.widen, Number.toReal, ofInt_smallWhole h]
  | none =>
    cases x with
    | finite negative m =>
      have h0 : m.units ≠ 0 := by
        -- a zero is whole, so it would have been written as an integer
        intro h0
        simp [smallWhole?, Magnitude.isWhole, Magnitude.ones, h0] at h
      simp [Json.widen, Number.widen, Number.toReal, plainZero, Nat.pos_of_ne_zero h0]
    | _ => cases hx

/-- **The text of every finite number is read,** if that of its marked layout is. -/
theorem exists_readBack_real {ρ : Rounding} {x : Binary64} (hρ : ρ.AcceptsWritten)
    (hx : x.isFinite = true) : ∃ v, (Number.real x).readBack ρ = .ok v := by
  cases hwhole : x.smallWhole? with
  | some n => exact ⟨_, readBack_of_smallWhole hwhole⟩
  | none =>
    rw [readBack_of_not_smallWhole hx hwhole]
    exact hρ x hx

/-! ## 4. Documents -/

/-- The numbers of the double format, among them those that are not finite. -/
def Number.IsReal (n : Number) : Prop := ∃ x : Binary64, n = .real x

namespace Json

variable {ρ : Rounding} {v : Json}

/-- **The numbers of a document are restored** by a rounding, as far as they are finite. -/
def RestoredBy (ρ : Rounding) (v : Json) : Prop :=
  ∀ n ∈ v.numbers, n.toReal.isFinite = true → ρ.Restores n.toReal

instance (ρ : Rounding) (v : Json) : Decidable (v.RestoredBy ρ) :=
  inferInstanceAs (Decidable (∀ n ∈ v.numbers, n.toReal.isFinite = true → ρ.Restores n.toReal))

theorem restoredBy_nearest (v : Json) : v.RestoredBy .nearest :=
  fun _ _ hx => Rounding.restores_nearest hx

/-- The document that a document in the double format is read as, if its numbers are restored. -/
def reread (v : Json) : Json := v.mapNumbers fun n => n.toReal.reread

/-- **A document in the double format is read back,** if its numbers are restored. -/
theorem readBack_of_restoredBy {depth : Nat} (hv : v.IsDocument Number.IsReal depth)
    (h : v.RestoredBy ρ) : v.readBack ρ = .ok v.reread := by
  refine mapNumbersM_eq_ok fun n hn => ?_
  have hn' := h n hn
  obtain ⟨x, rfl⟩ := hv.of_mem_numbers hn
  exact readBack_of_restores hn'

end Json

end JsonSieve
