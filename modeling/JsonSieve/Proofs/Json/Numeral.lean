/-
# The text of a number is read as a number

A number of a document is written with as few characters as its value allows.  Whole numbers below
`2⁵³` are written as integers and read as such; other finite numbers are written in the marked
layout, which may spread the digits around a point or put a power of ten behind them.

What is read in the marked layout is a `Numeral`, and it is the same one for every rounding
(`exists_isReadFrom_decimal`).  It denotes the decimal that the digits came from, or that decimal
with zeros at the end, so that a rounding which goes by the value of the decimal finds the number
again that was written.  Of other roundings this cannot be said, and it is not said here.
-/
import JsonSieve.Json.Read
import JsonSieve.Json.Write
import JsonSieve.Proofs.Text.Run

namespace JsonSieve

open Json.Reader Binary64 Layout

/-! ## 1. Digits -/

namespace Layout

theorem digits_ne_nil (n : Nat) : digits n ≠ [] := Nat.toDigits_ne_nil

theorem isDigit_of_mem_digits {n : Nat} {c : Char} (h : c ∈ digits n) : c.isDigit = true :=
  Nat.isDigit_of_mem_toDigits (by decide) (by decide) h

@[simp] theorem digitsValue_digits (n : Nat) : digitsValue (digits n) = n :=
  Nat.ofDigitChars_ten_toDigits

/-- A positive number is not written with a zero in front. -/
theorem head_digits {n : Nat} (h : n ≠ 0) : (digits n).head? ≠ some '0' := by
  induction n using Nat.strongRecOn with
  | ind n ih =>
    rw [digits, Nat.toDigits_eq_if (by decide)]
    split
    · simpa using h
    · next hn =>
      have hlead := ih (n / 10) (by omega) (by omega)
      rw [← digits, List.head?_append]
      rwa [List.head?_eq_some_head (digits_ne_nil _)] at hlead ⊢

end Layout

theorem digitsValue_zeros_append (k : Nat) (ds : List Char) :
    digitsValue (List.replicate k '0' ++ ds) = digitsValue ds := by
  simp [digitsValue, Nat.ofDigitChars_append]

theorem digitsValue_append_zeros (ds : List Char) (k : Nat) :
    digitsValue (ds ++ List.replicate k '0') = digitsValue ds * 10 ^ k := by
  simp [digitsValue, Nat.ofDigitChars_append, Nat.mul_comm]

/-- **Zeros at the end of the digits change nothing.** -/
theorem Decimal.magnitude?_zeros (d : Decimal) : ∀ k : Nat,
    magnitude? ⟨d.digits * 10 ^ k, d.exponent - k⟩ = d.magnitude?
  | 0 => by simp
  | k + 1 => by
    rw [← magnitude?_zeros d k, ← magnitude?_pad ⟨d.digits * 10 ^ k, _⟩, pad]
    congr 2
    · rw [Nat.pow_succ, Nat.mul_assoc]
    · push_cast; omega

/-! ## 2. Where a number ends -/

/-- What a number may not be followed by. -/
def continuesNumber (c : Char) : Bool := c.isDigit || c = '.' || c = 'e' || c = 'E'

theorem Ends.isDigit {s : List Char} (h : Ends continuesNumber s) : Ends Char.isDigit s :=
  h.mono fun c hc => by simp [continuesNumber, hc]

theorem splitDigits_digits {ds rest : List Char} (hd : ∀ c ∈ ds, c.isDigit = true)
    (hr : Ends Char.isDigit rest) : splitDigits (ds ++ rest) = (ds, rest) := by
  rw [splitDigits, takeWhile_append_of_ends hd hr, dropWhile_append_of_ends hd hr]

/-! ## 3. The parts of a number -/

section

variable {ρ : Rounding} {negative : Bool} {w f rest : List Char}

/-- A run of digits that may stand before the point: a zero is its only digit, if it comes first. -/
structure IsWholePart (w : List Char) : Prop where
  ne_nil : w ≠ []
  digits : ∀ c ∈ w, c.isDigit = true
  zero : w.head? = some '0' → w = ['0']

theorem isWholePart_digits (n : Nat) : IsWholePart (digits n) where
  ne_nil := digits_ne_nil n
  digits _ := isDigit_of_mem_digits
  zero h := by
    by_cases hn : n = 0
    · rw [hn]; rfl
    · exact absurd h (head_digits hn)

theorem readNumber_whole (hw : IsWholePart w) (hr : Ends Char.isDigit rest) :
    readNumber ρ negative (w ++ rest) = readFraction ρ negative w rest := by
  rw [readNumber, splitDigits_digits hw.digits hr]
  split
  · next h => exact absurd (Prod.ext_iff.mp h).1 hw.ne_nil
  · next h =>
    obtain ⟨rfl, -⟩ := Prod.ext_iff.mp h
    cases hw.zero rfl
  · next h =>
    obtain ⟨rfl, rfl⟩ := Prod.ext_iff.mp h
    rfl

theorem readFraction_end (hr : Ends continuesNumber rest) :
    readFraction ρ negative w rest = (ofWhole ρ negative w).map fun n => (n, rest) := by
  unfold readFraction
  split
  · exact absurd (hr '.' rfl) (by decide)
  · exact absurd (hr 'e' rfl) (by decide)
  · exact absurd (hr 'E' rfl) (by decide)
  · rfl

theorem readFraction_point (hf : f ≠ []) (hd : ∀ c ∈ f, c.isDigit = true)
    (hr : Ends Char.isDigit rest) :
    readFraction ρ negative w ('.' :: (f ++ rest)) = readScale ρ negative w f rest := by
  simp [readFraction, splitDigits_digits hd hr, hf]

theorem readScale_end (hr : Ends continuesNumber rest) :
    readScale ρ negative w f rest =
      (toFinite ρ negative ⟨w, f, 0⟩).map fun n => (n, rest) := by
  unfold readScale
  split
  · exact absurd (hr 'e' rfl) (by decide)
  · exact absurd (hr 'E' rfl) (by decide)
  · rfl

/-- An integer is written as its digits behind a minus sign, if it has one. -/
theorem integer_eq (n : Int) :
    Layout.integer n = (if n < 0 then ['-'] else []) ++ digits n.natAbs := by
  rw [Layout.integer]
  split <;> rfl

theorem signed_natAbs (n : Int) : signed (decide (n < 0)) n.natAbs = n := by
  by_cases h : n < 0
  · simp only [h, decide_true, signed, if_true]; omega
  · simp only [h, decide_false, signed, Bool.false_eq_true, if_false]; omega

theorem natAbs_signed (negative : Bool) (k : Nat) : (signed negative k).natAbs = k := by
  cases negative with
  | false => rfl
  | true => simp [signed]

theorem splitSign_digits {s : List Char} (hw : IsWholePart w) :
    splitSign (w ++ s) = (false, w ++ s) := by
  cases w with
  | nil => exact absurd rfl hw.ne_nil
  | cons c w =>
    have hc := hw.digits c (by simp)
    unfold splitSign
    split
    · next h => cases h; cases hc
    · next h => cases h; cases hc
    · rfl

theorem readPower_integer (n : Int) (hr : Ends Char.isDigit rest) :
    readPower (Layout.integer n ++ rest) = .ok (n, rest) := by
  have hw := isWholePart_digits n.natAbs
  have hs : splitSign (Layout.integer n ++ rest) = (decide (n < 0), digits n.natAbs ++ rest) := by
    rw [integer_eq]
    by_cases h : n < 0
    · simp [h, splitSign]
    · simpa [h] using splitSign_digits hw
  simp [readPower, hs, splitDigits_digits hw.digits hr, hw.ne_nil, signed_natAbs]

theorem readScale_power (n : Int) (hr : Ends Char.isDigit rest) :
    readScale ρ negative w f ('e' :: (Layout.integer n ++ rest)) =
      (toFinite ρ negative ⟨w, f, n⟩).map fun n => (n, rest) := by
  simp only [readScale, readPower_integer n hr]
  rfl

end

/-! ## 4. Texts that are read as numerals -/

/-- A text that is read as a numeral, whatever the sign before it and the rounding, if what follows
it ends a number. -/
def Numeral.IsReadFrom (w : Numeral) (s : List Char) : Prop :=
  ∀ (ρ : Rounding) (negative : Bool) (rest : List Char), Ends continuesNumber rest →
    readNumber ρ negative (s ++ rest) = (toFinite ρ negative w).map fun n => (n, rest)

section

variable {w f : List Char}

theorem isReadFrom_point (hw : IsWholePart w) (hf : f ≠ []) (hd : ∀ c ∈ f, c.isDigit = true) :
    Numeral.IsReadFrom ⟨w, f, 0⟩ (w ++ '.' :: f) := by
  intro ρ negative rest hr
  rw [List.append_assoc, List.cons_append, readNumber_whole hw (ends_cons.mpr (by decide)),
    readFraction_point hf hd hr.isDigit, readScale_end hr]

theorem isReadFrom_scientific (hw : IsWholePart w) (hd : ∀ c ∈ f, c.isDigit = true) (n : Int) :
    Numeral.IsReadFrom ⟨w, f, n⟩
      (w ++ ((if f = [] then [] else '.' :: f) ++ 'e' :: Layout.integer n)) := by
  intro ρ negative rest hr
  rw [List.append_assoc, List.append_assoc, List.cons_append]
  by_cases hf : f = []
  · subst hf
    rw [if_pos rfl, List.nil_append, readNumber_whole hw (ends_cons.mpr (by decide)),
      readFraction, readScale_power n hr.isDigit]
  · rw [if_neg hf, List.cons_append, readNumber_whole hw (ends_cons.mpr (by decide)),
      readFraction_point hf hd (ends_cons.mpr (by decide)), readScale_power n hr.isDigit]

end

section

variable {w : List Char} {d : Decimal}

/-- The digits of a positive number, or the first few of them, may stand before the point. -/
theorem isWholePart_of_head {n : Nat} (hn : n ≠ 0) (hd : ∀ c ∈ w, c.isDigit = true)
    (hh : w.head? = (digits n).head?) : IsWholePart w where
  ne_nil h := by
    rw [h, List.head?_nil, eq_comm, List.head?_eq_none_iff] at hh
    exact digits_ne_nil n hh
  digits := hd
  zero h := absurd (hh ▸ h) (head_digits hn)

theorem isWholePart_zero : IsWholePart ['0'] := ⟨by simp, by simp, fun _ => rfl⟩

theorem isDigit_of_mem_zeros {k : Nat} {c : Char} (h : c ∈ List.replicate k '0') :
    c.isDigit = true := by
  rw [List.eq_of_mem_replicate h]
  rfl

theorem order_eq (d : Decimal) : d.order = d.exponent + (digits d.digits).length := rfl

/-- The point stands before the digits, with a zero in front of it. -/
theorem exists_isReadFrom_before (horder : d.order ≤ 0) :
    ∃ w : Numeral, w.value = d ∧
      w.IsReadFrom ('0' :: '.' :: (List.replicate (-d.order).toNat '0' ++ digits d.digits)) := by
  have hlen := order_eq d
  refine ⟨⟨['0'], List.replicate (-d.order).toNat '0' ++ digits d.digits, 0⟩, ?_,
    isReadFrom_point isWholePart_zero (List.append_ne_nil_of_right_ne_nil _ (digits_ne_nil _))
      fun c hc => (List.mem_append.mp hc).elim isDigit_of_mem_zeros isDigit_of_mem_digits⟩
  have hdigits : digitsValue (['0'] ++ (List.replicate (-d.order).toNat '0' ++ digits d.digits)) =
      d.digits := (digitsValue_zeros_append ((-d.order).toNat + 1) _).trans (digitsValue_digits _)
  have hexponent : (0 : Int) - (List.replicate (-d.order).toNat '0' ++ digits d.digits).length =
      d.exponent := by
    simp only [List.length_append, List.length_replicate]
    omega
  rw [Numeral.value, hdigits, hexponent]

/-- The point stands behind the digits and as many zeros as are due, and one more zero follows. -/
theorem exists_isReadFrom_behind (h0 : d.digits ≠ 0) {k : Nat} (hk : d.exponent = k) :
    ∃ w : Numeral, w.value = ⟨d.digits * 10 ^ (k + 1), d.exponent - (k + 1 : Nat)⟩ ∧
      w.IsReadFrom (digits d.digits ++ List.replicate k '0' ++ ['.', '0']) := by
  have hw : IsWholePart (digits d.digits ++ List.replicate k '0') :=
    isWholePart_of_head h0
      (fun c hc => (List.mem_append.mp hc).elim isDigit_of_mem_digits isDigit_of_mem_zeros)
      (by rw [List.head?_append, List.head?_eq_some_head (digits_ne_nil _), Option.some_or])
  refine ⟨⟨digits d.digits ++ List.replicate k '0', ['0'], 0⟩, ?_,
    isReadFrom_point hw (by simp) (by simp)⟩
  have hdigits : digitsValue (digits d.digits ++ List.replicate k '0' ++ ['0']) =
      d.digits * 10 ^ (k + 1) := by
    rw [List.append_assoc, ← List.replicate_succ', digitsValue_append_zeros, digitsValue_digits]
  have hexponent : (0 : Int) - ['0'].length = d.exponent - (k + 1 : Nat) := by
    simp only [List.length_singleton]
    omega
  rw [Numeral.value, hdigits, hexponent]

/-- The point stands among the digits. -/
theorem exists_isReadFrom_among (h0 : d.digits ≠ 0) (hpos : 0 < d.order)
    (hlt : d.order.toNat < (digits d.digits).length) :
    ∃ w : Numeral, w.value = d ∧
      w.IsReadFrom ((digits d.digits).take d.order.toNat ++
        '.' :: (digits d.digits).drop d.order.toNat) := by
  have hlen := order_eq d
  have hw : IsWholePart ((digits d.digits).take d.order.toNat) :=
    isWholePart_of_head h0 (fun c hc => isDigit_of_mem_digits (List.mem_of_mem_take hc))
      (by rw [List.head?_take, if_neg (by omega)])
  have hf : (digits d.digits).drop d.order.toNat ≠ [] := by
    rw [ne_eq, List.drop_eq_nil_iff]
    omega
  refine ⟨⟨(digits d.digits).take d.order.toNat, (digits d.digits).drop d.order.toNat, 0⟩, ?_,
    isReadFrom_point hw hf fun c hc => isDigit_of_mem_digits (List.mem_of_mem_drop hc)⟩
  have hexponent : (0 : Int) - ((digits d.digits).drop d.order.toNat).length = d.exponent := by
    simp only [List.length_drop]
    omega
  rw [Numeral.value, List.take_append_drop, digitsValue_digits, hexponent]

/-- The point stands behind the first digit, if there are more, and a power of ten follows. -/
theorem exists_isReadFrom_scientific (h0 : d.digits ≠ 0) :
    ∃ w : Numeral, w.value = d ∧ w.IsReadFrom (scientific (digits d.digits) d.order) := by
  have hlen := order_eq d
  have hpos : 0 < (digits d.digits).length := List.length_pos_iff.mpr (digits_ne_nil _)
  have hall : ∀ c ∈ digits d.digits, c.isDigit = true := fun c => isDigit_of_mem_digits
  have hw : IsWholePart ((digits d.digits).take 1) :=
    isWholePart_of_head h0 (fun c hc => hall c (List.mem_of_mem_take hc))
      (by rw [List.head?_take, if_neg (by decide)])
  have hread := isReadFrom_scientific hw (f := (digits d.digits).drop 1)
    (fun c hc => hall c (List.mem_of_mem_drop hc)) (d.order - 1)
  simp only [List.drop_eq_nil_iff] at hread
  refine ⟨⟨(digits d.digits).take 1, (digits d.digits).drop 1, d.order - 1⟩, ?_, ?_⟩
  · have hexponent : d.order - 1 - ((digits d.digits).drop 1).length = d.exponent := by
      simp only [List.length_drop]
      omega
    rw [Numeral.value, List.take_append_drop, digitsValue_digits, hexponent]
  · rw [scientific, List.append_assoc]
    exact hread

/-- A numeral that stands for a decimal: it denotes a decimal of the same value, and if there are
digits behind the point, the decimal itself. -/
def Numeral.StandsFor (w : Numeral) (d : Decimal) : Prop :=
  w.value.magnitude? = d.magnitude? ∧ (d.digits ≠ 0 → d.exponent < 0 → w.value = d)

theorem Numeral.standsFor_of_value_eq {w : Numeral} (h : w.value = d) : w.StandsFor d :=
  ⟨congrArg _ h, fun _ _ => h⟩

/-- Digits with the point among them, before them or behind them are read as a numeral for the
decimal; if the point is behind them, there are zeros at its end. -/
theorem exists_isReadFrom_spread (h0 : d.digits ≠ 0) :
    ∃ w : Numeral, w.StandsFor d ∧
      w.IsReadFrom (spread marked.wholeEnd (digits d.digits) d.order) := by
  have hlen := order_eq d
  rw [spread]
  split
  · next horder =>
    obtain ⟨w, hw, hread⟩ := exists_isReadFrom_before horder
    exact ⟨w, Numeral.standsFor_of_value_eq hw, hread⟩
  split
  · next horder hle =>
    obtain ⟨w, hw, hread⟩ := exists_isReadFrom_behind h0
      (k := d.order.toNat - (digits d.digits).length) (by omega)
    exact ⟨w, ⟨by rw [hw, d.magnitude?_zeros], by omega⟩, hread⟩
  · next horder hle =>
    obtain ⟨w, hw, hread⟩ := exists_isReadFrom_among h0 (by omega) (by omega)
    exact ⟨w, Numeral.standsFor_of_value_eq hw, hread⟩

/-- **A decimal in the marked layout is read as a numeral that stands for it,** and the numeral does
not depend on the rounding. -/
theorem exists_isReadFrom_decimal (d : Decimal) :
    ∃ w : Numeral, w.StandsFor d ∧ w.IsReadFrom (marked.decimal d) := by
  rw [decimal]
  split
  · next h0 =>
    refine ⟨⟨['0'], ['0'], 0⟩, ⟨?_, fun h => absurd h0 h⟩,
      isReadFrom_point isWholePart_zero (by simp) (by simp)⟩
    rw [Decimal.magnitude?, Decimal.magnitude?, if_pos h0]
    rfl
  next h0 =>
  split
  · exact exists_isReadFrom_spread h0
  · obtain ⟨w, hw, hread⟩ := exists_isReadFrom_scientific h0
    exact ⟨w, Numeral.standsFor_of_value_eq hw, hread⟩

end

/-! ## 5. Numbers with a sign -/

/-- A text that is read as a number, or found to be out of range, when what follows it ends a
number. -/
structure IsUnsigned (ρ : Rounding) (negative : Bool) (s : List Char)
    (n : Except ReadError Number) : Prop where
  head : ∃ c r, s = c :: r ∧ c.isDigit = true
  reads : ∀ rest, Ends continuesNumber rest →
    readNumber ρ negative (s ++ rest) = n.map fun n => (n, rest)

/-- The text of a number with its sign. -/
def IsNumeral (ρ : Rounding) (s : List Char) (n : Except ReadError Number) : Prop :=
  ∃ negative w, s = (if negative then ['-'] else []) ++ w ∧ IsUnsigned ρ negative w n

/-- What is read as a numeral begins with a digit, or no rounding could make a number of it. -/
theorem Numeral.IsReadFrom.head {w : Numeral} {s : List Char} (h : w.IsReadFrom s) :
    ∃ c r, s = c :: r ∧ c.isDigit = true := by
  have h := h ⟨fun _ => some .zero⟩ false [] (ends_nil _)
  rw [List.append_nil] at h
  cases s with
  | nil => cases h
  | cons c r =>
    refine ⟨c, r, rfl, ?_⟩
    by_cases hc : c.isDigit = true
    · exact hc
    · have hs : splitDigits (c :: r) = ([], c :: r) := by simp [splitDigits, hc]
      rw [readNumber, hs] at h
      cases h

section

variable {ρ : Rounding}

/-- **An integer that is kept is read as it is,** whatever the rounding. -/
theorem isNumeral_integer {n : Int} (hn : isKept n = true) :
    IsNumeral ρ (Layout.integer n) (.ok (.integer n)) := by
  refine ⟨decide (n < 0), digits n.natAbs, by simp [integer_eq], ?_, fun rest hr => ?_⟩
  · exact ⟨_, _, (List.cons_head_tail (digits_ne_nil _)).symm,
      isDigit_of_mem_digits (List.head_mem (digits_ne_nil _))⟩
  have hz : (decide (n < 0) && n == 0) = false := by
    simp only [Bool.and_eq_false_iff, decide_eq_false_iff_not, beq_eq_false_iff_ne]
    omega
  rw [readNumber_whole (isWholePart_digits _) hr.isDigit, readFraction_end hr, ofWhole,
    digitsValue_digits]
  simp only [signed_natAbs, hn, hz]
  rfl

/-- **A count in the marked layout is read as a numeral** that stands for its shortest decimal, and
it keeps its sign. -/
theorem exists_isNumeral_marked (negative : Bool) (m : Magnitude) :
    ∃ w : Numeral, w.StandsFor m.shortest ∧
      ∀ ρ, IsNumeral ρ (layOut .marked (.finite negative m)) (toFinite ρ negative w) := by
  obtain ⟨w, hw, hread⟩ := exists_isReadFrom_decimal m.shortest
  exact ⟨w, hw, fun ρ => ⟨negative, _, rfl, hread.head, hread ρ negative⟩⟩

end

/-! ## 6. Numbers that are written as integers -/

theorem isKept_iff {n : Int} : isKept n = true ↔ -(2 ^ 63) ≤ n ∧ n < 2 ^ 64 := by
  rw [isKept, Bool.and_eq_true, decide_eq_true_iff, decide_eq_true_iff]

/-- A number that is written as an integer is small. -/
theorem natAbs_lt_of_smallWhole {x : Binary64} {n : Int} (h : x.smallWhole? = some n) :
    n.natAbs < 2 ^ 53 := by
  unfold smallWhole? at h
  split at h
  · split at h
    · next hm =>
      simp only [Bool.and_eq_true, decide_eq_true_eq] at hm
      obtain rfl := Option.some.inj h
      rw [natAbs_signed]
      exact hm.2
    · cases h
  · cases h

/-- A small whole number is an integer that is kept. -/
theorem isKept_smallWhole {x : Binary64} {n : Int} (h : x.smallWhole? = some n) :
    isKept n = true := by
  have := natAbs_lt_of_smallWhole h
  rw [isKept_iff]
  omega

theorem jsonText_of_smallWhole {x : Binary64} {n : Int} (h : x.smallWhole? = some n) :
    x.jsonText = Layout.integer n := by
  cases x with
  | finite negative m => simp [Binary64.jsonText, isFinite, h]
  | _ => cases h

theorem jsonText_of_not_smallWhole {x : Binary64} (hx : x.isFinite = true)
    (h : x.smallWhole? = none) : x.jsonText = x.layOut .marked := by
  simp [Binary64.jsonText, hx, h]

theorem jsonText_of_not_finite {x : Binary64} (hx : x.isFinite = false) :
    x.jsonText = Scalar.null.jsonText := by
  simp [Binary64.jsonText, hx, Scalar.jsonText]

/-- **Every number is written as a numeral,** except those that are not finite, which are written as
a null. -/
theorem isNumeral_jsonText (ρ : Rounding) (n : Number) :
    (∃ m, IsNumeral ρ n.toScalar.jsonText m) ∨
      n.toScalar.jsonText = Scalar.null.jsonText := by
  have hreal : ∀ x : Binary64, (∃ m, IsNumeral ρ x.jsonText m) ∨
      x.jsonText = Scalar.null.jsonText := fun x => by
    cases hx : x.isFinite with
    | false => exact .inr (jsonText_of_not_finite hx)
    | true =>
      cases h : x.smallWhole? with
      | some n =>
        rw [jsonText_of_smallWhole h]
        exact .inl ⟨_, isNumeral_integer (isKept_smallWhole h)⟩
      | none =>
        rw [jsonText_of_not_smallWhole hx h]
        cases x with
        | finite negative m =>
          obtain ⟨w, -, hw⟩ := exists_isNumeral_marked negative m
          exact .inl ⟨_, hw ρ⟩
        | _ => cases hx
  cases n with
  | real x => exact hreal x
  | integer k =>
    rw [Number.toScalar]
    split
    · next hword =>
      simp only [fitsWord, Bool.and_eq_true, decide_eq_true_eq] at hword
      exact .inl ⟨_, isNumeral_integer (isKept_iff.mpr (by omega))⟩
    · exact hreal _

/-! ## 7. Zeros -/

namespace Binary64

/-- The number without a minus sign, if it is a zero. -/
def plainZero : Binary64 → Binary64
  | .finite negative m => .finite (negative && 0 < m.units) m
  | x => x

theorem plainZero_plainZero (x : Binary64) : x.plainZero.plainZero = x.plainZero := by
  cases x with
  | finite negative m => simp [plainZero]
  | _ => rfl

/-- A finite number equals every number in its place on the line. -/
theorem equals_of_rank?_eq {x y : Binary64} (hx : x.isFinite = true) (h : y.rank? = x.rank?) :
    y.equals x = true := by
  cases x with
  | finite negative m => exact (equals_iff _ _).mpr ⟨_, h, rfl⟩
  | _ => cases hx

/-- The sign of a zero does not move it. -/
@[simp] theorem rank?_plainZero (x : Binary64) : x.plainZero.rank? = x.rank? := by
  cases x with
  | finite negative m =>
    by_cases h : m.units = 0
    · cases negative <;> simp [plainZero, rank?, signed, h]
    · simp [plainZero, Nat.pos_of_ne_zero h]
  | _ => rfl

/-- **The sign of a zero is not written.** -/
@[simp] theorem jsonText_plainZero (x : Binary64) : x.plainZero.jsonText = x.jsonText := by
  cases x with
  | finite negative m =>
    by_cases h : m.units = 0
    · have hw : m.isWhole = true ∧ m.ones = 0 := by simp [Magnitude.isWhole, Magnitude.ones, h]
      cases negative <;> simp [plainZero, jsonText, smallWhole?, isFinite, signed, h, hw]
    · simp [plainZero, Nat.pos_of_ne_zero h]
  | _ => rfl

/-- A small whole number is the integer that it is written as, but for the sign of a zero. -/
theorem ofInt_smallWhole {x : Binary64} {n : Int} (h : x.smallWhole? = some n) :
    ofInt n = x.plainZero := by
  cases x with
  | finite negative m =>
    simp only [smallWhole?] at h
    split at h
    · next hm =>
      obtain rfl := Option.some.inj h
      have hdvd : unitsPerOne ∣ m.units := by
        simp only [Magnitude.isWhole, Bool.and_eq_true, decide_eq_true_eq] at hm
        exact Nat.dvd_of_mod_eq_zero hm.1
      have hunits : m.ones * unitsPerOne = m.units := Nat.div_mul_cancel hdvd
      have hzero : m.units = 0 ↔ m.ones = 0 := by
        rw [← hunits, Nat.mul_eq_zero]
        have := unitsPerOne_pos
        omega
      have hneg : decide (signed negative m.ones < 0) = (negative && 0 < m.units) := by
        cases negative <;> simp [signed, Nat.pos_iff_ne_zero, hzero]
      have hnear := Magnitude.nearest?_units m 1 (by decide)
      rw [Nat.mul_one] at hnear
      rw [ofInt, Magnitude.ofNat?, natAbs_signed, hunits, hnear, hneg]
      rfl
    · cases h
  | _ => cases h

end Binary64

end JsonSieve
