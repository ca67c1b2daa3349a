/-
# The text of a string reads back

Between its quotes a string is written character by character: the five escapes with a name, a
number of four digits for every other control character, and all else as it is.  One character is
read back by one step (`readChars_escape`), so a string is read back by as many steps as it has
characters (`readString_quote`).
-/
import JsonSieve.Json.Read
import JsonSieve.Json.Write

namespace JsonSieve.Json.Reader

/-! ## 1. Numbered characters -/

theorem hexValue?_digitChar : ∀ d < 16, hexValue? (Nat.digitChar d) = some d := by decide

theorem utf8Size_digitChar : ∀ d < 16, (Nat.digitChar d).utf8Size = 1 := by decide

/-- Two zeros and two digits are read as the number of the two digits. -/
theorem readUnit_digits {n : Nat} (hn : n < 256) (s : List Char) :
    readUnit ('0' :: '0' :: Nat.digitChar (n / 16) :: Nat.digitChar (n % 16) :: s) =
      .ok (n, s) := by
  have hhigh : n / 16 < 16 := by omega
  have hlow : n % 16 < 16 := by omega
  have hzero : hexValue? '0' = some 0 := hexValue?_digitChar 0 (by decide)
  have hsize : '0'.utf8Size = 1 := rfl
  have hvalue : 16 * (n / 16) + n % 16 = n := by omega
  simp [readUnit, hexNumber?, hzero, hsize, hexValue?_digitChar _ hhigh, hexValue?_digitChar _ hlow,
    utf8Size_digitChar _ hhigh, utf8Size_digitChar _ hlow, hvalue]

/-- **A control character is read back from its number.** -/
theorem readEscape_control {c : Char} (h : isControl c = true) (s : List Char) :
    readEscape ('u' :: '0' :: '0' :: Nat.digitChar (c.toNat / 16) :: Nat.digitChar (c.toNat % 16) ::
      s) = .ok (c, s) := by
  have hc : c.toNat < 0xA0 := by
    simp only [isControl, Bool.or_eq_true, Bool.and_eq_true, decide_eq_true_eq] at h
    omega
  have hlow : c.toNat < 0xD800 := by omega
  have hu : simpleEscape? 'u' = none := rfl
  simp [readEscape, hu, readNumbered, readUnit_digits (n := c.toNat) (by omega), bind, Except.bind,
    hlow]

/-! ## 2. One character -/

variable {fuel : Nat}

theorem readChars_backslash {c : Char} {s t : List Char} (h : readEscape s = .ok (c, t)) :
    readChars (fuel + 1) ('\\' :: s) =
      (readChars fuel t).map fun read => (c :: read.1, read.2) := by
  rw [readChars, if_neg (by decide), if_neg (by decide), if_pos rfl, h]
  rfl

theorem readChars_plain {c : Char} {s : List Char} (hq : c ≠ '"') (hb : c ≠ '\\')
    (hc : isControl c = false) :
    readChars (fuel + 1) (c :: s) = (readChars fuel s).map fun read => (c :: read.1, read.2) := by
  have hlow : ¬ c.toNat < 0x20 := by
    simp only [isControl, Bool.or_eq_false_iff, decide_eq_false_iff_not] at hc
    exact hc.1
  rw [readChars, if_neg hq, if_neg hlow, if_neg hb]
  rfl

/-- **What stands for a character is read as that character.** -/
theorem readChars_escape (c : Char) (s : List Char) :
    readChars (fuel + 1) (escape c ++ s) =
      (readChars fuel s).map fun read => (c :: read.1, read.2) := by
  rw [escape]
  split
  · next h =>
    subst h
    exact readChars_backslash rfl
  split
  · next h =>
    subst h
    exact readChars_backslash rfl
  split
  · next h =>
    subst h
    exact readChars_backslash rfl
  split
  · next h =>
    subst h
    exact readChars_backslash rfl
  split
  · next h =>
    subst h
    exact readChars_backslash rfl
  split
  · next h => exact readChars_backslash (readEscape_control h s)
  · next hq hb _ _ _ hc => exact readChars_plain hq hb (by simpa using hc)

/-! ## 3. Strings -/

theorem readChars_escapes : ∀ {cs rest : List Char} {fuel : Nat}, cs.length < fuel →
    readChars fuel (cs.flatMap escape ++ '"' :: rest) = .ok (cs, rest)
  | _, _, 0, h => absurd h (Nat.not_lt_zero _)
  | [], rest, fuel + 1, _ => by
    rw [List.flatMap_nil, List.nil_append, readChars, if_pos rfl]
  | c :: cs, rest, fuel + 1, h => by
    rw [List.flatMap_cons, List.append_assoc, readChars_escape,
      readChars_escapes (Nat.lt_of_succ_lt_succ h)]
    rfl

theorem escape_ne_nil (c : Char) : escape c ≠ [] := by
  rw [escape]
  repeat' split
  all_goals simp

theorem length_le_length_escapes (cs : List Char) :
    cs.length ≤ (cs.flatMap escape).length := by
  induction cs with
  | nil => exact Nat.le_refl _
  | cons c cs ih =>
    have := List.length_pos_iff.mpr (escape_ne_nil c)
    simp only [List.flatMap_cons, List.length_append, List.length_cons]
    omega

/-- **A string is read back from its text,** whatever stands behind it. -/
theorem readString_quote (s : String) (rest : List Char) :
    readString (s.toList.flatMap escape ++ '"' :: rest) = .ok (s, rest) := by
  have hlen := length_le_length_escapes s.toList
  rw [readString, readChars_escapes (by simp only [List.length_append, List.length_cons]; omega)]
  simp [Except.map]

end JsonSieve.Json.Reader
