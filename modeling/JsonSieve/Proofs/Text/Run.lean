/-
# Runs of characters

A run of characters of one kind reaches as far as the text goes on with them.  Where it ends, the
text begins with a character of another kind or is over (`Ends`), and there the run and what follows
it can be told apart again.
-/

namespace JsonSieve

variable {p : Char → Bool} {s r : List Char}

/-- A text that does not go on with a character of a kind. -/
def Ends (p : Char → Bool) (s : List Char) : Prop := ∀ c ∈ s.head?, p c = false

/-! ## 1. What ends a run -/

theorem ends_nil (p : Char → Bool) : Ends p [] := fun _ h => absurd h (by simp)

theorem ends_cons {c : Char} : Ends p (c :: s) ↔ p c = false := by
  simp [Ends]

theorem ends_dropWhile (p : Char → Bool) (s : List Char) : Ends p (s.dropWhile p) := by
  intro c hc
  have h := List.head?_dropWhile_not p s
  rw [Option.mem_def.mp hc] at h
  simpa using h

/-- What ends a run of some characters ends a run of fewer kinds of them. -/
theorem Ends.mono {q : Char → Bool} (hqp : ∀ c, q c = true → p c = true) (h : Ends p s) :
    Ends q s := by
  intro c hc
  cases hq : q c with
  | false => rfl
  | true =>
    have hp := hqp c hq
    rw [h c hc] at hp
    cases hp

/-- Characters of another kind before the end of a run end it. -/
theorem Ends.append (hs : ∀ c ∈ s, p c = false) (hr : Ends p r) : Ends p (s ++ r) := by
  cases s with
  | nil => exact hr
  | cons c s => exact ends_cons.mpr (hs c List.mem_cons_self)

theorem Ends.of_append (h : Ends p (s ++ r)) (hs : s ≠ []) : Ends p s := by
  cases s with
  | nil => exact absurd rfl hs
  | cons c s => exact ends_cons.mpr (ends_cons.mp h)

theorem Ends.append_of_ne_nil (h : Ends p s) (hs : s ≠ []) : Ends p (s ++ r) := by
  cases s with
  | nil => exact absurd rfl hs
  | cons c s => exact ends_cons.mpr (ends_cons.mp h)

/-- A run of characters of one kind ends where characters of another kind begin. -/
theorem ends_append_of_all {q : Char → Bool} (hs : s ≠ []) (hq : ∀ c ∈ s, q c = true)
    (hqp : ∀ c, q c = true → p c = false) (r : List Char) : Ends p (s ++ r) := by
  cases s with
  | nil => exact absurd rfl hs
  | cons c s => exact ends_cons.mpr (hqp c (hq c List.mem_cons_self))

/-! ## 2. Telling them apart -/

/-- A run of characters of a kind that is not continued is what `takeWhile` takes. -/
theorem takeWhile_append_of_ends (hs : ∀ c ∈ s, p c = true) (hr : Ends p r) :
    (s ++ r).takeWhile p = s := by
  rw [List.takeWhile_append_of_pos hs]
  cases r with
  | nil => simp
  | cons c r => simp [ends_cons.mp hr]

/-- And `dropWhile` leaves what follows it. -/
theorem dropWhile_append_of_ends (hs : ∀ c ∈ s, p c = true) (hr : Ends p r) :
    (s ++ r).dropWhile p = r := by
  rw [List.dropWhile_append_of_pos hs]
  cases r with
  | nil => rfl
  | cons c r => simp [ends_cons.mp hr]

end JsonSieve
