/-
# Blanks, and texts inside texts

Which characters separate the words of a query, and the trimming of a piece of text at both ends.
A blank is a code point with the property `White_Space`: twenty-five of them, most of them
outside ASCII, so the class is a small table and not a test on the ASCII range.

Whether a text occurs inside another one is tried at every place of it, from the left.
-/

namespace JsonSieve.Text

/-! ## 1. Blanks -/

/-- The runs of code points that have the property `White_Space`, each given by its ends. -/
def blankRuns : List (Nat × Nat) :=
  [(0x09, 0x0D), (0x20, 0x20), (0x85, 0x85), (0xA0, 0xA0), (0x1680, 0x1680), (0x2000, 0x200A),
   (0x2028, 0x2029), (0x202F, 0x202F), (0x205F, 0x205F), (0x3000, 0x3000)]

/-- A character that separates words and means nothing else (`is_whitespace`). -/
def isBlank (c : Char) : Bool :=
  blankRuns.any fun run => run.1 ≤ c.toNat && c.toNat ≤ run.2

/-- The blanks that core knows are blanks here too. -/
theorem isBlank_of_isWhitespace {c : Char} (h : c.isWhitespace = true) : isBlank c = true := by
  simp only [Char.isWhitespace, Bool.or_eq_true, decide_eq_true_eq] at h
  rcases h with ((rfl | rfl) | rfl) | rfl <;> decide

/-! ## 2. Trimming -/

/-- The text without the blanks it opens with. -/
def dropBlanks (s : List Char) : List Char := s.dropWhile isBlank

/-- The text without the blanks at either end (`trim`). -/
def trim (s : List Char) : List Char := (dropBlanks (dropBlanks s).reverse).reverse

/-- **Dropping blanks leaves nothing to drop.** -/
theorem head_dropBlanks : ∀ {s : List Char} {c : Char} {r : List Char},
    dropBlanks s = c :: r → isBlank c = false
  | [], _, _, h => by simp [dropBlanks] at h
  | d :: s, c, r, h => by
    by_cases hd : isBlank d = true
    · exact head_dropBlanks (s := s) (by simpa [dropBlanks, hd] using h)
    · have hd : isBlank d = false := by simpa using hd
      simp only [dropBlanks, List.dropWhile_cons, hd, Bool.false_eq_true, if_false,
        List.cons.injEq] at h
      exact h.1 ▸ hd

/-! ## 3. Occurrence -/

/-- Whether `needle` stands somewhere inside the text, without a gap (`contains` of texts).  The
empty text stands inside every text. -/
def occursIn (needle : List Char) : List Char → Bool
  | [] => needle.isEmpty
  | c :: s => needle.isPrefixOf (c :: s) || occursIn needle s

/-- **A text occurs exactly where something before it and something after it make up the whole.** -/
theorem occursIn_iff (needle : List Char) : ∀ s : List Char,
    occursIn needle s = true ↔ ∃ before after, s = before ++ needle ++ after
  | [] => by
    simp only [occursIn, List.isEmpty_iff]
    constructor
    · rintro rfl
      exact ⟨[], [], rfl⟩
    · rintro ⟨before, after, h⟩
      cases needle <;> simp_all
  | c :: s => by
    simp only [occursIn, Bool.or_eq_true, List.isPrefixOf_iff_prefix, occursIn_iff needle s]
    constructor
    · rintro (⟨after, h⟩ | ⟨before, after, rfl⟩)
      · exact ⟨[], after, by simpa using h.symm⟩
      · exact ⟨c :: before, after, rfl⟩
    · rintro ⟨before, after, h⟩
      cases before with
      | nil => exact Or.inl ⟨after, by simpa using h.symm⟩
      | cons d before =>
        simp only [List.cons_append, List.cons.injEq] at h
        exact Or.inr ⟨before, after, h.2⟩

end JsonSieve.Text
