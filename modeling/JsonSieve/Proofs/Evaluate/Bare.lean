/-
# Words without quotes

A literal without quotes means itself if it is no keyword and no number.  A number without a digit
is not finite: it is a word for infinity or for what is no number, in letters of any case, with a
sign or without (`read?_of_noDigit`).  So every other word that has no digit is a text, and a clause
that asks for it admits that text and no other; a word for such a number is a number, and admits no
text (`bare_means_itself`).
-/
import JsonSieve.Proofs.Evaluate.Negated
import JsonSieve.Proofs.Query.Lexical

namespace JsonSieve

/-! ## 1. Numbers without digits -/

/-- A text in which no digit stands. -/
def HasNoDigit (s : List Char) : Prop := ∀ c ∈ s, c.isDigit = false

/-- The words, in small letters, for numbers that are not finite. -/
def nonFiniteWords : List String := ["inf", "infinity", "nan"]

/-- A sign or none, and a word for a number that is not finite, in letters of any case. -/
def NamesNonFinite (s : List Char) : Prop :=
  ∃ sign ∈ [[], ['+'], ['-']], ∃ letters, s = sign ++ letters ∧
    ∃ word ∈ nonFiniteWords, letters.map Char.toLower = word.toList

section

variable {s : List Char}

/-- What follows the sign is the end of the text. -/
theorem splitSign_suffix (s : List Char) : (splitSign s).2 <:+ s := by
  unfold splitSign
  split
  · exact List.suffix_cons _ _
  · exact List.suffix_cons _ _
  · exact List.suffix_rfl

theorem HasNoDigit.splitSign (h : HasNoDigit s) : HasNoDigit (splitSign s).2 :=
  fun c hc => h c ((splitSign_suffix s).mem hc)

/-- No word for a number that is not finite begins with a sign. -/
theorem splitSign_of_letters {word : String} (hword : word ∈ nonFiniteWords)
    (h : s.map Char.toLower = word.toList) : (splitSign s).2 = s := by
  have hsigns : ∀ word ∈ nonFiniteWords,
      word.toList.head? ≠ some '-' ∧ word.toList.head? ≠ some '+' := by
    simp [nonFiniteWords]
  obtain ⟨hminus, hplus⟩ := hsigns word hword
  rw [← h] at hminus hplus
  unfold splitSign
  split
  · exact absurd rfl hminus
  · exact absurd rfl hplus
  · rfl

theorem namesNonFinite_iff :
    NamesNonFinite s ↔ ∃ word ∈ nonFiniteWords, isWordInAnyCase word (splitSign s).2 = true := by
  simp only [isWordInAnyCase, beq_iff_eq]
  constructor
  · rintro ⟨sign, hsign, letters, rfl, word, hword, h⟩
    refine ⟨word, hword, ?_⟩
    simp only [List.mem_cons, List.not_mem_nil, or_false] at hsign
    rcases hsign with rfl | rfl | rfl
    · rwa [List.nil_append, splitSign_of_letters hword h]
    · exact h
    · exact h
  · rintro ⟨word, hword, h⟩
    have hsplit : ∃ sign ∈ [[], ['+'], ['-']], s = sign ++ (splitSign s).2 := by
      unfold splitSign
      split
      · exact ⟨['-'], by simp, rfl⟩
      · exact ⟨['+'], by simp, rfl⟩
      · exact ⟨[], by simp, rfl⟩
    obtain ⟨sign, hsign, hs⟩ := hsplit
    exact ⟨sign, hsign, _, hs, word, hword, h⟩

/-- A run of digits that is not there. -/
theorem splitDigits_of_noDigit (h : HasNoDigit s) : splitDigits s = ([], s) := by
  have hends : Ends Char.isDigit s := fun c hc => h c (List.mem_of_mem_head? hc)
  have htake := takeWhile_append_of_ends (List.forall_mem_nil _) hends
  have hdrop := dropWhile_append_of_ends (List.forall_mem_nil _) hends
  exact Prod.ext htake hdrop

/-- **No integer is without digits.** -/
theorem readWord?_of_noDigit (h : HasNoDigit s) : readWord? s = none := by
  have hnatural : readNatural? (splitSign s).2 = none := by
    have hnone := h.splitSign
    unfold readNatural?
    cases heq : (splitSign s).2 with
    | nil => rfl
    | cons c t =>
      have hc : c.isDigit = false := hnone c (heq ▸ List.mem_cons_self)
      simp [hc]
  simp [readWord?, readInteger?, hnatural]

/-- **No decimal is without digits.** -/
theorem readDecimal?_of_noDigit (h : HasNoDigit s) : readDecimal? s = none := by
  simp only [readDecimal?, splitDigits_of_noDigit h]
  split
  · next t =>
    have ht : HasNoDigit t := fun c hc => h c (List.mem_cons_of_mem _ hc)
    rw [splitDigits_of_noDigit ht]
    rfl
  · rfl

/-- **A text without digits is no number** unless it names one that is not finite. -/
theorem read?_of_noDigit (h : HasNoDigit s) :
    (NamesNonFinite s ∧ ∃ x, Binary64.read? s = some x ∧ x.isFinite = false) ∨
      (¬ NamesNonFinite s ∧ Binary64.read? s = none) := by
  simp only [namesNonFinite_iff, nonFiniteWords, List.mem_cons, List.not_mem_nil, or_false,
    exists_eq_or_imp, exists_eq_left, Binary64.read?, readDecimal?_of_noDigit h.splitSign]
  split
  · next hinfinite =>
    have hword := Bool.or_eq_true_iff.mp hinfinite
    exact .inl ⟨or_assoc.mp (.inl hword), _, rfl, rfl⟩
  · next hinfinite =>
    obtain ⟨hinf, hinfinity⟩ := not_or.mp (mt Bool.or_eq_true_iff.mpr hinfinite)
    split
    · next hnan => exact .inl ⟨.inr (.inr hnan), _, rfl, rfl⟩
    · next hnan => exact .inr ⟨not_or.mpr ⟨hinf, not_or.mpr ⟨hinfinity, hnan⟩⟩, rfl⟩

end

/-! ## 2. The literal -/

/-- A literal without quotes: one character of literals or more. -/
def IsBare (s : List Char) : Prop := s ≠ [] ∧ ∀ c ∈ s, isLiteralChar c = true

/-- A literal without quotes is its own content. -/
theorem unquote_of_bare {s : List Char} (h : IsBare s) : unquote s = s := by
  unfold unquote
  split
  · exact absurd (h.2 '"' List.mem_cons_self) (by decide)
  · rfl

section

variable {t : String}

/-- **A word without digits that is no keyword** is the number that it names, or else a text. -/
theorem typed_of_noDigit (hdigits : HasNoDigit t.toList)
    (hkeyword : t ∉ ["true", "false", "null"]) :
    (NamesNonFinite t.toList ∧ ∃ x, Literal.typed t = .real x ∧ x.isFinite = false) ∨
      (¬ NamesNonFinite t.toList ∧ Literal.typed t = .text t) := by
  simp only [List.mem_cons, List.not_mem_nil, or_false, not_or] at hkeyword
  obtain ⟨htrue, hfalse, hnull⟩ := hkeyword
  rw [Literal.typed, if_neg htrue, if_neg hfalse, if_neg hnull, readWord?_of_noDigit hdigits]
  rcases read?_of_noDigit hdigits with ⟨hnames, x, hx, hfinite⟩ | ⟨hnames, hnone⟩
  · rw [hx]
    exact .inl ⟨hnames, x, rfl, hfinite⟩
  · rw [hnone]
    exact .inr ⟨hnames, rfl⟩

end

namespace Filter

variable {k t : String} {v : Json} {s : String}

/-- A literal that is a text admits that text and no other. -/
theorem admits_bare_text (hbare : IsBare t.toList) (htext : Literal.typed t = .text t)
    (hfield : v.get? k = some (.string s)) :
    (⟨k, .strictEq, t⟩ : Filter).admits v = true ↔ s = t := by
  have hverdict : (⟨k, .strictEq, t⟩ : Filter).admits v =
      (sameAs? (.text t) (.text s) == some true) := by
    rw [admits_of_get? _ hfield, ← htext]
    rfl
  rw [hverdict]
  simp [sameAs?, unquote_of_bare hbare, String.toList_inj]

/-- A literal that is a number admits no text. -/
theorem admits_bare_real {x : Binary64} (hreal : Literal.typed t = .real x)
    (hfield : v.get? k = some (.string s)) : (⟨k, .strictEq, t⟩ : Filter).admits v = false := by
  have hverdict : (⟨k, .strictEq, t⟩ : Filter).admits v =
      (sameAs? (.real x) (.text s) == some true) := by
    rw [admits_of_get? _ hfield, ← hreal]
    rfl
  rw [hverdict]
  rfl

end Filter

namespace Query

variable {t : String}

/-- **A word without quotes means itself** if it has no digit, is no keyword and names no number: a
clause that asks for it admits that text and no other.  If it names a number, that number is not
finite, and the clause admits no text. -/
theorem bare_means_itself (hbare : IsBare t.toList) (hdigits : HasNoDigit t.toList)
    (hkeyword : t ∉ ["true", "false", "null"]) :
    (∀ k : String, IsName k.toList →
      compile (asking k t) = .ok (.node [⟨k, .strictEq, t⟩] [] [])) ∧
    (¬ NamesNonFinite t.toList →
      Literal.typed t = .text t ∧
      ∀ (k : String) (v : Json) (s : String), v.get? k = some (.string s) →
        ((⟨k, .strictEq, t⟩ : Filter).admits v = true ↔ s = t)) ∧
    (NamesNonFinite t.toList →
      (∃ x, Literal.typed t = .real x ∧ x.isFinite = false) ∧
      ∀ (k : String) (v : Json) (s : String), v.get? k = some (.string s) →
        (⟨k, .strictEq, t⟩ : Filter).admits v = false) := by
  refine ⟨fun k hk => compile_asking hk (.bare hbare.1 hbare.2), ?_⟩
  rcases typed_of_noDigit hdigits hkeyword with ⟨hnames, x, hreal, hfinite⟩ | ⟨hnames, htext⟩
  · refine ⟨fun h => absurd hnames h, fun _ => ⟨⟨x, hreal, hfinite⟩, fun k v s hfield => ?_⟩⟩
    exact Filter.admits_bare_real hreal hfield
  · refine ⟨fun _ => ⟨htext, fun k v s hfield => ?_⟩, fun h => absurd h hnames⟩
    exact Filter.admits_bare_text hbare htext hfield

/-- A word that goes on where one for infinity ends, and one that stops there. -/
theorem bare_means_itself_info :
    (¬ NamesNonFinite "info".toList ∧ Literal.typed "info" = .text "info") ∧
    (NamesNonFinite "-iNf".toList ∧
      ∃ x, Literal.typed "-iNf" = .real x ∧ x.isFinite = false) := by
  have hinfoBare : IsBare "info".toList := ⟨by decide, List.all_eq_true.mp (by decide)⟩
  have hinfBare : IsBare "-iNf".toList := ⟨by decide, List.all_eq_true.mp (by decide)⟩
  have hinfoDigits : HasNoDigit "info".toList := by simp [HasNoDigit]
  have hinfDigits : HasNoDigit "-iNf".toList := by simp [HasNoDigit]
  have hinfo : ¬ NamesNonFinite "info".toList := by
    rw [namesNonFinite_iff]
    decide
  have hinf : NamesNonFinite "-iNf".toList := namesNonFinite_iff.mpr (by decide)
  refine ⟨⟨hinfo, ?_⟩, ⟨hinf, ?_⟩⟩
  · exact ((bare_means_itself hinfoBare hinfoDigits (by decide)).2.1 hinfo).1
  · exact ((bare_means_itself hinfBare hinfDigits (by decide)).2.2 hinf).1

/-- **A word without digits that does not mean itself:** it is the number infinity. -/
theorem bare_infinite :
    IsBare "inf".toList ∧ HasNoDigit "inf".toList ∧ "inf" ∉ ["true", "false", "null"] ∧
    Literal.typed "inf" = .real (.infinite false) ∧
    compile (asking "k" "inf") = .ok (.node [⟨"k", .strictEq, "inf"⟩] [] []) ∧
    (⟨"k", .strictEq, "inf"⟩ : Filter).admits (.object [("k", .string "inf")]) = false := by
  have hbare : IsBare "inf".toList := ⟨by decide, List.all_eq_true.mp (by decide)⟩
  have hname : IsName "k".toList := ⟨by decide, List.all_eq_true.mp (by decide)⟩
  have hdigits : HasNoDigit "inf".toList := by simp [HasNoDigit]
  refine ⟨hbare, hdigits, by decide, by decide +kernel, ?_, by decide +kernel⟩
  exact compile_asking hname (.bare hbare.1 hbare.2)

end Query

end JsonSieve
