/-
# What is the same is alike, but for quotes

A field that is the same as a literal is like it too, if there is a field at all: the operator `==`
asks for one element of an array and `===` for all, and on scalars both look at the same verdict
unless the literal is a text.  Then `==` takes the quotes out of the literal before it looks for it,
and it leaves them in the field.  A text without its quotes stands in the text itself just if the
quotes stand at its ends (`occursIn_unquoted_iff`).  So a literal with a quote between two other
characters is the same as its own text and not like it, and there is no such field for any other
literal (`looseEq_of_strictEq_iff`).
-/
import JsonSieve.Proofs.Evaluate.Ordered
import JsonSieve.Proofs.Query.Grammar

namespace JsonSieve

/-! ## 1. Texts without their quotes -/

/-- Whether all quotes of a text stand at its ends: quotes, a text without quotes, and quotes. -/
def QuotesAtEnds (t : List Char) : Prop :=
  ∃ before body after, t = before ++ body ++ after ∧
    (∀ c ∈ before, c = '"') ∧ '"' ∉ body ∧ (∀ c ∈ after, c = '"')

theorem unquoted_eq_nil_iff {s : List Char} :
    s.filter (· != '"') = [] ↔ ∀ c ∈ s, c = '"' := by
  simp [List.filter_eq_nil_iff]

theorem unquoted_eq_self {s : List Char} (h : '"' ∉ s) : s.filter (· != '"') = s :=
  List.filter_eq_self.mpr fun _ hc => bne_iff_ne.mpr fun e => h (e ▸ hc)

/-- **A text holds what is left of it without its quotes** just if they all stand at its ends. -/
theorem occursIn_unquoted_iff {t : List Char} :
    Text.occursIn (t.filter (· != '"')) t = true ↔ QuotesAtEnds t := by
  rw [Text.occursIn_iff]
  constructor
  · rintro ⟨before, after, ht⟩
    have hbody : '"' ∉ t.filter (· != '"') := by simp
    -- what is left of the whole is left of its middle alone
    have hlength := congrArg (fun s => (s.filter (· != '"')).length) ht
    simp only [List.filter_append, List.length_append, unquoted_eq_self hbody] at hlength
    refine ⟨before, _, after, ht, unquoted_eq_nil_iff.mp ?_, hbody, unquoted_eq_nil_iff.mp ?_⟩
    · exact List.length_eq_zero_iff.mp (by omega)
    · exact List.length_eq_zero_iff.mp (by omega)
  · rintro ⟨before, body, after, rfl, hbefore, hbody, hafter⟩
    refine ⟨before, after, ?_⟩
    rw [List.filter_append, List.filter_append, unquoted_eq_nil_iff.mpr hbefore,
      unquoted_eq_nil_iff.mpr hafter, unquoted_eq_self hbody, List.nil_append, List.append_nil]

/-! ## 2. Scalars -/

/-- The quotes of a literal, if it is a text, stand at the ends of its content. -/
def Filter.QuotesAside (f : Filter) : Prop := f.literal.family = .text → QuotesAtEnds f.content

namespace Filter

section

variable {f : Filter} {s : Scalar}

/-- A text literal that is the same as a scalar is like it just if its quotes stand aside. -/
theorem compares_looseEq_iff_of_strictEq (hsame : (f.withOp .strictEq).compares s = true) :
    (f.withOp .looseEq).compares s = true ↔ f.QuotesAside := by
  have hverdict : sameAs? f.literal s = some true := beq_iff_eq.mp hsame
  show looselyEquals f.literal s = true ↔ _
  by_cases hfamily : f.literal.family = .text
  · rw [QuotesAside, imp_iff_right hfamily, ← occursIn_unquoted_iff]
    rw [literal_eq_text hfamily] at hverdict ⊢
    cases s with
    | text t =>
      have ht : t.toList = f.content := beq_iff_eq.mp (Option.some.inj hverdict)
      rw [looselyEquals, ht]
      rfl
    | _ => cases hverdict
  · rw [looselyEquals_of_family_ne hfamily, hverdict]
    exact iff_of_true rfl fun h => absurd h hfamily

end

/-! ## 3. Fields -/

section

variable {f : Filter} {field : Json}

/-- **What is the same as a literal** with its quotes aside is like it, if it is no empty array. -/
theorem accepts_looseEq_of_strictEq (hquotes : f.QuotesAside) (hne : field ≠ .array [])
    (hsame : (f.withOp .strictEq).accepts (.ofJson field) = true) :
    (f.withOp .looseEq).accepts (.ofJson field) = true := by
  cases field with
  | array es =>
    rw [accepts_array, Option.any_eq_true] at hsame ⊢
    obtain ⟨ss, hes, hsame⟩ := hsame
    obtain ⟨hfamily, hall⟩ := Bool.and_eq_true_iff.mp hsame
    refine ⟨ss, hes, Bool.and_eq_true_iff.mpr ⟨hfamily, ?_⟩⟩
    cases ss with
    | nil =>
      obtain rfl : es = [] := List.map_eq_nil_iff.mp (mapM_eq_some_iff.mp hes)
      exact absurd rfl hne
    | cons s ss =>
      have hs := List.all_eq_true.mp hall s List.mem_cons_self
      exact List.any_eq_true.mpr
        ⟨s, List.mem_cons_self, (compares_looseEq_iff_of_strictEq hs).mpr hquotes⟩
  | _ =>
    rw [accepts_of_not_array _ rfl, Option.any_eq_true] at hsame ⊢
    obtain ⟨s, hs, hsame⟩ := hsame
    exact ⟨s, hs, (compares_looseEq_iff_of_strictEq hsame).mpr hquotes⟩

end

/-- **A literal is like every field that it is the same as,** empty arrays apart, just if its quotes
stand aside. -/
theorem looseEq_of_strictEq_iff (f : Filter) :
    (∀ v field, v.get? f.key = some field → field ≠ .array [] →
      (f.withOp .strictEq).admits v = true → (f.withOp .looseEq).admits v = true) ↔
      f.QuotesAside := by
  constructor
  · intro h hfamily
    -- the field that is the literal's own text
    have hsame : (f.withOp .strictEq).compares (.text (String.ofList f.content)) = true := by
      show (sameAs? f.literal _ == some true) = true
      rw [literal_eq_text hfamily]
      simp [sameAs?, content]
    obtain ⟨v, hget⟩ := f.exists_get? (.string (String.ofList f.content))
    have hlike := h _ _ hget (by simp) ((admits_of_get? (f.withOp .strictEq) hget).trans hsame)
    rw [admits_of_get? (f.withOp .looseEq) hget] at hlike
    exact (compares_looseEq_iff_of_strictEq hsame).mp hlike hfamily
  · intro hquotes v field hget hne hsame
    rw [admits_of_get? (f.withOp .strictEq) hget] at hsame
    rw [admits_of_get? (f.withOp .looseEq) hget]
    exact accepts_looseEq_of_strictEq hquotes hne hsame

/-- **A literal with a quote inside** is the same as its text and not like it. -/
theorem strictEq_not_looseEq :
    IsLiteral "\"a\\\"b\"".toList ∧
    (⟨"k", .strictEq, "\"a\\\"b\""⟩ : Filter).admits (.object [("k", .string "a\"b")]) = true ∧
    (⟨"k", .looseEq, "\"a\\\"b\""⟩ : Filter).admits (.object [("k", .string "a\"b")]) = false := by
  have hcloses : ClosesQuote ['a', '\\', '"', 'b', '"'] :=
    .plain (by decide) (by decide) (.escaped '"' (.plain (by decide) (by decide) .quote))
  exact ⟨.quoted hcloses, by decide +kernel, by decide +kernel⟩

end Filter

end JsonSieve
