/-
# Every text as a literal

Any text can be asked for in a query: with a backslash before every quote and every backslash, and
quotes around it, it is a literal that means the text itself.  Three readings of it have to agree:
where the literal ends (`closesQuote_protect`), of which type it is (`typed_quoted`), and what its
content is (`unquote_protect`, beside `protect`).

So the query `exactly k t` compiles, and its one clause admits exactly the objects whose field is
the text `t` or an array of nothing else (`compile_exactly`).  A number or a keyword between quotes
is a text like any other.
-/
import JsonSieve.Proofs.Evaluate.Numbers
import JsonSieve.Proofs.Outcome
import JsonSieve.Proofs.Query.Lexical

namespace JsonSieve

/-! ## 1. The literal -/

/-- A text as it stands in a query, between quotes and protected. -/
def literalOf (t : String) : String := String.ofList ('"' :: protect t.toList ++ ['"'])

/-- **A protected text is closed** by the quote that is put behind it, and by none before. -/
theorem closesQuote_protect : ∀ s : List Char, ClosesQuote (protect s ++ ['"'])
  | [] => .quote
  | c :: s => by
    have ih := closesQuote_protect s
    unfold protect
    split
    · exact .escaped c ih
    · next hc =>
      simp only [Bool.or_eq_true, decide_eq_true_eq, not_or] at hc
      exact .plain hc.1 hc.2 ih

theorem readWord?_quoted (s : List Char) : readWord? ('"' :: s) = none := by
  simp [readWord?, readInteger?, splitSign, readNatural?]

theorem readDecimal?_quoted (s : List Char) : readDecimal? ('"' :: s) = none := by
  simp [readDecimal?, splitDigits]

theorem read?_quoted (s : List Char) : Binary64.read? ('"' :: s) = none := by
  simp [Binary64.read?, splitSign, isWordInAnyCase, readDecimal?_quoted]

/-- **What begins with a quote is a text,** whatever stands between the quotes. -/
theorem typed_quoted (s : List Char) :
    Literal.typed (String.ofList ('"' :: s)) = .text (String.ofList ('"' :: s)) := by
  have hword : ∀ c w, c ≠ '"' → String.ofList ('"' :: s) ≠ String.ofList (c :: w) := by
    intro c w hc h
    exact hc (List.cons.inj (String.ofList_injective h)).1.symm
  unfold Literal.typed
  rw [if_neg (hword 't' _ (by decide)), if_neg (hword 'f' _ (by decide)),
    if_neg (hword 'n' _ (by decide)), String.toList_ofList, readWord?_quoted, read?_quoted]

theorem unquote_literalOf (t : String) : unquote (literalOf t).toList = t.toList := by
  rw [literalOf, String.toList_ofList, unquote_protect]

/-! ## 2. The clause -/

/-- The clause that asks for a field to be a text and nothing else. -/
def Filter.exactly (k t : String) : Filter := ⟨k, .strictEq, literalOf t⟩

namespace Filter

variable {k t : String}

theorem literal_exactly : (exactly k t).literal = .text (literalOf t) := typed_quoted _

/-- **One scalar only** is what is asked for: the text. -/
theorem compares_exactly (s : Scalar) : (exactly k t).compares s = true ↔ s = .text t := by
  simp only [compares, literal_exactly]
  show (sameAs? (.text (literalOf t)) s == some true) = true ↔ _
  cases s with
  | text u => simp [sameAs?, unquote_literalOf, String.toList_inj]
  | _ => simp [sameAs?, numbersEqual?, Literal.toReal?]

theorem scalar?_eq_text_iff {v : Json} : v.scalar? = some (.text t) ↔ v = .string t := by
  cases v with
  | number n =>
    cases n with
    | integer n =>
      simp only [Json.scalar?, Number.toScalar]
      split <;> simp
    | real x => simp [Json.scalar?, Number.toScalar]
  | _ => simp [Json.scalar?]

theorem acceptsAll_exactly {ss : List Scalar} :
    (exactly k t).acceptsAll ss = true ↔ ∀ s ∈ ss, s = .text t := by
  have haccepts : (exactly k t).accepts (.scalars ss) = ss.all (exactly k t).compares := rfl
  simp only [acceptsAll, haccepts, Bool.and_eq_true, List.all_eq_true, compares_exactly]
  refine and_iff_right_of_imp fun h => ofOneFamily_iff.mpr fun s hs u hu => ?_
  rw [h s hs, h u hu]

/-- **An array is accepted** if all its elements are the text, also if it has none. -/
theorem accepts_exactly_array {es : List Json} :
    (exactly k t).accepts (.ofJson (.array es)) = true ↔ ∀ e ∈ es, e = .string t := by
  simp only [accepts_array, Option.any_eq_true, mapM_eq_some_iff, acceptsAll_exactly,
    ← scalar?_eq_text_iff]
  constructor
  · rintro ⟨ss, hes, hss⟩ e he
    obtain ⟨s, hs, heq⟩ := exists_of_mem_of_map_eq hes he
    rw [heq, hss s hs]
  · intro h
    refine ⟨es.map fun _ => .text t, ?_, ?_⟩
    · rw [List.map_map]
      exact List.map_congr_left h
    · intro s hs
      obtain ⟨_, _, rfl⟩ := List.mem_map.mp hs
      rfl

/-- **Any field is accepted** that is the text or an array of nothing else. -/
theorem accepts_exactly {v : Json} :
    (exactly k t).accepts (.ofJson v) = true ↔
      v = .string t ∨ ∃ es, v = .array es ∧ ∀ e ∈ es, e = .string t := by
  cases v with
  | array es => simp [accepts_exactly_array]
  | _ =>
    rw [accepts_of_not_array _ rfl, Option.any_eq_true]
    simp [compares_exactly, scalar?_eq_text_iff]

end Filter

/-! ## 3. The query -/

namespace Query

/-- The query that asks for a field to be a text and nothing else. -/
def exactly (k t : String) : String := "(" ++ k ++ " === " ++ literalOf t ++ ")\x7b\x7d"

variable {k t : String}

/-- **The query is read** as the one clause that it holds. -/
theorem compile_exactly_eq (hk : IsName k.toList) :
    compile (exactly k t) = .ok (.node [Filter.exactly k t] [] []) := by
  have hliteral : IsLiteral (literalOf t).toList := by
    rw [literalOf, String.toList_ofList]
    exact .quoted (closesQuote_protect t.toList)
  exact compile_asking hk hliteral

/-- **Every text can be asked for:** the query compiles to one clause, whose content is the text,
and which admits just the objects whose field is the text or an array of nothing else.  In
particular no number, boolean or null is taken for a text that looks like it. -/
theorem compile_exactly (hk : IsName k.toList) :
    ∃ f : Filter, compile (exactly k t) = .ok (.node [f] [] []) ∧
      f.content = t.toList ∧ f.literal.content = t ∧
      (∀ v : Json, f.admits v = true ↔ ∃ field, v.get? k = some field ∧
        (field = .string t ∨ ∃ es, field = .array es ∧ ∀ e ∈ es, e = .string t)) ∧
      ∀ v field : Json, v.get? k = some field → field.kind.isScalar = true →
        field.kind ≠ .string → f.admits v = false := by
  have hadmits : ∀ v : Json, (Filter.exactly k t).admits v = true ↔
      ∃ field, v.get? k = some field ∧
        (field = .string t ∨ ∃ es, field = .array es ∧ ∀ e ∈ es, e = .string t) := fun v => by
    simp only [Filter.admits, Option.any_eq_true, Filter.accepts_exactly]
    rfl
  refine ⟨.exactly k t, compile_exactly_eq hk, unquote_literalOf t, ?_, hadmits, ?_⟩
  · rw [Filter.literal_exactly, Literal.content, unquote_literalOf, String.ofList_toList]
  · intro v field hfield hscalar hkind
    rw [← Bool.not_eq_true, hadmits, hfield]
    rintro ⟨_, ⟨⟩, rfl | ⟨es, rfl, _⟩⟩
    · exact hkind rfl
    · cases hscalar

/-- A text that ends with a backslash and has a quote and a brace inside. -/
theorem compile_exactly_escapes :
    exactly "k" "7\x7d\"\\" = "(k === \"7\x7d\\\"\\\\\")\x7b\x7d" ∧
      ∃ f : Filter, compile "(k === \"7\x7d\\\"\\\\\")\x7b\x7d" = .ok (.node [f] [] []) ∧
        f.literal.content = "7\x7d\"\\" ∧
        f.admits (.object [("k", .array [.string "7\x7d\"\\"])]) = true := by
  have hsource : exactly "k" "7\x7d\"\\" = "(k === \"7\x7d\\\"\\\\\")\x7b\x7d" := by decide
  have hk : IsName "k".toList := ⟨by decide, List.all_eq_true.mp (by decide)⟩
  obtain ⟨f, hcompile, -, hcontent, hadmits, -⟩ := @compile_exactly "k" "7\x7d\"\\" hk
  exact ⟨hsource, f, hsource ▸ hcompile, hcontent,
    (hadmits _).mpr ⟨_, rfl, .inr ⟨_, rfl, by simp⟩⟩⟩

end Query

end JsonSieve
