/-
# Brackets of a query

The brackets of a query are those outside its quoted literals (`outsideQuotes`): a literal in
quotes may have any characters, and nothing else of a query has a quote.  So the text of a query
closes every quote that it opens, and what stands outside can be counted piece by piece: a clause
has no brackets (`SpellsClause.unbracketed`), and a node has as many opening as closing braces
(`SpellsNode.braced`).
-/
import JsonSieve.Proofs.Query.Spelling

namespace JsonSieve

/-! ## 1. Brackets outside quoted literals -/

mutual

/-- What of a text stands outside quoted literals. -/
def outsideQuotes : List Char → List Char
  | [] => []
  | c :: s => if c = '"' then behindQuote s else c :: outsideQuotes s

/-- What of a text stands outside quoted literals if the text begins inside one. -/
def behindQuote : List Char → List Char
  | [] => []
  | '"' :: s => outsideQuotes s
  | '\\' :: _ :: s => behindQuote s
  | _ :: s => behindQuote s

end

/-- A character that opens or closes a filter or a body. -/
def isBracket (c : Char) : Bool := c = '(' || c = ')' || c = '\x7b' || c = '\x7d'

/-- A character that is neither a quote nor a bracket. -/
def isUnmarked (c : Char) : Bool := c != '"' && !isBracket c

/-- A text that leaves no quote open. -/
def QuotesClosed (s : List Char) : Prop :=
  ∀ r, outsideQuotes (s ++ r) = outsideQuotes s ++ outsideQuotes r

/-- A text that leaves no quote open and has no bracket outside its quoted literals. -/
structure Unbracketed (s : List Char) : Prop where
  closed : QuotesClosed s
  isBracket_eq : ∀ c ∈ outsideQuotes s, isBracket c = false

/-- A text that leaves no quote open, with so many more opening than closing braces outside its
quoted literals. -/
structure Braced (n : Int) (s : List Char) : Prop where
  closed : QuotesClosed s
  count_eq : ((outsideQuotes s).count '\x7b' : Int) = (outsideQuotes s).count '\x7d' + n

section

variable {m n : Int} {s t : List Char}

theorem outsideQuotes_of_not_mem (h : '"' ∉ s) (r : List Char) :
    outsideQuotes (s ++ r) = s ++ outsideQuotes r := by
  induction s with
  | nil => rfl
  | cons c s ih =>
    have hc : c ≠ '"' := fun e => h (e ▸ List.mem_cons_self)
    rw [List.cons_append, outsideQuotes, if_neg hc, ih fun hs => h (List.mem_cons_of_mem _ hs)]
    rfl

theorem outsideQuotes_eq_self (h : '"' ∉ s) : outsideQuotes s = s := by
  have hs := outsideQuotes_of_not_mem h []
  rwa [List.append_nil, outsideQuotes, List.append_nil] at hs

theorem quotesClosed_of_not_mem (h : '"' ∉ s) : QuotesClosed s := fun r => by
  rw [outsideQuotes_of_not_mem h, outsideQuotes_eq_self h]

/-- Behind the quote that closes a literal stands what is outside again. -/
theorem behindQuote_append (h : ClosesQuote s) (r : List Char) :
    behindQuote (s ++ r) = outsideQuotes r := by
  induction h with
  | quote => rfl
  | escaped c _ ih => simpa [behindQuote] using ih
  | plain hq hb _ ih =>
    rw [List.cons_append, behindQuote]
    · exact ih
    · exact hq
    · exact fun _ _ e => absurd e hb

theorem QuotesClosed.append (hs : QuotesClosed s) (ht : QuotesClosed t) : QuotesClosed (s ++ t) :=
  fun r => by rw [List.append_assoc, hs, ht, hs, List.append_assoc]

theorem unbracketed_quoted (h : ClosesQuote s) : Unbracketed ('"' :: s) := by
  have hout (r : List Char) : outsideQuotes ('"' :: s ++ r) = outsideQuotes r := by
    rw [List.cons_append, outsideQuotes, if_pos rfl, behindQuote_append h]
  have hnil : outsideQuotes ('"' :: s) = [] := by simpa [outsideQuotes] using hout []
  exact ⟨fun r => by rw [hout, hnil, List.nil_append], by simp [hnil]⟩

theorem unbracketed_of_all (h : ∀ c ∈ s, isUnmarked c = true) : Unbracketed s := by
  have hquote : '"' ∉ s := fun hmem => absurd (h _ hmem) (by decide)
  refine ⟨quotesClosed_of_not_mem hquote, ?_⟩
  rw [outsideQuotes_eq_self hquote]
  intro c hc
  have hc := h c hc
  rw [isUnmarked, Bool.and_eq_true, Bool.not_eq_true'] at hc
  exact hc.2

theorem Unbracketed.append (hs : Unbracketed s) (ht : Unbracketed t) : Unbracketed (s ++ t) where
  closed := hs.closed.append ht.closed
  isBracket_eq := by
    rw [hs.closed]
    exact fun c hc => (List.mem_append.mp hc).elim (hs.isBracket_eq c) (ht.isBracket_eq c)

theorem Unbracketed.count_eq_zero (h : Unbracketed s) {c : Char} (hc : isBracket c = true) :
    (outsideQuotes s).count c = 0 :=
  List.count_eq_zero.mpr fun hmem => absurd (h.isBracket_eq c hmem) (by simp [hc])

theorem Unbracketed.braced (h : Unbracketed s) : Braced 0 s where
  closed := h.closed
  count_eq := by rw [h.count_eq_zero (by decide), h.count_eq_zero (by decide)]; rfl

theorem Braced.append (hs : Braced m s) (ht : Braced n t) : Braced (m + n) (s ++ t) where
  closed := hs.closed.append ht.closed
  count_eq := by
    have h₁ := hs.count_eq
    have h₂ := ht.count_eq
    rw [hs.closed, List.count_append, List.count_append]
    omega

end

/-! ## 2. Names, operators and literals -/

/-- Signs without a quote among them are counted as they are. -/
theorem braced_of_count {n : Int} {s : List Char} (hquote : '"' ∉ s)
    (hcount : (s.count '\x7b' : Int) = s.count '\x7d' + n) : Braced n s where
  closed := quotesClosed_of_not_mem hquote
  count_eq := by rwa [outsideQuotes_eq_self hquote]

theorem braced_openBrace : Braced 1 ['\x7b'] := braced_of_count (by decide) (by decide)

theorem braced_closeBrace : Braced (-1) ['\x7d'] := braced_of_count (by decide) (by decide)

theorem braced_openParen : Braced 0 ['('] := braced_of_count (by decide) (by decide)

theorem braced_closeParen : Braced 0 [')'] := braced_of_count (by decide) (by decide)

theorem braced_comma : Braced 0 [','] := braced_of_count (by decide) (by decide)

theorem unbracketed_both : Unbracketed ['&', '&'] :=
  unbracketed_of_all (List.all_eq_true.mp (by decide))

theorem isUnmarked_of_isLiteralChar {c : Char} (h : isLiteralChar c = true) :
    isUnmarked c = true := by
  simp only [isLiteralChar, isPunctuation, Bool.and_eq_true, Bool.not_eq_true',
    Bool.or_eq_false_iff, decide_eq_false_iff_not] at h
  simp [isUnmarked, isBracket, h]

theorem isUnmarked_of_isBlank {c : Char} (h : Text.isBlank c = true) : isUnmarked c = true := by
  cases hmarked : isUnmarked c with
  | true => rfl
  | false =>
    simp only [isUnmarked, isBracket, Bool.and_eq_false_iff, bne_eq_false_iff_eq,
      Bool.not_eq_false', Bool.or_eq_true, decide_eq_true_eq] at hmarked
    rcases hmarked with rfl | (((rfl | rfl) | rfl) | rfl) <;> exact absurd h (by decide)

theorem Blanks.unbracketed {b : List Char} (h : Blanks b) : Unbracketed b :=
  unbracketed_of_all fun c hc => isUnmarked_of_isBlank (h c hc)

theorem IsName.unbracketed {name : List Char} (h : IsName name) : Unbracketed name :=
  unbracketed_of_all fun c hc =>
    isUnmarked_of_isLiteralChar (isLiteralChar_of_isWordChar (h.2 c hc))

theorem Operator.unbracketed_symbol (op : Operator) : Unbracketed op.symbol.toList :=
  unbracketed_of_all (List.all_eq_true.mp (by cases op <;> decide))

theorem IsLiteral.unbracketed {raw : List Char} (h : IsLiteral raw) : Unbracketed raw := by
  cases h with
  | quoted hq => exact unbracketed_quoted hq
  | bare _ hall => exact unbracketed_of_all fun c hc => isUnmarked_of_isLiteralChar (hall c hc)

namespace Query

/-! ## 3. Clauses and nodes -/

/-- **A clause has no brackets.** -/
theorem SpellsClause.unbracketed {s : List Char} {f : Filter} (h : SpellsClause s f) :
    Unbracketed s := by
  cases h with
  | clause op ha hkey hb hgap hraw _ =>
    have hkeyed := (ha.unbracketed.append hkey.unbracketed).append hb.unbracketed
    exact ((hkeyed.append op.unbracketed_symbol).append hgap.unbracketed).append hraw.unbracketed

theorem SpellsClauses.braced {s : List Char} {fs : List Filter} (h : SpellsClauses s fs) :
    Braced 0 s := by
  induction h with
  | last hs hb =>
    exact (hs.unbracketed.append hb.unbracketed).braced.append braced_closeParen
  | @more s b t f fs hs hb _ ih =>
    have hclause := (hs.unbracketed.append hb.unbracketed).append unbracketed_both
    simpa using hclause.braced.append ih

theorem SpellsFilter.braced {s : List Char} {fs : List Filter} (h : SpellsFilter s fs) :
    Braced 0 s := by
  cases h with
  | missing => exact (unbracketed_of_all (List.forall_mem_nil _)).braced
  | @clauses b s _ hb hs =>
    have hopened := hb.unbracketed.braced.append braced_openParen
    simpa using hopened.append hs.braced

mutual

/-- **A node has as many opening as closing braces.** -/
theorem SpellsNode.braced : ∀ {s : List Char} {q : Query}, SpellsNode s q → Braced 0 s
  | _, _, @SpellsNode.node s b t _ _ hs hb hbody => by
    have hopened := (hs.braced.append hb.unbracketed.braced).append braced_openBrace
    simpa using hopened.append hbody.braced

theorem SpellsBody.braced : ∀ {s : List Char} {items : List Item}, SpellsBody s items →
    Braced (-1) s
  | _, _, .empty hb => hb.unbracketed.braced.append braced_closeBrace
  | _, _, .items hs => hs.braced

theorem SpellsItems.braced : ∀ {s : List Char} {items : List Item}, SpellsItems s items →
    Braced (-1) s
  | _, _, .last hs hb => (hs.braced.append hb.unbracketed.braced).append braced_closeBrace
  | _, _, .more hs hb ht => by
    have hitem := (hs.braced.append hb.unbracketed.braced).append braced_comma
    simpa using hitem.append ht.braced

theorem SpellsItem.braced : ∀ {s : List Char} {item : Item}, SpellsItem s item → Braced 0 s
  | _, _, .field hb hname => (hb.unbracketed.append hname.unbracketed).braced
  | _, _, .nested hb hname hs => (hb.unbracketed.append hname.unbracketed).braced.append hs.braced

end

end Query
end JsonSieve
