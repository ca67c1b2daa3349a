/-
# Errors and the text they are about

An error names a place of the text that was read, or a part of it, or both.  What it names is there:
no place is behind the text, the characters that an error complains of stand where it says, and
every name and every part that it quotes is found in the text (`faithful_of_compile_error`).

The proof goes stage by stage.  A stage that begins on the source (`Cursor.On`) either stops on it,
or fails with an error that is faithful to it (`Located`).  A cursor on the source never stands
inside a run of symbol characters: what was read last is an operator, which takes the whole run, or
a bare literal, which does so too, or it does not end with such a character at all.  So the run that
is no operator is the whole run.
-/
import JsonSieve.Proofs.Query.Reading

namespace JsonSieve

/-! ## 1. What an error says -/

/-- A run of symbol characters that begins at an offset of a text and goes on neither before that
nor behind its end. -/
def IsSymbolRun (source run : List Char) (offset : Nat) : Prop :=
  run ≠ [] ∧ (∀ c ∈ run, Operator.isSymbolChar c = true) ∧
    ∃ before after, source = before ++ run ++ after ∧ before.length = offset ∧
      Ends Operator.isSymbolChar before.reverse ∧ Ends Operator.isSymbolChar after

/-- A token that is written in a text so that it ends at an offset, and goes no further. -/
structure Token.EndsAt (t : Token) (source : List Char) (offset : Nat) : Prop where
  suffix : t.spelling <:+ source.take offset
  stands : t.Stands (source.drop offset)

theorem isInfix_take (n : Nat) (s : List Char) : s.take n <:+: s :=
  ⟨[], s.drop n, List.take_append_drop n s⟩

theorem Token.EndsAt.isInfix {t : Token} {source : List Char} {offset : Nat}
    (h : t.EndsAt source offset) : t.spelling <:+: source :=
  h.suffix.isInfix.trans (isInfix_take offset source)

/-- What the error says of the source is so. -/
def TokenError.FaithfulTo (source : List Char) : TokenError → Prop
  | unexpected c offset => source[offset]? = some c
  | notAnOperator symbol offset => IsSymbolRun source symbol.toList offset
  | unclosed fragment offset =>
    fragment.toList = source.drop offset ∧ fragment.toList.head? = some '"'

namespace QueryError

/-- What the error says of the source is so. -/
def FaithfulTo (source : List Char) : QueryError → Prop
  | token e => e.FaithfulTo source
  | unclosedBody fragment | unclosedFilter fragment => fragment.toList <:+: source
  | missingBody fragment | missingKey fragment | trailing fragment =>
    ∃ part, part <:+: source ∧ fragment.toList = Text.trim part
  | emptyFilter offset | missingName offset | emptyField offset => offset ≤ source.length
  | missingOperator key => key.toList <:+: source
  | missingLiteral key op => key.toList <:+: source ∧ op.symbol.toList <:+: source
  | repeated name => name.toList <:+: source
  | expected _ found offset =>
    found ≠ .ending ∧ offset ≤ source.length ∧ found.EndsAt source offset

/-- The place that an error names. -/
def offset? : QueryError → Option Nat
  | token (.unexpected _ offset) | token (.notAnOperator _ offset) | token (.unclosed _ offset)
  | emptyFilter offset | missingName offset | emptyField offset | expected _ _ offset => some offset
  | _ => none

/-- The place that a faithful error names is not behind the source. -/
theorem FaithfulTo.offset_le {source : List Char} {err : QueryError} (h : err.FaithfulTo source) :
    ∀ offset ∈ err.offset?, offset ≤ source.length := by
  intro offset hoffset
  cases err with
  | token e =>
    cases e with
    | unexpected c o =>
      cases hoffset
      exact Nat.le_of_lt (List.getElem?_eq_some_iff.mp h).1
    | notAnOperator symbol o =>
      cases hoffset
      obtain ⟨-, -, before, after, rfl, rfl, -, -⟩ := h
      simp only [List.append_assoc, List.length_append]
      omega
    | unclosed fragment o =>
      cases hoffset
      obtain ⟨hdrop, hhead⟩ := h
      refine Nat.le_of_not_lt fun hlt => ?_
      rw [hdrop, List.drop_eq_nil_of_le (Nat.le_of_lt hlt)] at hhead
      cases hhead
  | emptyFilter o | missingName o | emptyField o =>
    cases hoffset
    exact h
  | expected what found o =>
    cases hoffset
    exact h.2.1
  | _ => cases hoffset

end QueryError

/-! ## 2. Cursors on a source -/

namespace Cursor

/-- A cursor on a source: what is behind it and what is ahead of it make up the source, and it does
not stand inside a run of symbol characters. -/
def On (source : List Char) (c : Cursor) : Prop :=
  ∃ before, source = before ++ c.rest ∧ c.offset = before.length ∧
    (Ends Operator.isSymbolChar before.reverse ∨ Ends Operator.isSymbolChar c.rest)

variable {source s : List Char} {c d : Cursor}

theorem on_start (text : String) : (start text).On text.toList :=
  ⟨[], rfl, rfl, .inl (ends_nil _)⟩

theorem On.rest_suffix (h : c.On source) : c.rest <:+ source := by
  obtain ⟨before, heq, -⟩ := h
  exact ⟨before, heq.symm⟩

theorem On.rest_eq_drop (h : c.On source) : c.rest = source.drop c.offset := by
  obtain ⟨before, rfl, hlen, -⟩ := h
  rw [hlen, List.drop_left]

theorem On.offset_le (h : c.On source) : c.offset ≤ source.length := by
  obtain ⟨before, rfl, hlen, -⟩ := h
  rw [hlen, List.length_append]
  exact Nat.le_add_right _ _

/-- What was passed over ends before the cursor. -/
theorem On.suffix_take (h : d.On source) (hc : c.On source) (hp : c.Passes s d) :
    s <:+ source.take d.offset := by
  obtain ⟨before, rfl, hlen, -⟩ := hc
  rw [hp.offset_eq, hp.rest_eq, hlen, ← List.append_assoc, ← List.length_append, List.take_left]
  exact ⟨before, rfl⟩

/-- The text between two cursors stands in the source. -/
theorem On.isInfix_between (h : c.On source) (d : Cursor) : c.between d <:+: source :=
  (isInfix_take _ _).trans h.rest_suffix.isInfix

/-- A cursor stays on the source if it passes over a text that does not end inside a run of symbol
characters. -/
theorem On.passes (h : c.On source) (hp : c.Passes s d)
    (hend : s ≠ [] ∧ Ends Operator.isSymbolChar s.reverse ∨ Ends Operator.isSymbolChar d.rest) :
    d.On source := by
  obtain ⟨before, heq, hlen, -⟩ := h
  refine ⟨before ++ s, ?_, ?_, ?_⟩
  · rw [heq, hp.rest_eq, List.append_assoc]
  · rw [hp.offset_eq, hlen, List.length_append]
  · refine hend.imp_left fun ⟨hne, hs⟩ => ?_
    rw [List.reverse_append]
    exact hs.append_of_ne_nil (by simpa using hne)

/-- Blanks end what is before them. -/
theorem On.skipBlanks (h : c.On source) : c.skipBlanks.On source := by
  cases hrun : c.run Text.isBlank with
  | nil =>
    have hsame : c.skipBlanks = c := by rw [Cursor.skipBlanks, hrun]; rfl
    rwa [hsame]
  | cons x s =>
    refine h.passes (passes_skipBlanks c) (.inl ⟨by simp [hrun], fun y hy => ?_⟩)
    have hmem : y ∈ c.run Text.isBlank := List.mem_reverse.mp (List.mem_of_mem_head? hy)
    cases hsymbol : Operator.isSymbolChar y with
    | false => rfl
    | true => exact absurd (mem_run hmem) (by simp [isBlank_of_isSymbolChar hsymbol])

/-! ## 3. Tokens and literals -/

variable {t : Token} {raw : String} {err : TokenError}

/-- A quoted literal ends with its quote. -/
theorem exists_of_closesQuote (h : ClosesQuote s) : ∃ t, s = t ++ ['"'] := by
  induction h with
  | quote => exact ⟨[], rfl⟩
  | escaped c _ ih =>
    obtain ⟨t, rfl⟩ := ih
    exact ⟨'\\' :: c :: t, rfl⟩
  | @plain c _ _ _ _ ih =>
    obtain ⟨t, rfl⟩ := ih
    exact ⟨c :: t, rfl⟩

/-- No token ends inside a run of symbol characters. -/
theorem On.of_token (h : c.On source) (ht : c.token = (.ok t, d)) :
    d.On source ∧ t.EndsAt source d.offset := by
  obtain ⟨b, hb, hp, hstands⟩ := token_eq_ok_iff.mp ht
  have hd : d.On source := by
    refine h.passes hp ?_
    cases t with
    | word w =>
      obtain ⟨hne, hall⟩ := hstands.1
      refine .inl ⟨by simpa [Token.spelling] using fun _ => hne, ?_⟩
      rw [List.reverse_append]
      refine ends_append_of_all (by simpa [Token.spelling] using hne) (q := isWordChar) ?_
        (fun _ => isSymbolChar_of_isWordChar) _
      exact fun x hx => hall x (List.mem_reverse.mp hx)
    | operator op => exact .inr hstands
    | ending => exact .inr (hstands ▸ ends_nil _)
    | _ =>
      refine .inl ⟨by simp [Token.spelling], ?_⟩
      rw [List.reverse_append]
      exact ends_cons.mpr (by decide)
  refine ⟨hd, ?_, hd.rest_eq_drop ▸ hstands⟩
  exact (List.suffix_append _ _).trans (hd.suffix_take h hp)

/-- A literal that is not there takes nothing but the blanks before it. -/
theorem eq_skipBlanks_of_literal (h : c.literal = (.ok "", d)) : d = c.skipBlanks := by
  unfold literal at h
  simp only at h
  split at h
  · next hs =>
    split at h
    · rw [Prod.mk.injEq, Except.ok.injEq, String.ofList_eq_empty_iff, hs] at h
      cases h.1
    · cases h
  · rw [Prod.mk.injEq, Except.ok.injEq, String.ofList_eq_empty_iff] at h
    rw [← h.2, h.1]
    rfl

/-- No literal ends inside a run of symbol characters. -/
theorem On.of_literal (h : c.On source) (hl : c.literal = (.ok raw, d)) : d.On source := by
  by_cases hne : raw = ""
  · subst hne
    exact eq_skipBlanks_of_literal hl ▸ h.skipBlanks
  obtain ⟨b, hb, hp, hstands⟩ := (literal_eq_ok_iff hne).mp hl
  refine h.passes hp ?_
  generalize raw.toList = l at *
  cases hstands with
  | quoted hq =>
    obtain ⟨t, rfl⟩ := exists_of_closesQuote hq
    refine .inl ⟨by simp, ?_⟩
    simp only [List.reverse_append, List.reverse_cons, List.reverse_nil, List.nil_append,
      List.cons_append]
    exact ends_cons.mpr (by decide)
  | bare hne hall hend => exact .inr (hend.mono fun _ => isLiteralChar_of_isSymbolChar)

/-- Symbol characters ahead of a cursor on a source are a run of their own. -/
theorem On.isSymbolRun (h : c.On source) (hne : c.run Operator.isSymbolChar ≠ []) :
    IsSymbolRun source (c.run Operator.isSymbolChar) c.offset := by
  obtain ⟨before, heq, hlen, hapart⟩ := h
  have hrest := (passes_run c Operator.isSymbolChar).rest_eq
  refine ⟨hne, fun _ => mem_run, before, _, ?_, hlen.symm, ?_, ends_run c _⟩
  · rw [List.append_assoc, ← hrest, ← heq]
  · refine hapart.resolve_right fun hend => ?_
    rw [hrest] at hend
    obtain ⟨x, s, hrun⟩ := List.exists_cons_of_ne_nil hne
    have hx : Operator.isSymbolChar x = true := mem_run (hrun ▸ List.mem_cons_self)
    rw [hrun] at hend
    exact absurd (ends_cons.mp hend) (by simp [hx])

theorem On.getElem?_offset {x : Char} (h : c.On source) (hx : c.rest = x :: s) :
    source[c.offset]? = some x := by
  obtain ⟨before, rfl, hlen, -⟩ := h
  rw [hlen, hx, List.getElem?_append_right (Nat.le_refl _), Nat.sub_self]
  rfl

theorem On.of_token_error (h : c.On source) (herr : c.token.1 = .error err) :
    err.FaithfulTo source := by
  rw [← token_skipBlanks] at herr
  replace h := h.skipBlanks
  rcases token_error_cases (ends_skipBlanks c) (Prod.ext herr rfl) with
    ⟨x, s, hr, rfl, -⟩ | ⟨hne, rfl, -⟩
  · exact h.getElem?_offset hr
  · rw [TokenError.FaithfulTo, String.toList_ofList]
    exact h.isSymbolRun hne

theorem On.of_literal_error (h : c.On source) (herr : c.literal.1 = .error err) :
    err.FaithfulTo source := by
  rw [← literal_skipBlanks] at herr
  replace h := h.skipBlanks
  obtain ⟨s, hs, rfl, -⟩ := literal_error_cases (ends_skipBlanks c) (Prod.ext herr rfl)
  refine ⟨?_, ?_⟩
  · rw [String.toList_ofList, h.rest_eq_drop]
  · rw [String.toList_ofList, hs]
    rfl

end Cursor

namespace Query

/-! ## 4. Results of reading -/

section

variable {α β : Type} {source : List Char} {c : Cursor} {P : α → Cursor → Prop}
  {Q : β → Cursor → Prop}

/-- A result of reading from a source: the cursor is on the source and the answer is as it should
be, or the error is faithful to the source. -/
def Located (source : List Char) (P : α → Cursor → Prop) :
    EStateM.Result QueryError Cursor α → Prop :=
  Meets (fun a d => d.On source ∧ P a d) (QueryError.FaithfulTo source)

/-- Nothing is asked of the answer. -/
def Anything {α : Type} : α → Cursor → Prop := fun _ _ => True

theorem Located.bind {x : Reading α} {f : α → Reading β} (hx : Located source P (x c))
    (hf : ∀ a d, d.On source → P a d → Located source Q (f a d)) :
    Located source Q ((x >>= f) c) :=
  Meets.bind hx fun a d _ h => hf a d h.1 h.2

theorem Located.map {x : Reading α} {f : α → β} (hx : Located source P (x c)) :
    Located source Anything ((f <$> x) c) :=
  Meets.map hx fun _ _ h => ⟨h.1, trivial⟩

theorem located_pure {a : α} (hc : c.On source) (ha : P a c) :
    Located source P ((pure a : Reading α) c) :=
  ⟨hc, ha⟩

theorem located_throw {err : QueryError} (h : err.FaithfulTo source) :
    Located source P ((throw err : Reading α) c) :=
  h

end

/-! ## 5. Stages -/

section

variable {source : List Char} {start c d : Cursor}

theorem located_here (hc : c.On source) : Located source (fun e d => e = d) (here c) :=
  ⟨hc, rfl⟩

theorem located_next (hc : c.On source) :
    Located source (fun t d => t.EndsAt source d.offset) (next c) := by
  cases h : c.token with
  | mk result d =>
    rw [next, moving, h]
    cases result with
    | ok t => exact hc.of_token h
    | error err => exact hc.of_token_error (by rw [h])

theorem located_ahead (hc : c.On source) : Located source Anything (ahead c) := by
  cases h : c.token with
  | mk result d =>
    rw [ahead, moving, Cursor.peek, h]
    cases result with
    | ok t => exact ⟨hc, trivial⟩
    | error err => exact hc.of_token_error (by rw [h])

theorem located_nextLiteral (hc : c.On source) : Located source Anything (nextLiteral c) := by
  cases h : c.literal with
  | mk result d =>
    rw [nextLiteral, moving, h]
    cases result with
    | ok raw => exact ⟨hc.of_literal h, trivial⟩
    | error err => exact hc.of_literal_error (by rw [h])

/-- What else was wanted in place of a token is reported at the end of the token. -/
theorem located_wanted {α : Type} {P : α → Cursor → Prop} {what : Expectation} {t : Token}
    (hc : c.On source) (ht : t.EndsAt source c.offset) (hne : t ≠ .ending) :
    Located source P ((wanted what t : Reading α) c) :=
  show QueryError.FaithfulTo source (.expected what t c.offset) from ⟨hne, hc.offset_le, ht⟩

/-- The text from a cursor on stands in the source. -/
theorem isInfix_textFrom (hc : c.On source) : (textFrom c).toList <:+: source := by
  rw [textFrom, String.toList_ofList]
  exact hc.rest_suffix.isInfix

/-- The text between two cursors is quoted without the blanks around it. -/
theorem located_textSince (hs : start.On source) (hc : c.On source) :
    Located source (fun text _ => ∃ part, part <:+: source ∧ text.toList = Text.trim part)
      (textSince start c) :=
  ⟨hc, _, hs.isInfix_between c, String.toList_ofList⟩

theorem located_readKey (hs : start.On source) (hc : c.On source) :
    Located source (fun key _ => key.toList <:+: source) (readKey start c) := by
  rw [readKey]
  refine (located_here hc).bind ?_
  rintro c _ hc rfl
  refine (located_next hc).bind ?_
  intro t d hd ht
  cases t with
  | word key => exact located_pure hd ht.isInfix
  | closeParen | both => exact located_throw hc.offset_le
  | ending => exact located_throw (isInfix_textFrom hs)
  | _ => exact (located_textSince hc hd).bind fun text e _ htext => located_throw htext

theorem located_readOperator {key : String} (hkey : key.toList <:+: source) (hc : c.On source) :
    Located source (fun op _ => op.symbol.toList <:+: source) (readOperator key c) := by
  rw [readOperator]
  refine (located_next hc).bind ?_
  intro t d hd ht
  cases t with
  | operator op => exact located_pure hd ht.isInfix
  | _ => exact located_throw hkey

theorem located_readLiteral {key : String} {op : Operator} (hkey : key.toList <:+: source)
    (hop : op.symbol.toList <:+: source) (hc : c.On source) :
    Located source Anything (readLiteral key op c) := by
  rw [readLiteral]
  refine (located_nextLiteral hc).bind ?_
  intro raw d hd _
  split
  · exact located_throw ⟨hkey, hop⟩
  · exact located_pure hd trivial

theorem located_readClause (hs : start.On source) (hc : c.On source) :
    Located source Anything (readClause start c) := by
  rw [readClause]
  refine (located_readKey hs hc).bind ?_
  intro key d hd hkey
  refine (located_readOperator hkey hd).bind ?_
  intro op e he hop
  exact (located_readLiteral hkey hop he).bind fun raw f hf _ => located_pure hf trivial

theorem located_afterClause {more : Reading (List Filter)} (hs : start.On source)
    (hmore : ∀ d, d.On source → Located source Anything (more d)) (hc : c.On source) :
    Located source Anything (afterClause start more c) := by
  rw [afterClause]
  refine (located_next hc).bind ?_
  intro t d hd ht
  cases t with
  | both => exact hmore d hd
  | closeParen => exact located_pure hd trivial
  | ending => exact located_throw (isInfix_textFrom hs)
  | _ => exact located_wanted hd ht (by simp)

theorem located_readClauses (hs : start.On source) : ∀ (fuel : Nat) {c : Cursor}, c.On source →
    Located source Anything (readClauses start fuel c)
  | 0, _, _ => located_throw (isInfix_textFrom hs)
  | fuel + 1, c, hc => by
    rw [readClauses]
    refine (located_readClause hs hc).bind ?_
    intro f d hd _
    refine (located_afterClause hs (fun e he => located_readClauses hs fuel he) hd).bind ?_
    exact fun fs e he _ => located_pure he trivial

theorem located_refuseEmptyFilter (hc : c.On source) :
    Located source Anything (refuseEmptyFilter c) := by
  rw [refuseEmptyFilter]
  refine (located_ahead hc).bind ?_
  intro t d hd _
  split
  · refine (located_here hd).bind ?_
    rintro e _ he rfl
    exact located_throw he.offset_le
  · exact located_pure hd trivial

theorem located_readFilters (hs : start.On source) (fuel : Nat) (hc : c.On source) :
    Located source Anything (readFilters start fuel c) := by
  rw [readFilters]
  refine (located_ahead hc).bind ?_
  intro t d hd _
  split
  · refine (located_next hd).bind ?_
    intro u e he _
    refine (located_refuseEmptyFilter he).bind ?_
    intro _ f hf _
    exact located_readClauses hs fuel hf
  · exact located_pure hd trivial

theorem located_readName (hs : start.On source) (hc : c.On source) :
    Located source (fun name _ => name.toList <:+: source) (readName start c) := by
  rw [readName]
  refine (located_here hc).bind ?_
  rintro c _ hc rfl
  refine (located_next hc).bind ?_
  intro t d hd ht
  cases t with
  | word name => exact located_pure hd ht.isInfix
  | comma | closeBrace => exact located_throw hc.offset_le
  | openBrace | openParen => exact located_throw hc.offset_le
  | ending => exact located_throw (isInfix_textFrom hs)
  | _ => exact located_wanted hd ht (by simp)

theorem located_refuseRepeated {taken : List String} {name : String}
    (hname : name.toList <:+: source) (hc : c.On source) :
    Located source Anything (refuseRepeated taken name c) := by
  rw [refuseRepeated]
  split
  · exact located_throw hname
  · exact located_pure hc trivial

theorem located_readItem {name : String} {node : Reading Query}
    (hnode : ∀ d, d.On source → Located source Anything (node d)) (hc : c.On source) :
    Located source Anything (readItem name node c) := by
  rw [readItem]
  refine (located_ahead hc).bind ?_
  intro t d hd _
  cases t with
  | openParen | openBrace => exact (hnode d hd).map
  | _ => exact located_pure hd trivial

theorem located_afterItem {more : Reading (List Item)} (hs : start.On source)
    (hmore : ∀ d, d.On source → Located source Anything (more d)) (hc : c.On source) :
    Located source Anything (afterItem start more c) := by
  rw [afterItem]
  refine (located_next hc).bind ?_
  intro t d hd ht
  cases t with
  | comma => exact hmore d hd
  | closeBrace => exact located_pure hd trivial
  | ending => exact located_throw (isInfix_textFrom hs)
  | _ => exact located_wanted hd ht (by simp)

theorem located_readOpening (hs : start.On source) (hc : c.On source) :
    Located source Anything (readOpening start c) := by
  rw [readOpening]
  refine (located_next hc).bind ?_
  intro t d hd ht
  cases t with
  | openBrace => exact located_pure hd trivial
  | ending | comma | closeBrace =>
    exact (located_textSince hs hd).bind fun text e _ htext => located_throw htext
  | _ => exact located_wanted hd ht (by simp)

theorem located_readBody {items : Reading (List Item)}
    (hitems : ∀ d, d.On source → Located source Anything (items d)) (hc : c.On source) :
    Located source Anything (readBody items c) := by
  rw [readBody]
  refine (located_ahead hc).bind ?_
  intro t d hd _
  split
  · exact (located_next hd).bind fun u e he _ => located_pure he trivial
  · exact hitems d hd

end

mutual

theorem located_readNode {source : List Char} : ∀ (fuel : Nat) {start c : Cursor},
    start.On source → c.On source → Located source Anything (readNode start fuel c)
  | 0, _, _, hs, _ => located_throw (isInfix_textFrom hs)
  | fuel + 1, start, c, hs, hc => by
    rw [readNode]
    refine (located_readFilters hs fuel hc).bind ?_
    intro fs d hd _
    refine (located_readOpening hs hd).bind ?_
    intro _ e he _
    refine (located_readBody (fun f hf => located_readItems fuel hs hf) he).bind ?_
    exact fun items f hf _ => located_pure hf trivial

theorem located_readItems {source : List Char} : ∀ (fuel : Nat) {start c : Cursor}
    {taken : List String}, start.On source → c.On source →
      Located source Anything (readItems start taken fuel c)
  | 0, _, _, _, hs, _ => located_throw (isInfix_textFrom hs)
  | fuel + 1, start, c, taken, hs, hc => by
    rw [readItems]
    refine (located_here hc).bind ?_
    rintro c _ hc rfl
    refine (located_readName hs hc).bind ?_
    intro name d hd hname
    refine (located_refuseRepeated hname hd).bind ?_
    intro _ e he _
    refine (located_readItem (fun f hf => located_readNode fuel hc hf) he).bind ?_
    intro item f hf _
    refine (located_afterItem hs (fun g hg => located_readItems fuel hs hg) hf).bind ?_
    exact fun items g hg _ => located_pure hg trivial

end

/-! ## 6. Whole queries -/

section

variable {source : List Char} {c : Cursor}

theorem located_skipName (hc : c.On source) : Located source Anything (skipName c) := by
  rw [skipName]
  refine (located_ahead hc).bind ?_
  intro t d hd _
  cases t with
  | word w => exact (located_next hd).bind fun u e he _ => located_pure he trivial
  | _ => exact located_pure hd trivial

theorem located_readEnding (hc : c.On source) : Located source Anything (readEnding c) := by
  rw [readEnding]
  refine (located_here hc).bind ?_
  rintro c _ hc rfl
  refine (located_next hc).bind ?_
  intro t d hd _
  split
  · exact located_pure hd trivial
  · exact located_throw ⟨c.rest, hc.rest_suffix.isInfix, String.toList_ofList⟩

theorem located_readWhole (hc : c.On source) : Located source Anything (readWhole c) := by
  rw [readWhole]
  refine (located_here hc).bind ?_
  rintro c _ hc rfl
  refine (located_skipName hc).bind ?_
  intro _ d hd _
  refine (located_readNode _ hc hd).bind ?_
  intro q e he _
  exact (located_readEnding he).bind fun _ f hf _ => located_pure hf trivial

end

/-- **What an error says of the text is so:** the place that it names is not behind the text, the
character, the operator or the literal that it complains of stands there, a token in the wrong place
ends there, and the parts and names that it quotes are found in the text. -/
theorem faithful_of_compile_error {source : String} {err : QueryError}
    (h : compile source = .error err) :
    (∀ offset ∈ err.offset?, offset ≤ source.length) ∧ err.FaithfulTo source.toList := by
  have hwhole := located_readWhole (Cursor.on_start source)
  have herr : err.FaithfulTo source.toList := by
    unfold compile at h
    split at h
    · cases h
    · next e d hresult =>
      cases h
      rwa [hresult] at hwhole
  exact ⟨fun offset hoffset => String.length_toList ▸ herr.offset_le offset hoffset, herr⟩

/-- The run of symbol characters stands between a blank and a quote; the word in the wrong place
ends behind its two characters, and the blanks behind it are not counted. -/
theorem faithful_of_compile_error_symbols :
    compile "\x7ba(b =!>\"c\")\x7b\x7d\x7d" = .error (.token (.notAnOperator "=!>" 5)) ∧
    IsSymbolRun "\x7ba(b =!>\"c\")\x7b\x7d\x7d".toList "=!>".toList 5 ∧
    compile "(a > 1  bc )\x7b\x7d" = .error (.expected .clauseEnd (.word "bc") 10) ∧
    (Token.word "bc").EndsAt "(a > 1  bc )\x7b\x7d".toList 10 := by
  have hrun : compile "\x7ba(b =!>\"c\")\x7b\x7d\x7d" =
      .error (.token (.notAnOperator "=!>" 5)) := rfl
  have hword : compile "(a > 1  bc )\x7b\x7d" = .error (.expected .clauseEnd (.word "bc") 10) := rfl
  exact ⟨hrun, (faithful_of_compile_error hrun).2, hword, (faithful_of_compile_error hword).2.2.2⟩

end Query
end JsonSieve
