/-
# Tokens, exactly

What the two ways of going on from a cursor take off the text, as equivalences:

* `token_eq_ok_iff`: a token is read exactly where blanks and its spelling stand, and a name or an
  operator reaches as far as its characters do;
* `literal_eq_ok_iff`: a literal that is not empty is read exactly where blanks and the literal
  stand, and a bare one reaches as far as its characters do.

Both are said with `Passes`, the relation between two cursors on one text and what lies between
them.
-/
import JsonSieve.Proofs.Query.Grammar

namespace JsonSieve

/-! ## 1. Runs of characters -/

theorem blanks_nil : Blanks [] := fun _ h => absurd h (by simp)

theorem isBlank_of_isLiteralChar {c : Char} (h : isLiteralChar c = true) :
    Text.isBlank c = false := by
  simp only [isLiteralChar, Bool.and_eq_true, Bool.not_eq_true'] at h
  exact h.1

theorem isLiteralChar_of_isWordChar {c : Char} (h : isWordChar c = true) :
    isLiteralChar c = true := by
  simp only [isWordChar, Bool.and_eq_true] at h
  exact h.1.1

theorem isSymbolChar_of_isWordChar {c : Char} (h : isWordChar c = true) :
    Operator.isSymbolChar c = false := by
  simp only [isWordChar, Bool.and_eq_true, Bool.not_eq_true'] at h
  exact h.1.2

theorem isBlank_of_isSymbolChar {c : Char} (h : Operator.isSymbolChar c = true) :
    Text.isBlank c = false := by
  simp only [Operator.isSymbolChar, Bool.or_eq_true, decide_eq_true_eq] at h
  rcases h with (((rfl | rfl) | rfl) | rfl) | rfl <;> decide

theorem isLiteralChar_of_isSymbolChar {c : Char} (h : Operator.isSymbolChar c = true) :
    isLiteralChar c = true := by
  have hpunctuation : isPunctuation c = false := by
    simp only [Operator.isSymbolChar, Bool.or_eq_true, decide_eq_true_eq] at h
    rcases h with (((rfl | rfl) | rfl) | rfl) | rfl <;> decide
  simp [isLiteralChar, hpunctuation, isBlank_of_isSymbolChar h]

namespace Cursor

/-! ## 2. What lies between two cursors -/

/-- The second cursor stands behind a text that lies ahead of the first one. -/
structure Passes (c : Cursor) (s : List Char) (d : Cursor) : Prop where
  rest_eq : c.rest = s ++ d.rest
  offset_eq : d.offset = c.offset + s.length

variable {c d e : Cursor} {s t r : List Char}

theorem Passes.refl (c : Cursor) : c.Passes [] c := ⟨rfl, rfl⟩

theorem Passes.trans (h₁ : c.Passes s d) (h₂ : d.Passes t e) : c.Passes (s ++ t) e where
  rest_eq := by rw [h₁.rest_eq, h₂.rest_eq, List.append_assoc]
  offset_eq := by rw [h₂.offset_eq, h₁.offset_eq, List.length_append, Nat.add_assoc]

theorem Passes.length_eq (h : c.Passes s d) : c.rest.length = s.length + d.rest.length := by
  rw [h.rest_eq, List.length_append]

theorem passes_skip (h : c.rest = s ++ r) : c.Passes s (c.skip s.length) where
  rest_eq := by simp [skip, h]
  offset_eq := rfl

theorem passes_start (source : String) :
    (Cursor.start source).Passes source.toList (skip (start source) source.toList.length) :=
  passes_skip (r := []) (by simp [start])

/-- The text between two cursors settles where the second one stands. -/
theorem Passes.eq_skip (h : c.Passes s d) : d = c.skip s.length := by
  obtain ⟨o, r⟩ := d
  simp only [skip, h.rest_eq, List.drop_left, mk.injEq, and_true]
  exact h.offset_eq

theorem Passes.split (h : c.Passes (s ++ t) e) : ∃ d, c.Passes s d ∧ d.Passes t e := by
  have hs : c.Passes s (c.skip s.length) :=
    passes_skip (h.rest_eq.trans (List.append_assoc s t e.rest))
  refine ⟨_, hs, ?_, ?_⟩
  · simp [skip, h.rest_eq]
  · rw [h.offset_eq, hs.offset_eq, List.length_append, Nat.add_assoc]

theorem passes_run (c : Cursor) (p : Char → Bool) :
    c.Passes (c.run p) (c.skip (c.run p).length) :=
  passes_skip (r := c.rest.dropWhile p) (by simp [run])

theorem ends_run (c : Cursor) (p : Char → Bool) : Ends p (c.skip (c.run p).length).rest := by
  have h := (passes_run c p).rest_eq
  have h' : c.run p ++ c.rest.dropWhile p = c.rest := List.takeWhile_append_dropWhile
  rw [List.append_cancel_left (h.symm.trans h'.symm)]
  exact ends_dropWhile p c.rest

theorem mem_run {p : Char → Bool} {x : Char} (h : x ∈ c.run p) : p x = true :=
  List.all_eq_true.mp List.all_takeWhile x h

theorem Passes.run_eq {p : Char → Bool} (h : c.Passes s d) (hs : ∀ x ∈ s, p x = true)
    (hd : Ends p d.rest) : c.run p = s := by
  rw [run, h.rest_eq, takeWhile_append_of_ends hs hd]

/-! ## 3. Blanks -/

theorem passes_skipBlanks (c : Cursor) : c.Passes (c.run Text.isBlank) c.skipBlanks :=
  passes_run c _

theorem ends_skipBlanks (c : Cursor) : Ends Text.isBlank c.skipBlanks.rest := ends_run c _

theorem Passes.skipBlanks_eq (h : c.Passes s d) (hs : Blanks s) (hd : Ends Text.isBlank d.rest) :
    c.skipBlanks = d := by
  rw [skipBlanks, h.run_eq hs hd, ← h.eq_skip]

theorem skipBlanks_of_ends (h : Ends Text.isBlank c.rest) : c.skipBlanks = c :=
  (Passes.refl c).skipBlanks_eq blanks_nil h

theorem token_skipBlanks (c : Cursor) : c.skipBlanks.token = c.token := by
  unfold token
  rw [skipBlanks_of_ends (ends_skipBlanks c)]

theorem literal_skipBlanks (c : Cursor) : c.skipBlanks.literal = c.literal := by
  unfold literal
  rw [skipBlanks_of_ends (ends_skipBlanks c)]

/-! ## 4. Tokens -/

end Cursor

/-- How a token is written. -/
def Token.spelling : Token → List Char
  | word w => w.toList
  | operator op => op.symbol.toList
  | both => ['&', '&']
  | openBrace => ['\x7b']
  | closeBrace => ['\x7d']
  | openParen => ['(']
  | closeParen => [')']
  | comma => [',']
  | ending => []

/-- What a token asks of itself and of the text behind it: a word is a name, words and operators
reach as far as their characters do, and the ending is behind everything. -/
def Token.Stands : Token → List Char → Prop
  | word w, r => IsName w.toList ∧ Ends isWordChar r
  | operator _, r => Ends Operator.isSymbolChar r
  | ending, r => r = []
  | _, _ => True

theorem Operator.symbol_ne_nil (op : Operator) : op.symbol.toList ≠ [] := by
  cases op <;> decide

theorem Operator.isSymbolChar_of_mem {op : Operator} {c : Char} (h : c ∈ op.symbol.toList) :
    isSymbolChar c = true :=
  List.all_eq_true.mp (isSymbolChar_of_mem_symbol op) c h

/-- No token begins with a blank. -/
theorem Token.Stands.ends_blank {t : Token} {r : List Char} (h : t.Stands r) :
    Ends Text.isBlank (t.spelling ++ r) := by
  cases t with
  | word w =>
    exact ends_append_of_all h.1.1 h.1.2
      (fun _ hc => isBlank_of_isLiteralChar (isLiteralChar_of_isWordChar hc)) r
  | operator op =>
    exact ends_append_of_all op.symbol_ne_nil (fun _ => Operator.isSymbolChar_of_mem)
      (fun _ => isBlank_of_isSymbolChar) r
  | ending => exact h ▸ ends_nil _
  | _ => exact ends_cons.mpr (by decide)

/-- Every token but the ending is written with one character or more. -/
theorem Token.Stands.spelling_ne_nil {t : Token} {r : List Char} (h : t.Stands r)
    (ht : t ≠ .ending) : t.spelling ≠ [] := by
  cases t with
  | word w => exact h.1.1
  | operator op => exact op.symbol_ne_nil
  | ending => exact absurd rfl ht
  | _ => exact List.cons_ne_nil _ _

namespace Cursor

variable {c d : Cursor} {t : Token}

/-- Where an operator's own symbol stands, the operator is read. -/
theorem token_of_symbol {op : Operator} (h : c.run Operator.isSymbolChar = op.symbol.toList) :
    c.token = (.ok (.operator op), c.skip op.symbol.toList.length) := by
  obtain ⟨x, s, hs⟩ := List.exists_cons_of_ne_nil op.symbol_ne_nil
  have hx : Operator.isSymbolChar x = true :=
    Operator.isSymbolChar_of_mem (show x ∈ op.symbol.toList from hs ▸ List.mem_cons_self)
  obtain ⟨r, hr⟩ : ∃ r, c.rest = x :: r :=
    ⟨_, (passes_run c _).rest_eq.trans (by rw [h, hs]; rfl)⟩
  have hc : c.skipBlanks = c :=
    skipBlanks_of_ends (hr ▸ ends_cons.mpr (isBlank_of_isSymbolChar hx))
  unfold token
  simp only [hc, hr]
  split
  case h_8 e =>
    cases e
    simp [hx, h, Operator.ofSymbol?_symbol]
  case h_1 e => cases e
  all_goals next e => cases e; exact absurd hx (by decide)

/-- Where a name stands, it is read as a word. -/
theorem token_of_name (h : IsName (c.run isWordChar)) :
    c.token =
      (.ok (.word (String.ofList (c.run isWordChar))), c.skip (c.run isWordChar).length) := by
  obtain ⟨x, s, hs⟩ := List.exists_cons_of_ne_nil h.1
  have hx : isWordChar x = true := h.2 x (hs ▸ List.mem_cons_self)
  obtain ⟨r, hr⟩ : ∃ r, c.rest = x :: r :=
    ⟨_, (passes_run c _).rest_eq.trans (by rw [hs]; rfl)⟩
  have hb : Text.isBlank x = false := isBlank_of_isLiteralChar (isLiteralChar_of_isWordChar hx)
  have hc : c.skipBlanks = c := skipBlanks_of_ends (hr ▸ ends_cons.mpr hb)
  unfold token
  simp only [hc, hr]
  split
  case h_8 e =>
    cases e
    simp [hx, isSymbolChar_of_isWordChar hx]
  case h_1 e => cases e
  all_goals next e => cases e; exact absurd hx (by decide)

/-- What is read as a token behind the blanks is written there, and stands there. -/
theorem stands_of_token (hc : Ends Text.isBlank c.rest) (h : c.token = (.ok t, d)) :
    c.Passes t.spelling d ∧ t.Stands d.rest := by
  unfold token at h
  simp only [skipBlanks_of_ends hc] at h
  split at h
  case h_1 hr => cases h; exact ⟨.refl c, hr⟩
  case h_2 hr => cases h; exact ⟨passes_skip (s := ['\x7b']) hr, trivial⟩
  case h_3 hr => cases h; exact ⟨passes_skip (s := ['\x7d']) hr, trivial⟩
  case h_4 hr => cases h; exact ⟨passes_skip (s := ['(']) hr, trivial⟩
  case h_5 hr => cases h; exact ⟨passes_skip (s := [')']) hr, trivial⟩
  case h_6 hr => cases h; exact ⟨passes_skip (s := [',']) hr, trivial⟩
  case h_7 hr => cases h; exact ⟨passes_skip (s := ['&', '&']) hr, trivial⟩
  case h_8 x r _ _ _ _ _ _ hr =>
    split at h
    · split at h
      · next op hop =>
        cases h
        have hs : op.symbol.toList = c.run Operator.isSymbolChar := by
          rw [Operator.ofSymbol?_eq_some hop, String.toList_ofList]
        exact ⟨by simpa [Token.spelling, hs] using passes_run c _, ends_run c _⟩
      · cases h
    · split at h
      · next hx =>
        cases h
        have hne : c.run isWordChar ≠ [] := by simp [run, hr, hx]
        refine ⟨by simpa [Token.spelling] using passes_run c _, ?_, ends_run c _⟩
        rw [String.toList_ofList]
        exact ⟨hne, fun _ => mem_run⟩
      · cases h

/-- What is written behind the blanks and stands there is read as the token. -/
theorem token_of_stands (h : c.Passes t.spelling d) (ht : t.Stands d.rest) :
    c.token = (.ok t, d) := by
  have hc : c.skipBlanks = c :=
    skipBlanks_of_ends (h.rest_eq ▸ ht.ends_blank)
  have hd := h.eq_skip
  have hr := h.rest_eq
  cases t with
  | word w =>
    have hw : c.run isWordChar = w.toList := h.run_eq ht.1.2 ht.2
    rw [token_of_name (hw ▸ ht.1), hw, String.ofList_toList, hd]
    rfl
  | operator op =>
    rw [token_of_symbol (h.run_eq (fun _ => Operator.isSymbolChar_of_mem) ht), hd]
    rfl
  | ending =>
    have hn : c.rest = [] := hr.trans ht
    obtain rfl : d = c := hd.trans (by simp [skip, Token.spelling])
    simp [token, hc, hn]
  | _ =>
    simp only [Token.spelling, List.cons_append, List.nil_append] at hr
    simp [token, hc, hr, hd, Token.spelling]

/-- **A token is read exactly where blanks and its spelling stand,** and reaches as far as its
characters do. -/
theorem token_eq_ok_iff :
    c.token = (.ok t, d) ↔ ∃ b, Blanks b ∧ c.Passes (b ++ t.spelling) d ∧ t.Stands d.rest := by
  constructor
  · intro h
    obtain ⟨hp, ht⟩ := stands_of_token (ends_skipBlanks c) ((token_skipBlanks c).trans h)
    exact ⟨_, fun _ => mem_run, (passes_skipBlanks c).trans hp, ht⟩
  · rintro ⟨b, hb, hp, ht⟩
    obtain ⟨e, he, hp⟩ := hp.split
    rw [← token_skipBlanks, he.skipBlanks_eq hb (hp.rest_eq ▸ ht.ends_blank)]
    exact token_of_stands hp ht

/-- **The ending is read exactly where nothing but blanks is left.** -/
theorem token_eq_ending_iff : c.token.1 = .ok .ending ↔ Blanks c.rest := by
  constructor
  · intro h
    have htoken : c.token = (.ok .ending, c.token.2) := Prod.ext h rfl
    obtain ⟨b, hb, hp, hend⟩ := token_eq_ok_iff.mp htoken
    have hrest := hp.rest_eq
    rw [show c.token.2.rest = [] from hend, Token.spelling, List.append_nil,
      List.append_nil] at hrest
    exact hrest ▸ hb
  · intro hb
    have hp : c.Passes (c.rest ++ Token.ending.spelling) (c.skip c.rest.length) := by
      rw [Token.spelling, List.append_nil]
      exact passes_skip (List.append_nil _).symm
    have hend : Token.ending.Stands (c.skip c.rest.length).rest := List.drop_length
    rw [token_eq_ok_iff.mpr ⟨_, hb, hp, hend⟩]

/-- **Behind the blanks, no token is read** from a character that begins none, which is not passed
over, or from a run of symbol characters that is no operator, which is. -/
theorem token_error_cases {err : TokenError} (hc : Ends Text.isBlank c.rest)
    (h : c.token = (.error err, d)) :
    (∃ x s, c.rest = x :: s ∧ err = .unexpected x c.offset ∧ d = c) ∨
      (c.run Operator.isSymbolChar ≠ [] ∧
        err = .notAnOperator (String.ofList (c.run Operator.isSymbolChar)) c.offset ∧
        d = c.skip (c.run Operator.isSymbolChar).length) := by
  simp only [token, skipBlanks_of_ends hc] at h
  split at h
  case h_8 x s _ _ _ _ _ _ hr =>
    split at h
    · next hx =>
      split at h
      · cases h
      · cases h
        exact .inr ⟨by simp [run, hr, hx], rfl, rfl⟩
    · split at h
      · cases h
      · cases h
        exact .inl ⟨x, s, hr, rfl, rfl⟩
  all_goals cases h

/-! ## 5. Literals -/

/-- A quoted literal ends at the first quote without a backslash, and no sooner. -/
theorem quotedLength?_append {s : List Char} (h : ClosesQuote s) (r : List Char) :
    quotedLength? (s ++ r) = some s.length := by
  induction h with
  | quote => rfl
  | escaped c _ ih => simp [quotedLength?, ih]
  | plain hq hb _ ih =>
    rw [List.cons_append, quotedLength?]
    · simp [ih]
    · exact hq
    · exact fun _ _ e => absurd e hb

theorem closesQuote_of_quotedLength? (s : List Char) {n : Nat} (h : quotedLength? s = some n) :
    n ≤ s.length ∧ ClosesQuote (s.take n) := by
  fun_induction quotedLength? s generalizing n with
  | case1 => cases h
  | case2 s =>
    cases h
    exact ⟨by simp, .quote⟩
  | case3 c s ih =>
    obtain ⟨m, hm, rfl⟩ := Option.map_eq_some_iff.mp h
    obtain ⟨hle, hq⟩ := ih hm
    exact ⟨by simp only [List.length_cons]; omega, .escaped c hq⟩
  | case4 c s hq hb ih =>
    obtain ⟨m, hm, rfl⟩ := Option.map_eq_some_iff.mp h
    obtain ⟨hle, hs⟩ := ih hm
    refine ⟨by simp only [List.length_cons]; omega, .plain hq ?_ hs⟩
    rintro rfl
    cases s with
    | nil => simp [quotedLength?] at hm
    | cons d s => exact hb d s rfl rfl

end Cursor

/-- What a literal asks of itself and of the text behind it: it is quoted, or it is bare and reaches
as far as its characters do. -/
inductive LiteralStands : List Char → List Char → Prop
  | quoted {s r : List Char} : ClosesQuote s → LiteralStands ('"' :: s) r
  | bare {s r : List Char} : s ≠ [] → (∀ c ∈ s, isLiteralChar c = true) → Ends isLiteralChar r →
      LiteralStands s r

theorem LiteralStands.isLiteral {s r : List Char} (h : LiteralStands s r) : IsLiteral s := by
  cases h with
  | quoted hq => exact .quoted hq
  | bare hne hs _ => exact .bare hne hs

/-- A literal stands where nothing behind it could be part of it. -/
theorem IsLiteral.stands {s r : List Char} (h : IsLiteral s) (hr : Ends isLiteralChar r) :
    LiteralStands s r := by
  cases h with
  | quoted hq => exact .quoted hq
  | bare hne hs => exact .bare hne hs hr

theorem IsLiteral.ends_blank {s : List Char} (h : IsLiteral s) (r : List Char) :
    Ends Text.isBlank (s ++ r) := by
  cases h with
  | quoted _ => exact ends_cons.mpr (by decide)
  | bare hne hs => exact ends_append_of_all hne hs (fun _ => isBlank_of_isLiteralChar) r

namespace Cursor

variable {c d : Cursor} {raw : String}

theorem stands_of_literal (hc : Ends Text.isBlank c.rest) (h : c.literal = (.ok raw, d))
    (hne : raw ≠ "") : c.Passes raw.toList d ∧ LiteralStands raw.toList d.rest := by
  unfold literal at h
  simp only [skipBlanks_of_ends hc] at h
  split at h
  · next s hr =>
    split at h
    · next n hn =>
      cases h
      obtain ⟨hle, hq⟩ := closesQuote_of_quotedLength? s hn
      rw [String.toList_ofList, hr, List.take_succ_cons]
      refine ⟨?_, .quoted hq⟩
      have hlen : ('"' :: s.take n).length = n + 1 := by simp [Nat.min_eq_left hle]
      rw [← hlen]
      exact passes_skip (r := s.drop n) (by simp [hr])
    · cases h
  · cases h
    rw [String.toList_ofList]
    refine ⟨passes_run c _, .bare ?_ (fun _ => mem_run) (ends_run c _)⟩
    intro hnil
    exact hne (by rw [hnil])

theorem literal_of_stands (h : c.Passes raw.toList d) (hs : LiteralStands raw.toList d.rest) :
    c.literal = (.ok raw, d) := by
  have hc : c.skipBlanks = c :=
    skipBlanks_of_ends (h.rest_eq ▸ hs.isLiteral.ends_blank d.rest)
  have hd := h.eq_skip
  have hr := h.rest_eq
  generalize hl : raw.toList = l at *
  have hraw : String.ofList l = raw := by rw [← hl, String.ofList_toList]
  cases hs with
  | @quoted s _ hq =>
    rw [List.cons_append] at hr
    simp [literal, hc, hr, quotedLength?_append hq, hd, hraw]
  | bare hne hs he =>
    have hrun : c.run isLiteralChar = l := h.run_eq hs he
    obtain ⟨x, l', rfl⟩ := List.exists_cons_of_ne_nil hne
    have hx : x ≠ '"' := by
      rintro rfl
      exact absurd (hs _ List.mem_cons_self) (by decide)
    unfold literal
    simp only [hc]
    split
    · next e => rw [hr] at e; cases e; exact absurd rfl hx
    · rw [hrun, hraw, hd]

/-- **Behind the blanks, a literal is refused** only if it begins with a quote and is not closed,
and then all the rest is passed over. -/
theorem literal_error_cases {err : TokenError} (hc : Ends Text.isBlank c.rest)
    (h : c.literal = (.error err, d)) :
    ∃ s, c.rest = '"' :: s ∧ err = .unclosed (String.ofList c.rest) c.offset ∧
      d = c.skip c.rest.length := by
  simp only [literal, skipBlanks_of_ends hc] at h
  split at h
  · next s hr =>
    split at h
    · cases h
    · cases h
      exact ⟨s, hr, rfl, rfl⟩
  · cases h

/-- **A literal is read exactly where blanks and the literal stand,** and reaches as far as its
characters do if it has no quotes. -/
theorem literal_eq_ok_iff (hne : raw ≠ "") :
    c.literal = (.ok raw, d) ↔
      ∃ b, Blanks b ∧ c.Passes (b ++ raw.toList) d ∧ LiteralStands raw.toList d.rest := by
  constructor
  · intro h
    obtain ⟨hp, hs⟩ := stands_of_literal (ends_skipBlanks c) ((literal_skipBlanks c).trans h) hne
    exact ⟨_, fun _ => mem_run, (passes_skipBlanks c).trans hp, hs⟩
  · rintro ⟨b, hb, hp, hs⟩
    obtain ⟨e, he, hp⟩ := hp.split
    rw [← literal_skipBlanks,
      he.skipBlanks_eq hb (hp.rest_eq ▸ hs.isLiteral.ends_blank d.rest)]
    exact literal_of_stands hp hs

end Cursor
end JsonSieve
