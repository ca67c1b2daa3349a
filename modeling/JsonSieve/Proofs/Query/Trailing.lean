/-
# Text behind a query

A text that compiles is a whole query, and no longer text is read as anything else: with blanks
behind it the same query is read, and with anything else behind it the error is about what stands
there (`compile_append`).

The reader of the longer text comes to the end of the node as it did before, since a node ends with
its closing brace and nothing behind the brace has a part in it (`readWhole_of_spells_ahead`).  So
all that is left is to read one token from where the node ends.  Blanks before it are no part of it
(`token_of_blanks`), and neither is the place where it stands (`token_shift`).
-/
import JsonSieve.Proofs.Query.Spelling

namespace JsonSieve

/-- The error of a text that stands so many characters further on. -/
def TokenError.shift (n : Nat) : TokenError → TokenError
  | unexpected c offset => unexpected c (n + offset)
  | notAnOperator symbol offset => notAnOperator symbol (n + offset)
  | unclosed fragment offset => unclosed fragment (n + offset)

theorem Blanks.append {s t : List Char} (hs : Blanks s) (ht : Blanks t) : Blanks (s ++ t) :=
  fun c hc => (List.mem_append.mp hc).elim (hs c) (ht c)

/-! ## 1. The same text further on -/

namespace Cursor

/-- The cursor so many characters further on in another text, with the same text ahead. -/
def shift (n : Nat) (c : Cursor) : Cursor := ⟨n + c.offset, c.rest⟩

theorem shift_skip (n k : Nat) (c : Cursor) : (c.shift n).skip k = (c.skip k).shift n := by
  simp only [shift, skip, Nat.add_assoc]

theorem shift_skipBlanks (n : Nat) (c : Cursor) :
    (c.shift n).skipBlanks = c.skipBlanks.shift n :=
  shift_skip n _ c

/-- **A token is the same** wherever its text stands, and so is an error but for its place. -/
theorem token_shift (n : Nat) (c : Cursor) :
    (c.shift n).token.1 = c.token.1.mapError (TokenError.shift n) := by
  simp only [token, shift_skipBlanks]
  generalize c.skipBlanks = d
  obtain ⟨o, r⟩ := d
  simp only [shift, run]
  split
  case h_8 first _ _ _ _ _ _ _ =>
    cases hsymbol : Operator.isSymbolChar first with
    | true =>
      simp only [if_true]
      split <;> rfl
    | false =>
      cases hword : isWordChar first <;> rfl
  all_goals rfl

/-- Blanks before a token are no part of it. -/
theorem token_of_blanks {c d : Cursor} {b : List Char} (hp : c.Passes b d) (hb : Blanks b) :
    c.token = d.token := by
  have hblanks : Blanks (b ++ d.run Text.isBlank) := hb.append fun _ => mem_run
  have hskip : c.skipBlanks = d.skipBlanks :=
    (hp.trans (passes_skipBlanks d)).skipBlanks_eq hblanks (ends_skipBlanks d)
  rw [← token_skipBlanks c, hskip, token_skipBlanks]

end Cursor

namespace Text

theorem trim_of_blanks {b : List Char} (hb : Blanks b) (s : List Char) :
    trim (b ++ s) = trim s := by
  have hdrop : dropBlanks (b ++ s) = dropBlanks s := List.dropWhile_append_of_pos hb
  rw [trim, hdrop, trim]

end Text

namespace Query

variable {c d e : Cursor}

/-! ## 2. The ending -/

theorem next_of_token {t : Token} (h : c.token.1 = .ok t) : next c = .ok t c.token.2 :=
  moving_eq_ok.mpr (Prod.ext h rfl)

theorem next_of_token_error {err : TokenError} (h : c.token.1 = .error err) :
    next c = .error (.token err) c.token.2 := by
  have hpair : c.token = (.error err, c.token.2) := Prod.ext h rfl
  rw [next, moving, hpair]

theorem readEnding_of_token {t : Token} (h : c.token.1 = .ok t) (ht : t ≠ .ending) :
    readEnding c = .error (.trailing (String.ofList (Text.trim c.rest))) c.token.2 := by
  rw [readEnding]
  refine (bind_of_ok (here_eq_ok.mpr ⟨rfl, rfl⟩)).trans ?_
  refine (bind_of_ok (next_of_token h)).trans ?_
  rw [if_neg (by simpa using ht)]
  rfl

theorem readEnding_of_token_error {err : TokenError} (h : c.token.1 = .error err) :
    readEnding c = .error (.token err) c.token.2 := by
  rw [readEnding]
  refine (bind_of_ok (here_eq_ok.mpr ⟨rfl, rfl⟩)).trans ?_
  exact bind_of_error (next_of_token_error h)

/-- Nothing but blanks is left exactly where the ending is read. -/
theorem token_start_eq_ending_iff {text : String} :
    (Cursor.start text).token.1 = .ok .ending ↔ Blanks text.toList :=
  Cursor.token_eq_ending_iff

/-! ## 3. Longer texts -/

/-- Blanks behind a query are part of its spelling. -/
theorem Spells.append_blanks {s t : List Char} {q : Query} (h : Spells s q) (ht : Blanks t) :
    Spells (s ++ t) q := by
  cases h with
  | bare hs hb =>
    rw [List.append_assoc]
    exact .bare hs (hb.append ht)
  | named ha hname hs hb =>
    rw [List.append_assoc]
    exact .named ha hname hs (hb.append ht)

/-- **What stands behind a query** is blank, or it is what the longer text is refused for: for the
characters that are no token, at their place in the longer text, or else for all of what stands
there. -/
theorem compile_append {source : String} {q : Query} (h : compile source = .ok q) (more : String) :
    (Blanks more.toList → compile (source ++ more) = .ok q) ∧
    (¬ Blanks more.toList →
      (∀ t, (Cursor.start more).token.1 = .ok t → compile (source ++ more) =
        .error (.trailing (String.ofList (Text.trim more.toList)))) ∧
      ∀ err, (Cursor.start more).token.1 = .error err → compile (source ++ more) =
        .error (.token (err.shift source.length))) := by
  obtain ⟨hs, hq⟩ := (compile_eq_ok_iff_spells source q).mp h
  constructor
  · intro hblanks
    refine compile_of_spells ?_ hq
    rw [String.toList_append]
    exact hs.append_blanks hblanks
  · intro hblanks
    have hp : (Cursor.start (source ++ more)).Passes source.toList
        ((Cursor.start more).shift source.length) :=
      ⟨String.toList_append, by simp [Cursor.start, Cursor.shift, String.length_toList]⟩
    obtain ⟨b, d, hb, pb, hwhole⟩ := readWhole_of_spells_ahead hs hq hp
    have htoken : d.token.1 =
        (Cursor.start more).token.1.mapError (TokenError.shift source.length) := by
      rw [Cursor.token_of_blanks pb hb, Cursor.token_shift]
    constructor
    · intro t ht
      have hne : t ≠ .ending := by
        rintro rfl
        exact hblanks (token_start_eq_ending_iff.mp ht)
      rw [ht] at htoken
      have hend := bind_of_error (f := fun _ => pure q) (readEnding_of_token htoken hne)
      rw [compile, hwhole, hend, pb.rest_eq, Text.trim_of_blanks hb]
      rfl
    · intro err herr
      rw [herr] at htoken
      have hend := bind_of_error (f := fun _ => pure q) (readEnding_of_token_error htoken)
      rw [compile, hwhole, hend]

/-- Behind `{a}` one brace more is not refused where it stands but for all the text behind, and a
sign that is no operator is refused alone, five characters from the beginning. -/
theorem compile_append_brace :
    compile "\x7ba\x7d" = .ok (.node [] ["a"] []) ∧
    compile ("\x7ba\x7d" ++ " \x7d b ") = .error (.trailing "\x7d b") ∧
    compile ("\x7ba\x7d" ++ "  =! b") = .error (.token (.notAnOperator "=!" 5)) := by
  have h : compile "\x7ba\x7d" = .ok (.node [] ["a"] []) := rfl
  have hbrace : ¬ Blanks " \x7d b ".toList := fun hb => absurd (hb '\x7d' (by decide)) (by decide)
  have hsymbol : ¬ Blanks "  =! b".toList := fun hb => absurd (hb '=' (by decide)) (by decide)
  refine ⟨h, ?_, ?_⟩
  · exact ((compile_append h " \x7d b ").2 hbrace).1 .closeBrace rfl
  · exact ((compile_append h "  =! b").2 hsymbol).2 (.notAnOperator "=!" 2) rfl

end Query
end JsonSieve
