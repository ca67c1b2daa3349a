/-
# Calls, one after the other

A text is read by calls: for the next token, for a look at it, or for the next literal.  They may
come in any order, and after an error the next call goes on from where the last one stopped.
Whatever the calls were, nothing of the text is lost (`losslessOn_after`): the cursor never goes
back and stays within the text, and what a call passes over is blanks and then its answer as it is
written.

An error passes over the blanks before it and over what it quotes.  An unexpected character is not
quoted but pointed at, and stays ahead of the cursor.

One call passes over some text, it may be none (`exists_passes_left`), and so do many
(`exists_passes_after`).  So every cursor that is reached has passed over the beginning of the
source and has the rest of it ahead, and this is all that the laws of a call need
(`losslessOn_of_passes`).
-/
import JsonSieve.Proofs.Query.Located

namespace JsonSieve

/-! ## 1. Calls -/

/-- What may be asked of a cursor. -/
inductive Call where
  /-- The next token. -/
  | token
  /-- The next token, without moving. -/
  | peek
  /-- The next literal. -/
  | literal
deriving DecidableEq, Repr

/-- What is passed over with an error, the blanks before it apart. -/
def TokenError.quoted : TokenError → List Char
  | unexpected _ _ => []
  | notAnOperator symbol _ => symbol.toList
  | unclosed fragment _ => fragment.toList

namespace Cursor

/-- The cursor that a call leaves, with an answer or with an error. -/
def left (c : Cursor) : Call → Cursor
  | .token => c.token.2
  | .peek => c.peek.2
  | .literal => c.literal.2

/-- The cursor that calls leave, one after the other. -/
def after (c : Cursor) (calls : List Call) : Cursor := calls.foldl left c

/-- Between two places of a source stand blanks and then a text, and nothing else. -/
def Takes (source : String) (c : Cursor) (s : List Char) (d : Cursor) : Prop :=
  ∃ b, Blanks b ∧ (fragment source c.offset d.offset).toList = b ++ s

/-- **Nothing of a source is lost at a cursor,** whatever is asked next. -/
structure LosslessOn (source : String) (c : Cursor) : Prop where
  /-- The cursor is a place in the source, and the rest of the source is ahead of it. -/
  rest_eq : c.rest = source.toList.drop c.offset
  /-- It is not behind the source. -/
  offset_le : c.offset ≤ source.length
  /-- No calls lead back. -/
  le_after : ∀ calls, c.offset ≤ (c.after calls).offset
  /-- A look gives what the call for the token would give, and moves nothing. -/
  peek_eq : c.peek = (c.token.1, c)
  /-- A token takes blanks and its spelling. -/
  token : ∀ t d, c.token = (.ok t, d) → Takes source c t.spelling d
  /-- Every token but the ending moves the cursor. -/
  lt_of_token : ∀ t d, c.token = (.ok t, d) → t ≠ .ending → c.offset < d.offset
  /-- The ending is read where nothing but blanks is left, and nowhere else. -/
  ending_iff : c.token.1 = .ok .ending ↔ Blanks (source.toList.drop c.offset)
  /-- A token that is refused takes blanks and what the error quotes. -/
  token_error : ∀ err d, c.token = (.error err, d) → Takes source c err.quoted d
  /-- A character that is not expected is ahead of the cursor, and only blanks are taken. -/
  unexpected : ∀ x offset d, c.token = (.error (.unexpected x offset), d) →
    Takes source c [] d ∧ d.offset = offset ∧ source.toList[offset]? = some x
  /-- A literal takes blanks and itself; one that is not there is empty. -/
  literal : ∀ raw d, c.literal = (.ok raw, d) → Takes source c raw.toList d
  /-- A literal is refused only if it is not closed, and then it takes all the rest. -/
  literal_error : ∀ err d, c.literal = (.error err, d) →
    (∃ text offset, err = .unclosed text offset) ∧ Takes source c err.quoted d ∧
      d.offset = source.length

/-! ## 2. What a call passes over -/

variable {c d : Cursor} {s : List Char} {raw : String} {err : TokenError}

/-- A character that is not expected stays ahead, behind the blanks. -/
theorem of_token_unexpected {x : Char} {offset : Nat}
    (h : c.token = (.error (.unexpected x offset), d)) :
    d.offset = offset ∧ d.rest.head? = some x := by
  rcases token_error_cases (ends_skipBlanks c) ((token_skipBlanks c).trans h) with
    ⟨y, s, hr, herr, rfl⟩ | ⟨-, herr, -⟩
  · cases herr
    rw [hr]
    exact ⟨rfl, rfl⟩
  · cases herr

/-- A token that is refused passes over blanks and what the error quotes. -/
theorem exists_passes_of_token_error (h : c.token = (.error err, d)) :
    ∃ b, Blanks b ∧ c.Passes (b ++ err.quoted) d := by
  have hblanks := passes_skipBlanks c
  refine ⟨_, fun _ => mem_run, hblanks.trans ?_⟩
  rcases token_error_cases (ends_skipBlanks c) ((token_skipBlanks c).trans h) with
    ⟨x, s, -, rfl, rfl⟩ | ⟨-, rfl, rfl⟩
  · exact .refl _
  · rw [TokenError.quoted, String.toList_ofList]
    exact passes_run _ _

/-- A literal that is there passes over blanks and itself, and one that is not over blanks. -/
theorem exists_passes_of_literal (h : c.literal = (.ok raw, d)) :
    ∃ b, Blanks b ∧ c.Passes (b ++ raw.toList) d := by
  by_cases hne : raw = ""
  · -- nothing stands where no literal is, so the law of what stands there does not apply
    subst hne
    refine ⟨c.run Text.isBlank, fun _ => mem_run, ?_⟩
    rw [String.toList_empty, List.append_nil, eq_skipBlanks_of_literal h]
    exact passes_skipBlanks c
  · obtain ⟨b, hb, hp, -⟩ := (literal_eq_ok_iff hne).mp h
    exact ⟨b, hb, hp⟩

/-- A literal that is not closed passes over all the rest. -/
theorem exists_passes_of_literal_error (h : c.literal = (.error err, d)) :
    (∃ text offset, err = .unclosed text offset) ∧ d.rest = [] ∧
      ∃ b, Blanks b ∧ c.Passes (b ++ err.quoted) d := by
  have hblanks := passes_skipBlanks c
  obtain ⟨s, -, rfl, rfl⟩ :=
    literal_error_cases (ends_skipBlanks c) ((literal_skipBlanks c).trans h)
  refine ⟨⟨_, _, rfl⟩, List.drop_length, _, fun _ => mem_run, hblanks.trans ?_⟩
  rw [TokenError.quoted, String.toList_ofList]
  exact passes_skip (List.append_nil _).symm

/-! ## 3. Runs of calls -/

/-- **A call passes over some text,** whatever its answer. -/
theorem exists_passes_left (c : Cursor) (call : Call) : ∃ s, c.Passes s (c.left call) := by
  cases call with
  | token =>
    cases h : c.token with
    | mk result d =>
      rw [left, h]
      cases result with
      | ok t =>
        obtain ⟨b, -, hp, -⟩ := token_eq_ok_iff.mp h
        exact ⟨_, hp⟩
      | error err =>
        obtain ⟨b, -, hp⟩ := exists_passes_of_token_error h
        exact ⟨_, hp⟩
  | peek => exact ⟨[], .refl c⟩
  | literal =>
    cases h : c.literal with
    | mk result d =>
      rw [left, h]
      cases result with
      | ok raw =>
        obtain ⟨b, -, hp⟩ := exists_passes_of_literal h
        exact ⟨_, hp⟩
      | error err =>
        obtain ⟨-, -, b, -, hp⟩ := exists_passes_of_literal_error h
        exact ⟨_, hp⟩

/-- **A run of calls passes over some text.** -/
theorem exists_passes_after (c : Cursor) (calls : List Call) : ∃ s, c.Passes s (c.after calls) := by
  induction calls generalizing c with
  | nil => exact ⟨[], .refl c⟩
  | cons call calls ih =>
    obtain ⟨s, hs⟩ := exists_passes_left c call
    obtain ⟨t, ht⟩ := ih (c.left call)
    exact ⟨s ++ t, hs.trans ht⟩

/-! ## 4. Places of a source -/

section

variable {source : String} {before : List Char} (hc : (start source).Passes before c)
include hc

theorem offset_of_passes : c.offset = before.length := hc.offset_eq.trans (Nat.zero_add _)

theorem toList_of_passes : source.toList = before ++ c.rest := hc.rest_eq

/-- The text between two places of a source is what lies between the cursors. -/
theorem fragment_of_passes (hd : c.Passes s d) :
    (fragment source c.offset d.offset).toList = s := by
  have hsource := toList_of_passes (hc.trans hd)
  rw [fragment, String.toList_ofList, hsource, offset_of_passes (hc.trans hd), List.take_left,
    offset_of_passes hc, List.drop_left]

theorem takes_of_passes {b : List Char} (hb : Blanks b) (hd : c.Passes (b ++ s) d) :
    Takes source c s d :=
  ⟨b, hb, fragment_of_passes hc hd⟩

theorem rest_of_passes : c.rest = source.toList.drop c.offset := by
  rw [toList_of_passes hc, offset_of_passes hc, List.drop_left]

theorem length_of_passes : source.length = c.offset + c.rest.length := by
  rw [← String.length_toList, toList_of_passes hc, offset_of_passes hc, List.length_append]

/-- **A cursor that has passed over the beginning of a source** has lost nothing of it. -/
theorem losslessOn_of_passes : c.LosslessOn source where
  rest_eq := rest_of_passes hc
  offset_le := length_of_passes hc ▸ Nat.le_add_right _ _
  le_after calls := by
    obtain ⟨s, hs⟩ := exists_passes_after c calls
    exact hs.offset_eq ▸ Nat.le_add_right _ _
  peek_eq := rfl
  token t d h := by
    obtain ⟨b, hb, hp, -⟩ := token_eq_ok_iff.mp h
    exact takes_of_passes hc hb hp
  lt_of_token t d h ht := by
    obtain ⟨b, -, hp, hstands⟩ := token_eq_ok_iff.mp h
    have hpos := List.length_pos_iff.mpr (hstands.spelling_ne_nil ht)
    rw [hp.offset_eq, List.length_append]
    omega
  ending_iff := by rw [token_eq_ending_iff, rest_of_passes hc]
  token_error err d h := by
    obtain ⟨b, hb, hp⟩ := exists_passes_of_token_error h
    exact takes_of_passes hc hb hp
  unexpected x offset d h := by
    obtain ⟨b, hb, hp⟩ := exists_passes_of_token_error h
    obtain ⟨rfl, hx⟩ := of_token_unexpected h
    refine ⟨takes_of_passes hc hb hp, rfl, ?_⟩
    rw [← hx, rest_of_passes (hc.trans hp), List.head?_drop]
  literal raw d h := by
    obtain ⟨b, hb, hp⟩ := exists_passes_of_literal h
    exact takes_of_passes hc hb hp
  literal_error err d h := by
    obtain ⟨herr, hend, b, hb, hp⟩ := exists_passes_of_literal_error h
    refine ⟨herr, takes_of_passes hc hb hp, ?_⟩
    rw [length_of_passes (hc.trans hp), hend]
    rfl

end

/-- **Whatever was called before, nothing of the source is lost.** -/
theorem losslessOn_after (source : String) (calls : List Call) :
    ((start source).after calls).LosslessOn source := by
  obtain ⟨before, hbefore⟩ := exists_passes_after (start source) calls
  exact losslessOn_of_passes hbefore

/-- Behind `=!`, which is no operator, the literal is read; the lone `&` is pointed at again and
again, eight characters from the beginning. -/
example :
    ((start "a =!\"b\" &").after [.token, .token, .literal, .token, .peek, .token]).offset = 8 :=
  rfl

end Cursor
end JsonSieve
