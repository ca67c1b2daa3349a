/-
# Stages of reading, run

How a stage of reading answers, step by step.  A stage that succeeds has succeeded in each of its
steps (`bind_eq_ok`), and each elementary step is a move of the cursor that `Cursor.Passes`
describes.  The stages of the reader are only ever opened with these equivalences.
-/
import JsonSieve.Proofs.Query.Token

namespace JsonSieve.Query

variable {α β : Type} {c d e : Cursor}

/-! ## 1. Putting stages together -/

theorem bind_eq_ok {x : Reading α} {f : α → Reading β} {b : β} :
    (x >>= f) c = .ok b d ↔ ∃ a e, x c = .ok a e ∧ f a e = .ok b d := by
  show EStateM.bind x f c = .ok b d ↔ _
  unfold EStateM.bind
  cases x c with
  | ok a e =>
    constructor
    · intro h
      exact ⟨a, e, rfl, h⟩
    · rintro ⟨_, _, h, hf⟩
      cases h
      exact hf
  | error err e => simp

theorem map_eq_ok {x : Reading α} {f : α → β} {b : β} :
    (f <$> x) c = .ok b d ↔ ∃ a, x c = .ok a d ∧ f a = b := by
  show EStateM.map f x c = .ok b d ↔ _
  unfold EStateM.map
  cases x c with
  | ok a e =>
    constructor
    · intro h
      cases h
      exact ⟨a, rfl, rfl⟩
    · rintro ⟨_, h, rfl⟩
      cases h
      rfl
  | error err e => simp

theorem pure_eq_ok {a b : α} : (pure a : Reading α) c = .ok b d ↔ a = b ∧ c = d := by
  show EStateM.Result.ok a c = .ok b d ↔ _
  simp

theorem throw_eq_ok {err : QueryError} {b : α} :
    (throw err : Reading α) c = .ok b d ↔ False := by
  show EStateM.Result.error err c = .ok b d ↔ _
  simp

/-- Behind a stage that succeeds, the next one goes on from where it stopped. -/
theorem bind_of_ok {x : Reading α} {f : α → Reading β} {a : α} (h : x c = .ok a d) :
    (x >>= f) c = f a d := by
  show EStateM.bind x f c = f a d
  simp only [EStateM.bind, h]

/-- A stage that fails is the last one. -/
theorem bind_of_error {x : Reading α} {f : α → Reading β} {err : QueryError}
    (h : x c = .error err d) : (x >>= f) c = .error err d := by
  show EStateM.bind x f c = .error err d
  simp only [EStateM.bind, h]

theorem map_of_error {x : Reading α} {f : α → β} {err : QueryError} (h : x c = .error err d) :
    (f <$> x) c = .error err d := by
  show EStateM.map f x c = .error err d
  simp only [EStateM.map, h]

/-- What a result of reading is to meet: one condition on an answer and the cursor behind it, and
one on an error. -/
def Meets (P : α → Cursor → Prop) (E : QueryError → Prop) :
    EStateM.Result QueryError Cursor α → Prop
  | .ok a d => P a d
  | .error err _ => E err

section

variable {P : α → Cursor → Prop} {Q : β → Cursor → Prop} {E : QueryError → Prop}

/-- **Stages put together** meet their conditions if the first one does, and the second one does
where the first one has stopped. -/
theorem Meets.bind {x : Reading α} {f : α → Reading β} (hx : Meets P E (x c))
    (hf : ∀ a d, x c = .ok a d → P a d → Meets Q E (f a d)) : Meets Q E ((x >>= f) c) := by
  show Meets Q E (EStateM.bind x f c)
  unfold EStateM.bind
  cases h : x c with
  | ok a d =>
    rw [h] at hx
    exact hf a d h hx
  | error err d =>
    rw [h] at hx
    exact hx

theorem Meets.map {x : Reading α} {f : α → β} (hx : Meets P E (x c))
    (hf : ∀ a d, P a d → Q (f a) d) : Meets Q E ((f <$> x) c) := by
  show Meets Q E (EStateM.map f x c)
  unfold EStateM.map
  cases h : x c with
  | ok a d =>
    rw [h] at hx
    exact hf a d hx
  | error err d =>
    rw [h] at hx
    exact hx

end

/-! ## 2. Moves of the cursor -/

theorem here_eq_ok : here c = .ok e d ↔ c = e ∧ c = d := by
  show EStateM.Result.ok c c = .ok e d ↔ _
  simp

theorem moving_eq_ok {f : Cursor → Except TokenError α × Cursor} {a : α} :
    moving f c = .ok a d ↔ f c = (.ok a, d) := by
  unfold moving
  split <;> simp_all

theorem next_eq_ok {t : Token} :
    next c = .ok t d ↔ ∃ b, Blanks b ∧ c.Passes (b ++ t.spelling) d ∧ t.Stands d.rest :=
  moving_eq_ok.trans Cursor.token_eq_ok_iff

theorem ahead_eq_ok {t : Token} : ahead c = .ok t d ↔ c = d ∧ ∃ e, next c = .ok t e := by
  simp only [ahead, next, moving_eq_ok, Cursor.peek, Prod.mk.injEq]
  constructor
  · rintro ⟨h, rfl⟩
    exact ⟨rfl, _, Prod.ext h rfl⟩
  · rintro ⟨rfl, e, h⟩
    exact ⟨by rw [h], rfl⟩

theorem wanted_eq_ok {what : Expectation} {found : Token} {a : α} :
    (wanted what found : Reading α) c = .ok a d ↔ False := by
  simp [wanted, bind_eq_ok, throw_eq_ok]

theorem nextLiteral_eq_ok {raw : String} (hne : raw ≠ "") :
    nextLiteral c = .ok raw d ↔
      ∃ b, Blanks b ∧ c.Passes (b ++ raw.toList) d ∧ LiteralStands raw.toList d.rest :=
  moving_eq_ok.trans (Cursor.literal_eq_ok_iff hne)

/-- A token is read once: reading it again from the same place gives it again. -/
theorem next_unique {t u : Token} (h : next c = .ok t d) (h' : next c = .ok u e) :
    t = u ∧ d = e := by
  rw [h] at h'
  cases h'
  exact ⟨rfl, rfl⟩

/-- Before the ending there is nothing but blanks. -/
theorem blanks_of_next_ending (h : next c = .ok .ending d) : Blanks c.rest :=
  Cursor.token_eq_ending_iff.mp (congrArg Prod.fst (moving_eq_ok.mp h))

/-! ## 3. Stages that ask for one token -/

theorem readKey_eq_ok {start : Cursor} {key : String} :
    readKey start c = .ok key d ↔ next c = .ok (.word key) d := by
  simp only [readKey, bind_eq_ok, here_eq_ok]
  constructor
  · rintro ⟨_, _, ⟨rfl, rfl⟩, t, e, ht, h⟩
    cases t <;> simp [bind_eq_ok, throw_eq_ok, pure_eq_ok] at h
    obtain ⟨rfl, rfl⟩ := h
    exact ht
  · intro h
    exact ⟨c, c, ⟨rfl, rfl⟩, .word key, d, h, pure_eq_ok.mpr ⟨rfl, rfl⟩⟩

theorem readOperator_eq_ok {key : String} {op : Operator} :
    readOperator key c = .ok op d ↔ next c = .ok (.operator op) d := by
  simp only [readOperator, bind_eq_ok]
  constructor
  · rintro ⟨t, e, ht, h⟩
    cases t <;> simp [throw_eq_ok, pure_eq_ok] at h
    obtain ⟨rfl, rfl⟩ := h
    exact ht
  · intro h
    exact ⟨.operator op, d, h, pure_eq_ok.mpr ⟨rfl, rfl⟩⟩

theorem readLiteral_eq_ok {key raw : String} {op : Operator} :
    readLiteral key op c = .ok raw d ↔ raw ≠ "" ∧ nextLiteral c = .ok raw d := by
  simp only [readLiteral, bind_eq_ok]
  constructor
  · rintro ⟨r, e, hr, h⟩
    split at h
    · simp [throw_eq_ok] at h
    · next hne =>
      obtain ⟨rfl, rfl⟩ := pure_eq_ok.mp h
      exact ⟨by simpa using hne, hr⟩
  · rintro ⟨hne, h⟩
    refine ⟨raw, d, h, ?_⟩
    rw [if_neg (by simpa using hne)]
    exact pure_eq_ok.mpr ⟨rfl, rfl⟩

theorem readName_eq_ok {start : Cursor} {name : String} :
    readName start c = .ok name d ↔ next c = .ok (.word name) d := by
  simp only [readName, bind_eq_ok, here_eq_ok]
  constructor
  · rintro ⟨_, _, ⟨rfl, rfl⟩, t, e, ht, h⟩
    cases t <;> simp [throw_eq_ok, pure_eq_ok, wanted_eq_ok] at h
    obtain ⟨rfl, rfl⟩ := h
    exact ht
  · intro h
    exact ⟨c, c, ⟨rfl, rfl⟩, .word name, d, h, pure_eq_ok.mpr ⟨rfl, rfl⟩⟩

theorem readOpening_eq_ok {start : Cursor} {u : Unit} :
    readOpening start c = .ok u d ↔ next c = .ok .openBrace d := by
  simp only [readOpening, bind_eq_ok]
  constructor
  · rintro ⟨t, e, ht, h⟩
    cases t <;> simp [bind_eq_ok, throw_eq_ok, pure_eq_ok, wanted_eq_ok] at h
    subst h
    exact ht
  · intro h
    exact ⟨.openBrace, d, h, pure_eq_ok.mpr ⟨rfl, rfl⟩⟩

theorem readEnding_eq_ok {u : Unit} : readEnding c = .ok u d ↔ next c = .ok .ending d := by
  simp only [readEnding, bind_eq_ok, here_eq_ok]
  constructor
  · rintro ⟨_, _, ⟨rfl, rfl⟩, t, e, ht, h⟩
    split at h
    · next he =>
      obtain ⟨-, rfl⟩ := pure_eq_ok.mp h
      rw [beq_iff_eq.mp he] at ht
      exact ht
    · simp [throw_eq_ok] at h
  · intro h
    exact ⟨c, c, ⟨rfl, rfl⟩, .ending, d, h, pure_eq_ok.mpr ⟨rfl, rfl⟩⟩

theorem refuseRepeated_eq_ok {taken : List String} {name : String} {u : Unit} :
    refuseRepeated taken name c = .ok u d ↔ name ∉ taken ∧ c = d := by
  unfold refuseRepeated
  split
  · next h => simp [throw_eq_ok, List.contains_iff_mem.mp h]
  · next h => simp [pure_eq_ok, mt List.contains_iff_mem.mpr h]

/-! ## 4. Stages that choose by the token ahead -/

theorem afterClause_eq_ok {start : Cursor} {more : Reading (List Filter)} {fs : List Filter} :
    afterClause start more c = .ok fs d ↔
      (∃ e, next c = .ok .both e ∧ more e = .ok fs d) ∨ (next c = .ok .closeParen d ∧ fs = []) := by
  simp only [afterClause, bind_eq_ok]
  constructor
  · rintro ⟨t, e, ht, h⟩
    cases t <;> simp [throw_eq_ok, pure_eq_ok, wanted_eq_ok] at h
    · exact .inl ⟨e, ht, h⟩
    · obtain ⟨rfl, rfl⟩ := h
      exact .inr ⟨ht, rfl⟩
  · rintro (⟨e, ht, h⟩ | ⟨ht, rfl⟩)
    · exact ⟨.both, e, ht, h⟩
    · exact ⟨.closeParen, d, ht, pure_eq_ok.mpr ⟨rfl, rfl⟩⟩

theorem refuseEmptyFilter_eq_ok {u : Unit} :
    refuseEmptyFilter c = .ok u d ↔ c = d ∧ ∃ t e, next c = .ok t e ∧ t ≠ .closeParen := by
  simp only [refuseEmptyFilter, bind_eq_ok, ahead_eq_ok]
  constructor
  · rintro ⟨t, _, ⟨rfl, e, ht⟩, h⟩
    split at h
    · simp [bind_eq_ok, throw_eq_ok] at h
    · next hne =>
      exact ⟨(pure_eq_ok.mp h).2, t, e, ht, by simpa using hne⟩
  · rintro ⟨rfl, t, e, ht, hne⟩
    refine ⟨t, c, ⟨rfl, e, ht⟩, ?_⟩
    rw [if_neg (by simpa using hne)]
    exact pure_eq_ok.mpr ⟨rfl, rfl⟩

theorem readFilters_eq_ok {start : Cursor} {fuel : Nat} {fs : List Filter} :
    readFilters start fuel c = .ok fs d ↔
      (∃ e, next c = .ok .openParen e ∧ (∃ t g, next e = .ok t g ∧ t ≠ .closeParen) ∧
        readClauses start fuel e = .ok fs d) ∨
      (c = d ∧ fs = [] ∧ ∃ t e, next c = .ok t e ∧ t ≠ .openParen) := by
  simp only [readFilters, bind_eq_ok, ahead_eq_ok]
  constructor
  · rintro ⟨t, _, ⟨rfl, e, ht⟩, h⟩
    split at h
    · next hp =>
      simp only [bind_eq_ok, refuseEmptyFilter_eq_ok] at h
      obtain ⟨u, g, hu, _, _, ⟨rfl, hne⟩, h⟩ := h
      rw [beq_iff_eq.mp hp] at ht
      obtain ⟨rfl, rfl⟩ := next_unique ht hu
      exact .inl ⟨e, ht, hne, h⟩
    · next hne =>
      obtain ⟨rfl, rfl⟩ := pure_eq_ok.mp h
      exact .inr ⟨rfl, rfl, t, e, ht, by simpa using hne⟩
  · rintro (⟨e, ht, hne, h⟩ | ⟨rfl, rfl, t, e, ht, hne⟩)
    · refine ⟨.openParen, c, ⟨rfl, e, ht⟩, ?_⟩
      rw [if_pos (beq_self_eq_true _)]
      simp only [bind_eq_ok, refuseEmptyFilter_eq_ok]
      exact ⟨.openParen, e, ht, (), e, ⟨rfl, hne⟩, h⟩
    · refine ⟨t, c, ⟨rfl, e, ht⟩, ?_⟩
      rw [if_neg (by simpa using hne)]
      exact pure_eq_ok.mpr ⟨rfl, rfl⟩

theorem readItem_eq_ok {name : String} {node : Reading Query} {item : Item} :
    readItem name node c = .ok item d ↔ ∃ t e, next c = .ok t e ∧
      if t = .openParen ∨ t = .openBrace then ∃ q, node c = .ok q d ∧ Item.nested name q = item
      else Item.field name = item ∧ c = d := by
  simp only [readItem, bind_eq_ok, ahead_eq_ok]
  constructor
  · rintro ⟨t, _, ⟨rfl, e, ht⟩, h⟩
    refine ⟨t, e, ht, ?_⟩
    cases t <;> simpa [map_eq_ok, pure_eq_ok] using h
  · rintro ⟨t, e, ht, h⟩
    refine ⟨t, c, ⟨rfl, e, ht⟩, ?_⟩
    cases t <;> simpa [map_eq_ok, pure_eq_ok] using h

theorem afterItem_eq_ok {start : Cursor} {more : Reading (List Item)} {items : List Item} :
    afterItem start more c = .ok items d ↔
      (∃ e, next c = .ok .comma e ∧ more e = .ok items d) ∨
      (next c = .ok .closeBrace d ∧ items = []) := by
  simp only [afterItem, bind_eq_ok]
  constructor
  · rintro ⟨t, e, ht, h⟩
    cases t <;> simp [throw_eq_ok, pure_eq_ok, wanted_eq_ok] at h
    · obtain ⟨rfl, rfl⟩ := h
      exact .inr ⟨ht, rfl⟩
    · exact .inl ⟨e, ht, h⟩
  · rintro (⟨e, ht, h⟩ | ⟨ht, rfl⟩)
    · exact ⟨.comma, e, ht, h⟩
    · exact ⟨.closeBrace, d, ht, pure_eq_ok.mpr ⟨rfl, rfl⟩⟩

theorem readBody_eq_ok {more : Reading (List Item)} {items : List Item} :
    readBody more c = .ok items d ↔
      (next c = .ok .closeBrace d ∧ items = []) ∨
      ((∃ t e, next c = .ok t e ∧ t ≠ .closeBrace) ∧ more c = .ok items d) := by
  simp only [readBody, bind_eq_ok, ahead_eq_ok]
  constructor
  · rintro ⟨t, _, ⟨rfl, e, ht⟩, h⟩
    split at h
    · next hb =>
      obtain ⟨u, g, hu, h⟩ := bind_eq_ok.mp h
      obtain ⟨rfl, rfl⟩ := pure_eq_ok.mp h
      rw [beq_iff_eq.mp hb] at ht
      obtain ⟨rfl, rfl⟩ := next_unique ht hu
      exact .inl ⟨ht, rfl⟩
    · next hne => exact .inr ⟨⟨t, e, ht, by simpa using hne⟩, h⟩
  · rintro (⟨ht, rfl⟩ | ⟨⟨t, e, ht, hne⟩, h⟩)
    · refine ⟨.closeBrace, c, ⟨rfl, d, ht⟩, ?_⟩
      rw [if_pos (beq_self_eq_true _)]
      exact bind_eq_ok.mpr ⟨.closeBrace, d, ht, pure_eq_ok.mpr ⟨rfl, rfl⟩⟩
    · refine ⟨t, c, ⟨rfl, e, ht⟩, ?_⟩
      rwa [if_neg (by simpa using hne)]

theorem skipName_eq_ok {u : Unit} :
    skipName c = .ok u d ↔
      (∃ w, next c = .ok (.word w) d) ∨ (c = d ∧ ∃ t e, next c = .ok t e ∧ ∀ w, t ≠ .word w) := by
  simp only [skipName, bind_eq_ok, ahead_eq_ok]
  constructor
  · rintro ⟨t, _, ⟨rfl, e, ht⟩, h⟩
    cases t with
    | word w =>
      obtain ⟨v, g, hv, h⟩ := bind_eq_ok.mp h
      obtain ⟨-, rfl⟩ := pure_eq_ok.mp h
      obtain ⟨rfl, rfl⟩ := next_unique ht hv
      exact .inl ⟨w, ht⟩
    | _ => exact .inr ⟨(pure_eq_ok.mp h).2, _, e, ht, by simp⟩
  · rintro (⟨w, ht⟩ | ⟨rfl, t, e, ht, hne⟩)
    · exact ⟨.word w, c, ⟨rfl, d, ht⟩, bind_eq_ok.mpr ⟨.word w, d, ht, pure_eq_ok.mpr ⟨rfl, rfl⟩⟩⟩
    · refine ⟨t, c, ⟨rfl, e, ht⟩, ?_⟩
      cases t with
      | word w => exact absurd rfl (hne w)
      | _ => exact pure_eq_ok.mpr ⟨rfl, rfl⟩

end JsonSieve.Query
