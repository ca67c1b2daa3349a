/-
# Reading is spelling

The reader accepts a text exactly when the grammar lets it spell a query, and answers with that
query (`compile_eq_ok_iff_spells`).

One way, every stage that succeeds has passed over a text that spells its answer; the induction is
on the fuel.  The other way, a stage that stands before a spelling of something answers with it; the
induction is on the spelling, and the fuel is at least the length of the text, since every step of
the reader passes over a character.
-/
import JsonSieve.Proofs.Query.Reading
import JsonSieve.Proofs.Query.Grammar

namespace JsonSieve

/-! ## 1. What may follow -/

theorem Ends.blanks_append {p : Char → Bool} {b s : List Char} (hb : Blanks b)
    (hp : ∀ c, Text.isBlank c = true → p c = false) (hs : Ends p s) : Ends p (b ++ s) :=
  Ends.append (fun c hc => hp c (hb c hc)) hs

theorem Ends.blanks_cons {p : Char → Bool} {b : List Char} {x : Char} (hb : Blanks b)
    (hp : ∀ c, Text.isBlank c = true → p c = false) (hx : p x = false) (r : List Char) :
    Ends p (b ++ x :: r) :=
  Ends.blanks_append hb hp (ends_cons.mpr hx)

theorem isLiteralChar_of_isBlank {c : Char} (h : Text.isBlank c = true) :
    isLiteralChar c = false := by
  simp [isLiteralChar, h]

theorem isWordChar_of_isBlank {c : Char} (h : Text.isBlank c = true) : isWordChar c = false := by
  simp [isWordChar, isLiteralChar_of_isBlank h]

theorem isSymbolChar_of_isBlank {c : Char} (h : Text.isBlank c = true) :
    Operator.isSymbolChar c = false := by
  cases hs : Operator.isSymbolChar c with
  | false => rfl
  | true => rw [isBlank_of_isSymbolChar hs] at h; cases h

theorem IsLiteral.ne_nil {s : List Char} (h : IsLiteral s) : s ≠ [] := by
  cases h with
  | quoted _ => exact List.cons_ne_nil _ _
  | bare hne _ => exact hne

namespace Query

variable {start c d e : Cursor}

/-- What no blank is part of ends where blanks and a sign follow that is no part of it either. -/
theorem ends_of_passes {p : Char → Bool} {b r : List Char} {x : Char} (hb : Blanks b)
    (hblank : ∀ c, Text.isBlank c = true → p c = false) (hx : p x = false)
    (hp : c.Passes (b ++ x :: r) d) : Ends p c.rest := by
  rw [hp.rest_eq, List.append_assoc]
  exact Ends.blanks_cons hb hblank hx _

/-! ## 2. Clauses -/

theorem spells_of_readClause {f : Filter} (h : readClause start c = .ok f d) :
    ∃ s, SpellsClause s f ∧ c.Passes s d := by
  simp only [readClause, bind_eq_ok, readKey_eq_ok, readOperator_eq_ok, readLiteral_eq_ok,
    pure_eq_ok] at h
  obtain ⟨key, c₁, hk, op, c₂, ho, raw, _, ⟨hne, hl⟩, rfl, rfl⟩ := h
  obtain ⟨a, ha, pa, hkey, -⟩ := next_eq_ok.mp hk
  obtain ⟨b, hb, pb, hop⟩ := next_eq_ok.mp ho
  obtain ⟨gap, hgap, pg, hraw⟩ := (nextLiteral_eq_ok hne).mp hl
  refine ⟨a ++ key.toList ++ b ++ op.symbol.toList ++ gap ++ raw.toList, ?_, ?_⟩
  · have apart : gap = [] → Ends Operator.isSymbolChar raw.toList := by
      rintro rfl
      rw [Token.Stands, pg.rest_eq] at hop
      exact Ends.of_append hop hraw.isLiteral.ne_nil
    simpa using SpellsClause.clause op ha hkey hb hgap hraw.isLiteral apart
  · simpa [Token.spelling] using (pa.trans pb).trans pg

theorem next_of_name {b name : List Char} (hb : Blanks b) (hn : IsName name)
    (hp : c.Passes (b ++ name) d) (hd : Ends isWordChar d.rest) :
    next c = .ok (.word (String.ofList name)) d :=
  next_eq_ok.mpr ⟨b, hb, by simpa [Token.spelling] using hp, by simpa using hn, hd⟩

/-- A name ends where an operator follows, blanks or not. -/
theorem ends_word_operator {b : List Char} (hb : Blanks b) (op : Operator) (r : List Char) :
    Ends isWordChar (b ++ op.symbol.toList ++ r) := by
  rw [List.append_assoc]
  refine Ends.blanks_append hb (fun _ => isWordChar_of_isBlank) ?_
  refine ends_append_of_all op.symbol_ne_nil (fun _ => Operator.isSymbolChar_of_mem) ?_ r
  intro x hx
  simp [isWordChar, hx]

theorem readClause_of_spells {s : List Char} {f : Filter} (h : SpellsClause s f)
    (hp : c.Passes s d) (hd : Ends isLiteralChar d.rest) : readClause start c = .ok f d := by
  obtain @⟨a, key, b, gap, raw, op, ha, hkey, hb, hgap, hraw, apart⟩ := h
  obtain ⟨c₂, hp, pg⟩ := (show c.Passes (a ++ key ++ (b ++ op.symbol.toList) ++ (gap ++ raw)) d by
    simpa using hp).split
  obtain ⟨c₁, pa, pb⟩ := hp.split
  have hk : next c = .ok (.word (String.ofList key)) c₁ :=
    next_of_name ha hkey pa (pb.rest_eq ▸ ends_word_operator hb op _)
  have ho : next c₁ = .ok (.operator op) c₂ := by
    refine next_eq_ok.mpr ⟨b, hb, pb, ?_⟩
    rw [Token.Stands, pg.rest_eq, List.append_assoc]
    cases gap with
    | nil => exact (apart rfl).append_of_ne_nil hraw.ne_nil
    | cons x gap => exact ends_cons.mpr (isSymbolChar_of_isBlank (hgap x List.mem_cons_self))
  have hne : String.ofList raw ≠ "" := by
    simpa [String.ofList_eq_empty_iff] using hraw.ne_nil
  have hl : nextLiteral c₂ = .ok (String.ofList raw) d :=
    (nextLiteral_eq_ok hne).mpr ⟨gap, hgap, by simpa using pg, by simpa using hraw.stands hd⟩
  simp only [readClause, bind_eq_ok, readKey_eq_ok, readOperator_eq_ok, readLiteral_eq_ok,
    pure_eq_ok]
  exact ⟨_, c₁, hk, op, c₂, ho, _, d, ⟨hne, hl⟩, rfl, rfl⟩

theorem spells_of_readClauses : ∀ {fuel : Nat} {c d : Cursor} {fs : List Filter},
    readClauses start fuel c = .ok fs d → ∃ s, SpellsClauses s fs ∧ c.Passes s d
  | 0, _, _, _, h => by simp [readClauses, throw_eq_ok] at h
  | fuel + 1, c, d, fs, h => by
    simp only [readClauses, bind_eq_ok, pure_eq_ok] at h
    obtain ⟨f, c₁, hf, fs, _, h, rfl, rfl⟩ := h
    obtain ⟨s, hs, ps⟩ := spells_of_readClause hf
    rcases afterClause_eq_ok.mp h with ⟨c₂, hn, hm⟩ | ⟨hn, rfl⟩
    · obtain ⟨b, hb, pb, -⟩ := next_eq_ok.mp hn
      obtain ⟨t, ht, pt⟩ := spells_of_readClauses hm
      refine ⟨s ++ b ++ '&' :: '&' :: t, .more hs hb ht, ?_⟩
      simpa [Token.spelling] using (ps.trans pb).trans pt
    · obtain ⟨b, hb, pb, -⟩ := next_eq_ok.mp hn
      refine ⟨s ++ b ++ [')'], .last hs hb, ?_⟩
      simpa [Token.spelling] using ps.trans pb

theorem readClauses_of_spells {s : List Char} {fs : List Filter} (h : SpellsClauses s fs) :
    ∀ {fuel : Nat} {c : Cursor}, s.length ≤ fuel → c.Passes s d →
      readClauses start fuel c = .ok fs d := by
  induction h with
  | @last s b f hs hb =>
    intro fuel c hfuel hp
    simp only [List.length_append, List.length_singleton] at hfuel
    obtain ⟨fuel, rfl⟩ : ∃ n, fuel = n + 1 := ⟨fuel - 1, by omega⟩
    obtain ⟨c₁, ps, pb⟩ := (show c.Passes (s ++ (b ++ [')'])) d by simpa using hp).split
    have hn : next c₁ = .ok .closeParen d := next_eq_ok.mpr ⟨b, hb, pb, trivial⟩
    have hend : Ends isLiteralChar c₁.rest :=
      ends_of_passes hb (fun _ => isLiteralChar_of_isBlank) (by decide) pb
    simp only [readClauses, bind_eq_ok, pure_eq_ok, afterClause_eq_ok]
    exact ⟨f, c₁, readClause_of_spells hs ps hend, [], d, .inr ⟨hn, rfl⟩, rfl, rfl⟩
  | @more s b t f fs hs hb _ ih =>
    intro fuel c hfuel hp
    simp only [List.length_append, List.length_cons] at hfuel
    obtain ⟨fuel, rfl⟩ : ∃ n, fuel = n + 1 := ⟨fuel - 1, by omega⟩
    obtain ⟨c₁, ps, hp⟩ := (show c.Passes (s ++ (b ++ ['&', '&'] ++ t)) d by simpa using hp).split
    obtain ⟨c₂, pb, pt⟩ := hp.split
    have hn : next c₁ = .ok .both c₂ := next_eq_ok.mpr ⟨b, hb, pb, trivial⟩
    have hend : Ends isLiteralChar c₁.rest :=
      ends_of_passes hb (fun _ => isLiteralChar_of_isBlank) (by decide) pb
    simp only [readClauses, bind_eq_ok, pure_eq_ok, afterClause_eq_ok]
    exact ⟨f, c₁, readClause_of_spells hs ps hend, fs, d, .inl ⟨c₂, hn, ih (by omega) pt⟩, rfl, rfl⟩

theorem spells_of_readFilters {fuel : Nat} {fs : List Filter}
    (h : readFilters start fuel c = .ok fs d) : ∃ s, SpellsFilter s fs ∧ c.Passes s d := by
  rcases readFilters_eq_ok.mp h with ⟨c₁, hn, -, h⟩ | ⟨rfl, rfl, -⟩
  · obtain ⟨b, hb, pb, -⟩ := next_eq_ok.mp hn
    obtain ⟨s, hs, ps⟩ := spells_of_readClauses h
    refine ⟨b ++ '(' :: s, .clauses hb hs, ?_⟩
    simpa [Token.spelling] using pb.trans ps
  · exact ⟨[], .missing, .refl c⟩

/-- Clauses begin with a key, so they do not begin like the closing parenthesis. -/
theorem next_of_readClauses {fuel : Nat} {fs : List Filter}
    (h : readClauses start fuel c = .ok fs d) : ∃ w e, next c = .ok (.word w) e := by
  cases fuel with
  | zero => simp [readClauses, throw_eq_ok] at h
  | succ fuel =>
    simp only [readClauses, readClause, bind_eq_ok, readKey_eq_ok] at h
    obtain ⟨_, _, ⟨key, e, hkey, -⟩, -⟩ := h
    exact ⟨key, e, hkey⟩

/-- A filter is read where one is spelled and an opening brace follows. -/
theorem readFilters_of_spells {fuel : Nat} {s : List Char} {fs : List Filter}
    (h : SpellsFilter s fs) (hfuel : s.length ≤ fuel) (hp : c.Passes s d)
    (hn : next d = .ok .openBrace e) : readFilters start fuel c = .ok fs d := by
  cases h with
  | missing =>
    obtain rfl : c = d := hp.eq_skip.symm ▸ rfl
    exact readFilters_eq_ok.mpr (.inr ⟨rfl, rfl, _, e, hn, by simp⟩)
  | @clauses b s _ hb hs =>
    obtain ⟨c₁, pb, ps⟩ := (show c.Passes (b ++ ['('] ++ s) d by simpa using hp).split
    have hlen : s.length ≤ fuel := by simp at hfuel; omega
    have hc : readClauses start fuel c₁ = .ok fs d := readClauses_of_spells hs hlen ps
    obtain ⟨w, c₂, hw⟩ := next_of_readClauses hc
    exact readFilters_eq_ok.mpr
      (.inl ⟨c₁, next_eq_ok.mpr ⟨b, hb, pb, trivial⟩, ⟨_, c₂, hw, by simp⟩, hc⟩)

/-- Before a body, the filter is read and the opening brace is passed over. -/
theorem readFilters_opening {fuel : Nat} {s b t : List Char} {fs : List Filter}
    (hs : SpellsFilter s fs) (hb : Blanks b) (hfuel : s.length ≤ fuel)
    (hp : c.Passes (s ++ b ++ '\x7b' :: t) d) :
    ∃ c₁ c₂, readFilters start fuel c = .ok fs c₁ ∧ next c₁ = .ok .openBrace c₂ ∧
      c₂.Passes t d := by
  obtain ⟨c₁, ps, hp⟩ := (show c.Passes (s ++ (b ++ ['\x7b'] ++ t)) d by simpa using hp).split
  obtain ⟨c₂, pb, pt⟩ := hp.split
  have hn : next c₁ = .ok .openBrace c₂ := next_eq_ok.mpr ⟨b, hb, pb, trivial⟩
  exact ⟨c₁, c₂, readFilters_of_spells hs hfuel ps hn, hn, pt⟩

/-! ## 3. Nodes and items -/

/-- The item of a name, if its query, should it have one, passes over a text that spells it. -/
theorem spells_of_readItem {name : String} {node : Reading Query} {item : Item} {c₁ c₂ : Cursor}
    (hn : next c = .ok (.word name) c₁) (hi : readItem name node c₁ = .ok item c₂)
    (hnode : ∀ e d q, node e = .ok q d → ∃ s, SpellsNode s q ∧ q.NoRepeats ∧ e.Passes s d) :
    ∃ s, SpellsItem s item ∧ item.name = name ∧ item.NoRepeats ∧ c.Passes s c₂ := by
  obtain ⟨b, hb, pb, hname, -⟩ := next_eq_ok.mp hn
  obtain ⟨t, e, -, hi⟩ := readItem_eq_ok.mp hi
  split at hi
  · obtain ⟨q, hq, rfl⟩ := hi
    obtain ⟨s, hs, hdeep, ps⟩ := hnode c₁ c₂ q hq
    refine ⟨b ++ name.toList ++ s, ?_, rfl, hdeep, by simpa [Token.spelling] using pb.trans ps⟩
    simpa using SpellsItem.nested hb hname hs
  · obtain ⟨rfl, rfl⟩ := hi
    exact ⟨b ++ name.toList, by simpa using SpellsItem.field hb hname, rfl, trivial, pb⟩

mutual

theorem spells_of_readNode : ∀ {fuel : Nat} {start c d : Cursor} {q : Query},
    readNode start fuel c = .ok q d → ∃ s, SpellsNode s q ∧ q.NoRepeats ∧ c.Passes s d
  | 0, _, _, _, _, h => by simp [readNode, throw_eq_ok] at h
  | fuel + 1, start, c, d, q, h => by
    simp only [readNode, bind_eq_ok, pure_eq_ok, readOpening_eq_ok] at h
    obtain ⟨fs, c₁, hf, _, c₂, hn, items, _, h, rfl, rfl⟩ := h
    obtain ⟨s, hs, ps⟩ := spells_of_readFilters hf
    obtain ⟨b, hb, pb, -⟩ := next_eq_ok.mp hn
    rcases readBody_eq_ok.mp h with ⟨hn, rfl⟩ | ⟨-, h⟩
    · obtain ⟨b', hb', pb', -⟩ := next_eq_ok.mp hn
      refine ⟨s ++ b ++ '\x7b' :: (b' ++ ['\x7d']), .node hs hb (.empty hb'), ?_, ?_⟩
      · exact noRepeats_ofItems_iff.mpr ⟨fresh_nil_right [], by simp⟩
      · simpa [Token.spelling] using (ps.trans pb).trans pb'
    · obtain ⟨t, ht, hfresh, hdeep, pt⟩ := spells_of_readItems h
      refine ⟨s ++ b ++ '\x7b' :: t, .node hs hb (.items ht), ?_, ?_⟩
      · exact noRepeats_ofItems_iff.mpr ⟨hfresh, hdeep⟩
      · simpa [Token.spelling] using (ps.trans pb).trans pt

theorem spells_of_readItems : ∀ {fuel : Nat} {start c d : Cursor} {taken : List String}
    {items : List Item}, readItems start taken fuel c = .ok items d →
    ∃ s, SpellsItems s items ∧ Fresh taken items ∧ (∀ item ∈ items, item.NoRepeats) ∧ c.Passes s d
  | 0, _, _, _, _, _, h => by simp [readItems, throw_eq_ok] at h
  | fuel + 1, start, c, d, taken, items, h => by
    simp only [readItems, bind_eq_ok, here_eq_ok, readName_eq_ok, refuseRepeated_eq_ok,
      pure_eq_ok] at h
    obtain ⟨_, _, ⟨rfl, rfl⟩, name, c₁, hn, _, _, ⟨hfresh, rfl⟩, item, c₂, hi, items, _, h, rfl,
      rfl⟩ := h
    obtain ⟨s, hs, rfl, hdeep, ps⟩ : ∃ s, SpellsItem s item ∧ item.name = name ∧ item.NoRepeats ∧
        c.Passes s c₂ :=
      spells_of_readItem hn hi fun _ _ _ => spells_of_readNode
    rcases afterItem_eq_ok.mp h with ⟨c₃, hn, hm⟩ | ⟨hn, rfl⟩
    · obtain ⟨b, hb, pb, -⟩ := next_eq_ok.mp hn
      obtain ⟨t, ht, hrest, hdeep', pt⟩ := spells_of_readItems hm
      refine ⟨s ++ b ++ ',' :: t, .more hs hb ht, fresh_cons.mpr ⟨hfresh, hrest⟩, ?_, ?_⟩
      · exact List.forall_mem_cons.mpr ⟨hdeep, hdeep'⟩
      · simpa [Token.spelling] using (ps.trans pb).trans pt
    · obtain ⟨b, hb, pb, -⟩ := next_eq_ok.mp hn
      refine ⟨s ++ b ++ ['\x7d'], .last hs hb, ?_, by simpa using hdeep, ?_⟩
      · exact fresh_cons.mpr ⟨hfresh, fresh_nil_right _⟩
      · simpa [Token.spelling] using ps.trans pb

end

/-- A node begins like a filter or like a body. -/
theorem next_of_spellsNode {s : List Char} {q : Query} (h : SpellsNode s q) (hp : c.Passes s d) :
    ∃ t e, next c = .ok t e ∧ (t = .openParen ∨ t = .openBrace) := by
  obtain ⟨hs, hb, -⟩ := h
  rename_i s b t fs items
  cases hs with
  | missing =>
    obtain ⟨c₁, pb, -⟩ := (show c.Passes (b ++ ['\x7b'] ++ t) d by simpa using hp).split
    exact ⟨.openBrace, c₁, next_eq_ok.mpr ⟨b, hb, pb, trivial⟩, .inr rfl⟩
  | @clauses a s _ ha _ =>
    obtain ⟨c₁, pa, -⟩ :=
      (show c.Passes (a ++ ['('] ++ (s ++ b ++ '\x7b' :: t)) d by simpa using hp).split
    exact ⟨.openParen, c₁, next_eq_ok.mpr ⟨a, ha, pa, trivial⟩, .inl rfl⟩

theorem SpellsNode.ends_word {s : List Char} {q : Query} (h : SpellsNode s q) (r : List Char) :
    Ends isWordChar (s ++ r) := by
  obtain ⟨hs, hb, -⟩ := h
  cases hs with
  | missing =>
    simpa using Ends.blanks_cons hb (fun _ => isWordChar_of_isBlank) (by decide) _
  | clauses ha _ =>
    simpa using Ends.blanks_cons ha (fun _ => isWordChar_of_isBlank) (by decide) _

/-- The comma behind an item, and the items behind the comma. -/
theorem passes_comma {s b t : List Char} (hb : Blanks b) (hp : c.Passes (s ++ b ++ ',' :: t) d) :
    ∃ c₁ c₂, c.Passes s c₁ ∧ Ends isWordChar c₁.rest ∧ next c₁ = .ok .comma c₂ ∧
      c₂.Passes t d := by
  obtain ⟨c₁, ps, hp⟩ := (show c.Passes (s ++ (b ++ [','] ++ t)) d by simpa using hp).split
  obtain ⟨c₂, pb, pt⟩ := hp.split
  have hn : next c₁ = .ok .comma c₂ := next_eq_ok.mpr ⟨b, hb, pb, trivial⟩
  exact ⟨c₁, c₂, ps, ends_of_passes hb (fun _ => isWordChar_of_isBlank) (by decide) pb, hn, pt⟩

/-- The closing brace behind the last item. -/
theorem passes_closeBrace {s b : List Char} (hb : Blanks b)
    (hp : c.Passes (s ++ b ++ ['\x7d']) d) :
    ∃ c₁, c.Passes s c₁ ∧ Ends isWordChar c₁.rest ∧ next c₁ = .ok .closeBrace d := by
  obtain ⟨c₁, ps, pb⟩ := (show c.Passes (s ++ (b ++ ['\x7d'])) d by simpa using hp).split
  have hn : next c₁ = .ok .closeBrace d := next_eq_ok.mpr ⟨b, hb, pb, trivial⟩
  exact ⟨c₁, ps, ends_of_passes hb (fun _ => isWordChar_of_isBlank) (by decide) pb, hn⟩

/-- An item begins with its name. -/
theorem next_of_spellsItem {s : List Char} {item : Item} (h : SpellsItem s item)
    (hp : c.Passes s d) (hend : Ends isWordChar d.rest) :
    ∃ e, next c = .ok (.word item.name) e := by
  cases h with
  | field hb hname => exact ⟨d, next_of_name hb hname hp hend⟩
  | nested hb hname hs =>
    obtain ⟨e, pb, ps⟩ := hp.split
    exact ⟨e, next_of_name hb hname pb (ps.rest_eq ▸ hs.ends_word d.rest)⟩

/-- Items begin with a name, so they do not begin like the closing brace. -/
theorem next_of_spellsItems {s : List Char} {items : List Item} (h : SpellsItems s items)
    (hp : c.Passes s d) : ∃ w e, next c = .ok (.word w) e := by
  cases h with
  | @last s b item hs hb =>
    obtain ⟨c₁, ps, hend, -⟩ := passes_closeBrace hb hp
    exact ⟨item.name, next_of_spellsItem hs ps hend⟩
  | @more s b t item items hs hb _ =>
    obtain ⟨c₁, c₂, ps, hend, -, -⟩ := passes_comma hb hp
    exact ⟨item.name, next_of_spellsItem hs ps hend⟩

/-- The item that a body goes on with, and the rest of the body behind it. -/
theorem readItems_eq_ok {fuel : Nat} {taken : List String} {item : Item} {items : List Item}
    {c₁ c₂ : Cursor} (hname : next c = .ok (.word item.name) c₁) (hfresh : item.name ∉ taken)
    (hitem : readItem item.name (readNode c fuel) c₁ = .ok item c₂)
    (hafter : afterItem start (readItems start (item.name :: taken) fuel) c₂ = .ok items d) :
    readItems start taken (fuel + 1) c = .ok (item :: items) d := by
  simp only [readItems, bind_eq_ok, here_eq_ok, readName_eq_ok, refuseRepeated_eq_ok, pure_eq_ok]
  exact ⟨c, c, ⟨rfl, rfl⟩, item.name, c₁, hname, (), c₁, ⟨hfresh, rfl⟩, item, c₂, hitem, items, d,
    hafter, rfl, rfl⟩

mutual

theorem readNode_of_spells : ∀ {s : List Char} {q : Query}, SpellsNode s q →
    ∀ {fuel : Nat} {start c d : Cursor}, q.NoRepeats → s.length ≤ fuel → c.Passes s d →
      readNode start fuel c = .ok q d
  | _, _, @SpellsNode.node s b t fs items hs hb hbody, fuel, start, c, d, hq, hfuel, hp => by
    simp only [List.length_append, List.length_cons] at hfuel
    obtain ⟨fuel, rfl⟩ : ∃ n, fuel = n + 1 := ⟨fuel - 1, by omega⟩
    obtain ⟨c₁, c₂, hf, hn, pt⟩ : ∃ c₁ c₂, readFilters start fuel c = .ok fs c₁ ∧
        next c₁ = .ok .openBrace c₂ ∧ c₂.Passes t d :=
      readFilters_opening hs hb (by omega) hp
    have hi : readBody (readItems start [] fuel) c₂ = .ok items d := by
      obtain ⟨hfresh, hdeep⟩ := noRepeats_ofItems_iff.mp hq
      cases hbody with
      | empty hb' => exact readBody_eq_ok.mpr (.inl ⟨next_eq_ok.mpr ⟨_, hb', pt, trivial⟩, rfl⟩)
      | items hitems =>
        have hr : readItems start [] fuel c₂ = .ok items d :=
          readItems_of_spells hitems hfresh hdeep (by omega) pt
        obtain ⟨w, e, hw⟩ := next_of_spellsItems hitems pt
        exact readBody_eq_ok.mpr (.inr ⟨⟨_, e, hw, by simp⟩, hr⟩)
    simp only [readNode, bind_eq_ok, pure_eq_ok, readOpening_eq_ok]
    exact ⟨fs, c₁, hf, (), c₂, hn, items, d, hi, rfl, rfl⟩

theorem readItems_of_spells : ∀ {s : List Char} {items : List Item}, SpellsItems s items →
    ∀ {fuel : Nat} {start c d : Cursor} {taken : List String}, Fresh taken items →
      (∀ item ∈ items, item.NoRepeats) → s.length ≤ fuel → c.Passes s d →
      readItems start taken fuel c = .ok items d
  | _, _, @SpellsItems.last s b item hs hb, fuel, start, c, d, taken, hfresh, hdeep, hfuel, hp => by
    simp only [List.length_append, List.length_singleton] at hfuel
    obtain ⟨fuel, rfl⟩ : ∃ n, fuel = n + 1 := ⟨fuel - 1, by omega⟩
    obtain ⟨c₁, ps, hend, hn⟩ := passes_closeBrace hb hp
    obtain ⟨e, hname, hitem⟩ : ∃ e, next c = .ok (.word item.name) e ∧
        readItem item.name (readNode c fuel) e = .ok item c₁ :=
      readItem_of_spells hs (hdeep item (by simp)) (by omega) ps hend hn (.inr rfl)
    exact readItems_eq_ok hname (fresh_cons.mp hfresh).1 hitem
      (afterItem_eq_ok.mpr (.inr ⟨hn, rfl⟩))
  | _, _, @SpellsItems.more s b t item items hs hb ht, fuel, start, c, d, taken, hfresh, hdeep,
      hfuel, hp => by
    simp only [List.length_append, List.length_cons] at hfuel
    obtain ⟨fuel, rfl⟩ : ∃ n, fuel = n + 1 := ⟨fuel - 1, by omega⟩
    obtain ⟨c₁, c₂, ps, hend, hn, pt⟩ := passes_comma hb hp
    obtain ⟨e, hname, hitem⟩ : ∃ e, next c = .ok (.word item.name) e ∧
        readItem item.name (readNode c fuel) e = .ok item c₁ :=
      readItem_of_spells hs (hdeep item (by simp)) (by omega) ps hend hn (.inl rfl)
    obtain ⟨hnot, hfresh⟩ := fresh_cons.mp hfresh
    have hrest : readItems start (item.name :: taken) fuel c₂ = .ok items d :=
      readItems_of_spells ht hfresh (fun i hi => hdeep i (by simp [hi])) (by omega) pt
    exact readItems_eq_ok hname hnot hitem (afterItem_eq_ok.mpr (.inl ⟨c₂, hn, hrest⟩))

theorem readItem_of_spells : ∀ {s : List Char} {item : Item}, SpellsItem s item →
    ∀ {fuel : Nat} {start c d e : Cursor} {t : Token}, item.NoRepeats → s.length ≤ fuel + 1 →
      c.Passes s d → Ends isWordChar d.rest → next d = .ok t e → (t = .comma ∨ t = .closeBrace) →
      ∃ g, next c = .ok (.word item.name) g ∧
        readItem item.name (readNode start fuel) g = .ok item d
  | _, _, .field hb hname, fuel, start, c, d, e, t, _, _, hp, hend, hn, ht => by
    refine ⟨d, next_of_name hb hname hp hend, readItem_eq_ok.mpr ⟨t, e, hn, ?_⟩⟩
    rw [if_neg (by rcases ht with rfl | rfl <;> simp)]
    exact ⟨rfl, rfl⟩
  | _, _, @SpellsItem.nested b name s q hb hname hs, fuel, start, c, d, e, t, hq, hfuel, hp, _, _,
      _ => by
    have := List.length_pos_iff.mpr hname.1
    simp only [List.length_append] at hfuel
    obtain ⟨g, pb, ps⟩ := hp.split
    obtain ⟨u, e', hu, hopen⟩ := next_of_spellsNode hs ps
    refine ⟨g, next_of_name hb hname pb (ps.rest_eq ▸ hs.ends_word d.rest),
      readItem_eq_ok.mpr ⟨u, e', hu, ?_⟩⟩
    rw [if_pos hopen]
    exact ⟨q, readNode_of_spells hs hq (by omega) ps, rfl⟩

end

/-! ## 4. Whole queries -/

theorem spells_of_readWhole {q : Query} (h : readWhole c = .ok q d) :
    ∃ s, Spells s q ∧ q.NoRepeats ∧ c.Passes s d ∧ d.rest = [] := by
  simp only [readWhole, bind_eq_ok, here_eq_ok, pure_eq_ok, readEnding_eq_ok] at h
  obtain ⟨_, _, ⟨rfl, rfl⟩, _, c₁, hskip, q, c₂, hq, _, _, hend, rfl, rfl⟩ := h
  obtain ⟨s, hs, hdeep, ps⟩ := spells_of_readNode hq
  obtain ⟨b, hb, pb, hnil⟩ := next_eq_ok.mp hend
  simp only [Token.spelling, List.append_nil] at pb
  rcases skipName_eq_ok.mp hskip with ⟨w, hw⟩ | ⟨rfl, -⟩
  · obtain ⟨a, ha, pa, hname, -⟩ := next_eq_ok.mp hw
    exact ⟨a ++ w.toList ++ s ++ b, .named ha hname hs hb, hdeep, (pa.trans ps).trans pb, hnil⟩
  · exact ⟨s ++ b, .bare hs hb, hdeep, ps.trans pb, hnil⟩

/-- No name is skipped before a node that has none. -/
theorem skipName_of_spellsNode {s : List Char} {q : Query} (h : SpellsNode s q)
    (hp : c.Passes s d) : skipName c = .ok () c := by
  obtain ⟨t, e, ht, hopen⟩ := next_of_spellsNode h hp
  refine skipName_eq_ok.mpr (.inr ⟨rfl, t, e, ht, ?_⟩)
  rintro w rfl
  simp at hopen

/-- Where the node of a query stands in a text that spells the query, and what is behind it. -/
theorem Spells.exists_node {s : List Char} {q : Query} (h : Spells s q) (hp : c.Passes s e) :
    ∃ t b c₁ d, SpellsNode t q ∧ t.length ≤ s.length ∧ skipName c = .ok () c₁ ∧ c₁.Passes t d ∧
      Blanks b ∧ d.Passes b e := by
  cases h with
  | @bare t b _ hs hb =>
    obtain ⟨d, pt, pb⟩ := hp.split
    refine ⟨t, b, c, d, hs, ?_, skipName_of_spellsNode hs pt, pt, hb, pb⟩
    rw [List.length_append]
    exact Nat.le_add_right _ _
  | @named a name t b _ ha hname hs hb =>
    obtain ⟨d, hp, pb⟩ := hp.split
    obtain ⟨c₁, pa, pt⟩ := hp.split
    have hword : next c = .ok (.word (String.ofList name)) c₁ :=
      next_of_name ha hname pa (pt.rest_eq ▸ hs.ends_word d.rest)
    refine ⟨t, b, c₁, d, hs, ?_, skipName_eq_ok.mpr (.inl ⟨_, hword⟩), pt, hb, pb⟩
    simp only [List.length_append]
    omega

/-- A query is read whatever comes behind it, and only the ending is left to look for. -/
theorem readWhole_of_spells_ahead {s : List Char} {q : Query} (h : Spells s q) (hq : q.NoRepeats)
    (hp : c.Passes s e) : ∃ b d, Blanks b ∧ d.Passes b e ∧
      readWhole c = (readEnding >>= fun _ => pure q) d := by
  obtain ⟨t, b, c₁, d, ht, hlen, hskip, pt, hb, pb⟩ := h.exists_node hp
  have hfuel : t.length ≤ 2 * c.rest.length + 2 := by
    rw [hp.rest_eq, List.length_append]
    omega
  refine ⟨b, d, hb, pb, ?_⟩
  rw [readWhole]
  refine (bind_of_ok (here_eq_ok.mpr ⟨rfl, rfl⟩)).trans ?_
  exact (bind_of_ok hskip).trans (bind_of_ok (readNode_of_spells ht hq hfuel pt))

theorem readWhole_of_spells {s : List Char} {q : Query} (h : Spells s q) (hq : q.NoRepeats)
    (hp : c.Passes s d) (hd : d.rest = []) : readWhole c = .ok q d := by
  obtain ⟨b, e, hb, pb, hwhole⟩ := readWhole_of_spells_ahead h hq hp
  have hend : next e = .ok .ending d :=
    next_eq_ok.mpr ⟨b, hb, by simpa [Token.spelling] using pb, hd⟩
  have hending : readEnding e = .ok () d := readEnding_eq_ok.mpr hend
  rw [hwhole]
  exact bind_of_ok hending

/-- The reader of a whole text stops behind the text. -/
theorem readWhole_start_eq_ok {source : String} {q : Query} :
    (∃ d, readWhole (.start source) = .ok q d) ↔ Spells source.toList q ∧ q.NoRepeats := by
  constructor
  · rintro ⟨d, h⟩
    obtain ⟨s, hs, hq, hp, hd⟩ := spells_of_readWhole h
    have hsource : source.toList = s := by
      have hr := hp.rest_eq
      rwa [hd, List.append_nil] at hr
    exact ⟨hsource ▸ hs, hq⟩
  · rintro ⟨hs, hq⟩
    have hp := Cursor.passes_start source
    exact ⟨_, readWhole_of_spells hs hq hp (by simp [Cursor.skip, Cursor.start])⟩

theorem compile_eq_ok_iff_readWhole {source : String} {q : Query} :
    compile source = .ok q ↔ ∃ d, readWhole (.start source) = .ok q d := by
  unfold compile
  cases readWhole (.start source) <;> simp

/-- What spells a query with no name repeated compiles to it. -/
theorem compile_of_spells {source : String} {q : Query} (hs : Spells source.toList q)
    (hq : q.NoRepeats) : compile source = .ok q :=
  compile_eq_ok_iff_readWhole.mpr (readWhole_start_eq_ok.mpr ⟨hs, hq⟩)

/-- What compiles to a query spells it. -/
theorem spells_of_compile {source : String} {q : Query} (h : compile source = .ok q) :
    Spells source.toList q :=
  (readWhole_start_eq_ok.mp (compile_eq_ok_iff_readWhole.mp h)).1

/-- The names of a compiled query are repeated in no body. -/
theorem noRepeats_of_compile {source : String} {q : Query} (h : compile source = .ok q) :
    q.NoRepeats :=
  (readWhole_start_eq_ok.mp (compile_eq_ok_iff_readWhole.mp h)).2

/-- **A text compiles to a query exactly when it spells that query,** and no name is repeated in a
body of it. -/
theorem compile_eq_ok_iff_spells (source : String) (q : Query) :
    compile source = .ok q ↔ Spells source.toList q ∧ q.NoRepeats :=
  compile_eq_ok_iff_readWhole.trans readWhole_start_eq_ok

end Query
end JsonSieve
