/-
# The grammar of queries

Which texts spell a query, said without a reader.  A text is put together from names, operators,
literals and signs; blanks may stand before, between and behind them, and need not.  Nothing here
says how far a name or a literal reaches: that no text can be taken apart in two ways is a fact
about the grammar and not a rule of it.  Only a bare literal that begins like an operator has to be
kept apart from the operator before it.

    query   = [ name ] node
    node    = [ '(' clause { '&&' clause } ')' ] '{' [ item { ',' item } ] '}'
    clause  = name operator literal
    item    = name | name node

`NoRepeats` is the one condition on a query that is not a matter of spelling.  The reader refuses a
name when it comes, with the names before it in hand; a query keeps its fields and its nested
queries in two lists.  Both ways of looking at the names of a body say the same:
`noRepeats_ofItems_iff` and `fresh_cons`.
-/
import JsonSieve.Query.Reader
import JsonSieve.Proofs.Text.Run

namespace JsonSieve

/-! ## 1. Names, operators and literals -/

/-- Blanks, any number of them. -/
def Blanks (s : List Char) : Prop := ∀ c ∈ s, Text.isBlank c = true

/-- A name is one character of names or more. -/
def IsName (s : List Char) : Prop := s ≠ [] ∧ ∀ c ∈ s, isWordChar c = true

/-- What follows the opening quote of a literal, up to the first quote without a backslash. -/
inductive ClosesQuote : List Char → Prop
  | quote : ClosesQuote ['"']
  | escaped {s : List Char} (c : Char) : ClosesQuote s → ClosesQuote ('\\' :: c :: s)
  | plain {c : Char} {s : List Char} : c ≠ '"' → c ≠ '\\' → ClosesQuote s → ClosesQuote (c :: s)

/-- A literal stands between quotes, or is one character of literals or more. -/
inductive IsLiteral : List Char → Prop
  | quoted {s : List Char} : ClosesQuote s → IsLiteral ('"' :: s)
  | bare {s : List Char} : s ≠ [] → (∀ c ∈ s, isLiteralChar c = true) → IsLiteral s

namespace Query

/-! ## 2. Clauses -/

/-- Texts that spell a clause. -/
inductive SpellsClause : List Char → Filter → Prop
  | clause {a key b gap raw : List Char} (op : Operator) :
      Blanks a → IsName key → Blanks b → Blanks gap → IsLiteral raw →
      (gap = [] → Ends Operator.isSymbolChar raw) →
      SpellsClause (a ++ key ++ b ++ op.symbol.toList ++ gap ++ raw)
        ⟨String.ofList key, op, String.ofList raw⟩

/-- Texts that spell the clauses behind an opening parenthesis, the closing one included. -/
inductive SpellsClauses : List Char → List Filter → Prop
  | last {s b : List Char} {f : Filter} :
      SpellsClause s f → Blanks b → SpellsClauses (s ++ b ++ [')']) [f]
  | more {s b t : List Char} {f : Filter} {fs : List Filter} :
      SpellsClause s f → Blanks b → SpellsClauses t fs →
      SpellsClauses (s ++ b ++ '&' :: '&' :: t) (f :: fs)

/-- Texts that spell the filter of a node, which may be missing. -/
inductive SpellsFilter : List Char → List Filter → Prop
  | missing : SpellsFilter [] []
  | clauses {b s : List Char} {fs : List Filter} :
      Blanks b → SpellsClauses s fs → SpellsFilter (b ++ '(' :: s) fs

/-! ## 3. Nodes and whole queries -/

mutual

/-- Texts that spell a node: its filter and its body. -/
inductive SpellsNode : List Char → Query → Prop
  | node {s b t : List Char} {fs : List Filter} {items : List Item} :
      SpellsFilter s fs → Blanks b → SpellsBody t items →
      SpellsNode (s ++ b ++ '\x7b' :: t) (ofItems fs items)

/-- Texts that spell the items behind an opening brace, the closing one included. -/
inductive SpellsBody : List Char → List Item → Prop
  | empty {b : List Char} : Blanks b → SpellsBody (b ++ ['\x7d']) []
  | items {s : List Char} {items : List Item} : SpellsItems s items → SpellsBody s items

/-- Texts that spell one item or more, the closing brace included. -/
inductive SpellsItems : List Char → List Item → Prop
  | last {s b : List Char} {item : Item} :
      SpellsItem s item → Blanks b → SpellsItems (s ++ b ++ ['\x7d']) [item]
  | more {s b t : List Char} {item : Item} {items : List Item} :
      SpellsItem s item → Blanks b → SpellsItems t items →
      SpellsItems (s ++ b ++ ',' :: t) (item :: items)

/-- Texts that spell an item. -/
inductive SpellsItem : List Char → Item → Prop
  | field {b name : List Char} :
      Blanks b → IsName name → SpellsItem (b ++ name) (.field (String.ofList name))
  | nested {b name s : List Char} {q : Query} :
      Blanks b → IsName name → SpellsNode s q →
      SpellsItem (b ++ name ++ s) (.nested (String.ofList name) q)

end

/-- Texts that spell a whole query; the name before it, if there is one, says nothing. -/
inductive Spells : List Char → Query → Prop
  | bare {s b : List Char} {q : Query} : SpellsNode s q → Blanks b → Spells (s ++ b) q
  | named {a name s b : List Char} {q : Query} :
      Blanks a → IsName name → SpellsNode s q → Blanks b → Spells (a ++ name ++ s ++ b) q

/-! ## 4. Names that are not repeated -/

mutual

/-- No name stands twice in one body, at any depth. -/
def NoRepeats : Query → Prop
  | node _ ns qs => (ns ++ qs.map Prod.fst).Nodup ∧ NoRepeatsBelow qs

/-- No name stands twice in one body of the nested queries. -/
def NoRepeatsBelow : List (String × Query) → Prop
  | [] => True
  | (_, q) :: qs => q.NoRepeats ∧ NoRepeatsBelow qs

end

/-! ## 5. The names of a body -/

/-- No name stands twice in one body of the item's query, if it has one. -/
def Item.NoRepeats : Item → Prop
  | .field _ => True
  | .nested _ q => q.NoRepeats

/-- The names of the items are not taken, and none of them stands twice. -/
def Fresh (taken : List String) (items : List Item) : Prop :=
  (items.map Item.name).Nodup ∧ ∀ name ∈ items.map Item.name, name ∉ taken

theorem fresh_nil_right (taken : List String) : Fresh taken [] := by
  simp [Fresh]

theorem fresh_nil_left {items : List Item} : Fresh [] items ↔ (items.map Item.name).Nodup := by
  simp [Fresh]

/-- **One item more:** its name is not taken, and it is taken for the items behind it. -/
theorem fresh_cons {taken : List String} {item : Item} {items : List Item} :
    Fresh taken (item :: items) ↔ item.name ∉ taken ∧ Fresh (item.name :: taken) items := by
  simp only [Fresh, List.map_cons, List.nodup_cons, List.mem_cons, forall_eq_or_imp, not_or]
  constructor
  · rintro ⟨⟨hnot, hnd⟩, hname, hall⟩
    refine ⟨hname, hnd, fun name hmem => ⟨?_, hall name hmem⟩⟩
    rintro rfl
    exact hnot hmem
  · rintro ⟨hname, hnd, hall⟩
    exact ⟨⟨fun hmem => (hall _ hmem).1 rfl, hnd⟩, hname, fun name hmem => (hall name hmem).2⟩

theorem noRepeatsBelow_iff {qs : List (String × Query)} :
    NoRepeatsBelow qs ↔ ∀ n ∈ qs, n.2.NoRepeats := by
  induction qs with
  | nil => simp [NoRepeatsBelow]
  | cons n qs ih => simp [NoRepeatsBelow, ih]

/-- The fields and the nested queries have the names of the items between them. -/
theorem perm_names (items : List Item) :
    (items.filterMap Item.field? ++ (items.filterMap Item.nested?).map Prod.fst).Perm
      (items.map Item.name) := by
  induction items with
  | nil => exact .refl _
  | cons item items ih =>
    cases item with
    | field name =>
      simp only [List.filterMap_cons, Item.field?, Item.nested?, List.map_cons, Item.name,
        List.cons_append]
      exact ih.cons name
    | nested name q =>
      simp only [List.filterMap_cons, Item.field?, Item.nested?, List.map_cons, Item.name]
      exact List.perm_middle.trans (ih.cons name)

/-- **The names of a node are repeated nowhere when those of its items are not.** -/
theorem noRepeats_ofItems_iff {fs : List Filter} {items : List Item} :
    (ofItems fs items).NoRepeats ↔ Fresh [] items ∧ ∀ item ∈ items, item.NoRepeats := by
  rw [ofItems, NoRepeats, (perm_names items).nodup_iff, fresh_nil_left, noRepeatsBelow_iff]
  refine and_congr_right fun _ => ?_
  constructor
  · intro h item hmem
    cases item with
    | field _ => trivial
    | nested name q => exact h (name, q) (List.mem_filterMap.mpr ⟨_, hmem, rfl⟩)
  · rintro h ⟨name, q⟩ hmem
    obtain ⟨item, hitem, he⟩ := List.mem_filterMap.mp hmem
    cases item with
    | field _ => cases he
    | nested _ _ => cases he; exact h _ hitem

end Query
end JsonSieve
