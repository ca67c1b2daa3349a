/-
# What a compiled query is made of

Every name and every key of a compiled query is a name of the language, and every literal is one
that can be written (`isLexical_of_compile`).  The other way round, a clause of such parts is
spelled by the text that shows it (`spellsClause_shown`), and that text makes a query
(`compile_shown`).
-/
import JsonSieve.Proofs.Query.Spelling

namespace JsonSieve

/-! ## 1. Clauses -/

/-- The key of a clause is a name, and its literal is one that can be written. -/
structure Filter.IsLexical (f : Filter) : Prop where
  key : IsName f.key.toList
  raw : IsLiteral f.raw.toList

theorem isName_ofList {s : List Char} (h : IsName s) : IsName (String.ofList s).toList := by
  rwa [String.toList_ofList]

namespace Query

theorem blanks_singleton : Blanks [' '] := fun _ hc => List.mem_singleton.mp hc ▸ rfl

/-- **A clause is spelled by the text that shows it.** -/
theorem spellsClause_shown {f : Filter} (h : f.IsLexical) : SpellsClause f.shown.toList f := by
  have hclause :=
    SpellsClause.clause f.op blanks_nil h.key blanks_singleton blanks_singleton h.raw nofun
  rw [String.ofList_toList, String.ofList_toList] at hclause
  simpa [Filter.shown] using hclause

/-- **The text that shows a clause is read** as that clause, in a query that has no other. -/
theorem compile_shown {f : Filter} (h : f.IsLexical) :
    compile ("(" ++ f.shown ++ ")\x7b\x7d") = .ok (.node [f] [] []) := by
  have hclauses := SpellsClauses.last (spellsClause_shown h) blanks_nil
  have hfilter := SpellsFilter.clauses blanks_nil hclauses
  have hquery := Spells.bare (SpellsNode.node hfilter blanks_nil (.empty blanks_nil)) blanks_nil
  refine compile_of_spells ?_ ⟨List.nodup_nil, trivial⟩
  simpa [ofItems] using hquery

/-- The query that asks for a field to be the same as a literal. -/
def asking (k raw : String) : String := "(" ++ k ++ " === " ++ raw ++ ")\x7b\x7d"

theorem compile_asking {k raw : String} (hk : IsName k.toList) (hraw : IsLiteral raw.toList) :
    compile (asking k raw) = .ok (.node [⟨k, .strictEq, raw⟩] [] []) := by
  have hshown : asking k raw = "(" ++ (⟨k, .strictEq, raw⟩ : Filter).shown ++ ")\x7b\x7d" := by
    simp [asking, Filter.shown, Operator.symbol, ← String.toList_inj]
  rw [hshown]
  exact compile_shown ⟨hk, hraw⟩

theorem SpellsClause.isLexical {s : List Char} {f : Filter} (h : SpellsClause s f) :
    f.IsLexical := by
  cases h with
  | clause op ha hkey hb hgap hraw apart =>
    exact ⟨isName_ofList hkey, String.toList_ofList.symm ▸ hraw⟩

theorem SpellsClauses.isLexical {s : List Char} {fs : List Filter} (h : SpellsClauses s fs) :
    ∀ f ∈ fs, f.IsLexical := by
  induction h with
  | last hs hb => exact List.forall_mem_singleton.mpr hs.isLexical
  | more hs hb _ ih => exact List.forall_mem_cons.mpr ⟨hs.isLexical, ih⟩

theorem SpellsFilter.isLexical {s : List Char} {fs : List Filter} (h : SpellsFilter s fs) :
    ∀ f ∈ fs, f.IsLexical := by
  cases h with
  | missing => exact List.forall_mem_nil _
  | clauses _ hs => exact hs.isLexical

/-! ## 2. Queries -/

/-- At every node, the clauses are lexical, and the fields and the nested queries have names. -/
inductive IsLexical : Query → Prop
  | node {fs : List Filter} {ns : List String} {qs : List (String × Query)} :
      (∀ f ∈ fs, f.IsLexical) → (∀ n ∈ ns, IsName n.toList) → (∀ n ∈ qs, IsName n.1.toList) →
      (∀ n ∈ qs, IsLexical n.2) → IsLexical (node fs ns qs)

/-- The item has a name, and its query, if it has one, is lexical. -/
def Item.IsLexical : Item → Prop
  | .field name => IsName name.toList
  | .nested name q => IsName name.toList ∧ q.IsLexical

theorem isLexical_ofItems {fs : List Filter} {items : List Item} (hfs : ∀ f ∈ fs, f.IsLexical)
    (hitems : ∀ item ∈ items, item.IsLexical) : (ofItems fs items).IsLexical := by
  have hnested : ∀ n ∈ items.filterMap Item.nested?, IsName n.1.toList ∧ n.2.IsLexical := by
    intro n hn
    obtain ⟨item, hmem, heq⟩ := List.mem_filterMap.mp hn
    cases item with
    | field name => cases heq
    | nested name q =>
      cases heq
      exact hitems _ hmem
  refine .node hfs ?_ (fun n hn => (hnested n hn).1) (fun n hn => (hnested n hn).2)
  intro n hn
  obtain ⟨item, hmem, heq⟩ := List.mem_filterMap.mp hn
  cases item with
  | field name =>
    cases heq
    exact hitems _ hmem
  | nested name q => cases heq

mutual

theorem SpellsNode.isLexical : ∀ {s : List Char} {q : Query}, SpellsNode s q → q.IsLexical
  | _, _, .node hs _ hbody => isLexical_ofItems hs.isLexical hbody.isLexical

theorem SpellsBody.isLexical : ∀ {s : List Char} {items : List Item}, SpellsBody s items →
    ∀ item ∈ items, item.IsLexical
  | _, _, .empty _ => List.forall_mem_nil _
  | _, _, .items hs => hs.isLexical

theorem SpellsItems.isLexical : ∀ {s : List Char} {items : List Item}, SpellsItems s items →
    ∀ item ∈ items, item.IsLexical
  | _, _, .last hs _ => List.forall_mem_singleton.mpr hs.isLexical
  | _, _, .more hs _ ht => List.forall_mem_cons.mpr ⟨hs.isLexical, ht.isLexical⟩

theorem SpellsItem.isLexical : ∀ {s : List Char} {item : Item}, SpellsItem s item → item.IsLexical
  | _, _, .field _ hname => isName_ofList hname
  | _, _, .nested _ hname hs => ⟨isName_ofList hname, hs.isLexical⟩

end

theorem Spells.isLexical {s : List Char} {q : Query} (h : Spells s q) : q.IsLexical := by
  cases h with
  | bare hs _ => exact hs.isLexical
  | named _ _ hs _ => exact hs.isLexical

/-- **A compiled query is made of names and literals** of the language. -/
theorem isLexical_of_compile {source : String} {q : Query} (h : compile source = .ok q) :
    q.IsLexical :=
  (spells_of_compile h).isLexical

end Query
end JsonSieve
