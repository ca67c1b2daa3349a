/-
# Unfinished queries

The texts that stop inside a query, as a grammar (`OpenQuery`): they are put together like the
texts of queries, up to the place where they stop.  With each of them goes the error about it, which
quotes the innermost query that is open, so it depends on nothing but what is open where the text
stops.

Such a text is merely unfinished: something can be put behind it that makes it a query
(`OpenQuery.exists_spells`), with a name that is not taken where a name is wanted.  And in the part
that is quoted one bracket is open (`OpenQuery.leavesOpen`).
-/
import JsonSieve.Proofs.Query.Bracket

namespace JsonSieve

/-- An error about a bracket that is not closed. -/
def QueryError.IsUnclosed : QueryError → Prop
  | unclosedBody _ | unclosedFilter _ => True
  | _ => False

/-- The end of a text, from a place that is not inside a quoted literal. -/
def IsTail (tail text : List Char) : Prop := ∃ before, QuotesClosed before ∧ text = before ++ tail

theorem isTail_self (s : List Char) : IsTail s s :=
  ⟨[], fun _ => rfl, rfl⟩

theorem IsTail.append {tail text before : List Char} (h : IsTail tail text)
    (hbefore : QuotesClosed before) : IsTail tail (before ++ text) := by
  obtain ⟨s, hs, rfl⟩ := h
  exact ⟨before ++ s, hbefore.append hs, (List.append_assoc before s tail).symm⟩

/-- The error quotes the end of a text, and what it quotes leaves one bracket open: outside quoted
literals one more brace is opened than is closed, or there is a parenthesis and no other bracket. -/
def QueryError.LeavesOpen (text : List Char) : QueryError → Prop
  | unclosedBody fragment => IsTail fragment.toList text ∧ Braced 1 fragment.toList
  | unclosedFilter fragment => IsTail fragment.toList text ∧
    ∃ before after, Unbracketed before ∧ Unbracketed after ∧
      fragment.toList = before ++ '(' :: after
  | _ => False

namespace Query

/-! ## 1. Texts that stop short -/

/-- Texts behind an opening parenthesis that stop before a clause or behind one. -/
inductive OpenClauses : List Char → Prop
  | key {b : List Char} : Blanks b → OpenClauses b
  | clause {s b : List Char} {f : Filter} : SpellsClause s f → Blanks b → OpenClauses (s ++ b)
  | more {s b t : List Char} {f : Filter} :
      SpellsClause s f → Blanks b → OpenClauses t → OpenClauses (s ++ b ++ '&' :: '&' :: t)

mutual

/-- Texts that stop inside a node, and the error about them; `lead` is the text between the
beginning of the query and its node. -/
inductive OpenNode : List Char → List Char → QueryError → Prop
  | filter {lead b s : List Char} : Blanks b → OpenClauses s →
      OpenNode lead (b ++ '(' :: s) (.unclosedFilter (String.ofList (lead ++ (b ++ '(' :: s))))
  | body {lead s b t : List Char} {fs : List Filter} {err : QueryError} :
      SpellsFilter s fs → Blanks b → OpenItems (lead ++ (s ++ b ++ ['\x7b'])) [] t err →
      OpenNode lead (s ++ b ++ '\x7b' :: t) err

/-- Texts that stop before an item of a body, inside one or behind one, and the error about them;
`lead` is the text between the beginning of the query and these items, and `taken` are the names
that the body has already. -/
inductive OpenItems : List Char → List String → List Char → QueryError → Prop
  | name {lead b : List Char} {taken : List String} : Blanks b →
      OpenItems lead taken b (.unclosedBody (String.ofList (lead ++ b)))
  | item {lead s b : List Char} {taken : List String} {item : Item} :
      SpellsItem s item → item.name ∉ taken → item.NoRepeats → Blanks b →
      OpenItems lead taken (s ++ b) (.unclosedBody (String.ofList (lead ++ (s ++ b))))
  | nested {lead b name s : List Char} {taken : List String} {err : QueryError} :
      Blanks b → IsName name → String.ofList name ∉ taken → OpenNode (b ++ name) s err →
      OpenItems lead taken (b ++ name ++ s) err
  | more {lead s b t : List Char} {taken : List String} {item : Item} {err : QueryError} :
      SpellsItem s item → item.name ∉ taken → item.NoRepeats → Blanks b →
      OpenItems (lead ++ (s ++ b ++ [','])) (item.name :: taken) t err →
      OpenItems lead taken (s ++ b ++ ',' :: t) err

end

/-! ## 2. What finishes them -/

theorem isName_replicate (n : Nat) : IsName (List.replicate (n + 1) 'a') := by
  refine ⟨by simp, fun c hc => ?_⟩
  rw [List.eq_of_mem_replicate hc]
  decide

/-- There is always a name that is not taken: one that is longer than all of them. -/
theorem exists_isName_not_mem (taken : List String) :
    ∃ name, IsName name ∧ String.ofList name ∉ taken := by
  obtain ⟨n, hn⟩ : ∃ n, ∀ w ∈ taken, w.length ≤ n := by
    induction taken with
    | nil => exact ⟨0, List.forall_mem_nil _⟩
    | cons w taken ih =>
      obtain ⟨n, hn⟩ := ih
      refine ⟨max w.length n, List.forall_mem_cons.mpr ⟨Nat.le_max_left _ _, fun v hv => ?_⟩⟩
      exact Nat.le_trans (hn v hv) (Nat.le_max_right _ _)
  refine ⟨List.replicate (n + 1) 'a', isName_replicate n, fun hmem => ?_⟩
  have hlen := hn _ hmem
  rw [← String.length_toList, String.toList_ofList, List.length_replicate] at hlen
  omega

/-- The shortest of clauses, behind blanks. -/
theorem exists_spellsClause {b : List Char} (hb : Blanks b) :
    ∃ t f, SpellsClause (b ++ t) f := by
  have hraw : IsLiteral ['1'] := .bare (by decide) (List.all_eq_true.mp (by decide))
  have hapart : ([] : List Char) = [] → Ends Operator.isSymbolChar ['1'] := fun _ =>
    ends_cons.mpr (by decide)
  have hclause :=
    SpellsClause.clause .strictEq hb (isName_replicate 0) blanks_nil blanks_nil hraw hapart
  exact ⟨_, _, by simpa using hclause⟩

theorem OpenClauses.exists_spells {s : List Char} (h : OpenClauses s) :
    ∃ t fs, SpellsClauses (s ++ t) fs := by
  induction h with
  | @key b hb =>
    obtain ⟨t, f, hf⟩ := exists_spellsClause hb
    exact ⟨t ++ [')'], [f], by simpa using SpellsClauses.last hf blanks_nil⟩
  | clause hs hb => exact ⟨[')'], _, .last hs hb⟩
  | more hs hb _ ih =>
    obtain ⟨t, fs, ht⟩ := ih
    exact ⟨t, _, by simpa using SpellsClauses.more hs hb ht⟩

mutual

/-- **A text that stops inside a node can be made the text of a node.** -/
theorem OpenNode.exists_spells : ∀ {lead s : List Char} {err : QueryError}, OpenNode lead s err →
    ∃ t q, SpellsNode (s ++ t) q ∧ q.NoRepeats
  | _, _, _, .filter hb hs => by
    obtain ⟨t, fs, ht⟩ := hs.exists_spells
    have hnode := SpellsNode.node (.clauses hb ht) blanks_nil (.empty blanks_nil)
    refine ⟨t ++ ['\x7b', '\x7d'], ofItems fs [], by simpa using hnode, ?_⟩
    exact noRepeats_ofItems_iff.mpr ⟨fresh_nil_right [], List.forall_mem_nil _⟩
  | _, _, _, .body hs hb hitems => by
    obtain ⟨t, items, ht, hfresh, hdeep⟩ := hitems.exists_spells
    refine ⟨t, ofItems _ items, by simpa using SpellsNode.node hs hb (.items ht), ?_⟩
    exact noRepeats_ofItems_iff.mpr ⟨hfresh, hdeep⟩

theorem OpenItems.exists_spells : ∀ {lead s : List Char} {taken : List String} {err : QueryError},
    OpenItems lead taken s err →
      ∃ t items, SpellsItems (s ++ t) items ∧ Fresh taken items ∧ ∀ item ∈ items, item.NoRepeats
  | _, _, taken, _, .name hb => by
    obtain ⟨name, hname, hnot⟩ := exists_isName_not_mem taken
    refine ⟨name ++ ['\x7d'], [.field (String.ofList name)], ?_, ?_, ?_⟩
    · simpa using SpellsItems.last (.field hb hname) blanks_nil
    · exact fresh_cons.mpr ⟨hnot, fresh_nil_right _⟩
    · exact List.forall_mem_singleton.mpr trivial
  | _, _, _, _, .item hs hnot hdeep hb =>
    ⟨['\x7d'], _, .last hs hb, fresh_cons.mpr ⟨hnot, fresh_nil_right _⟩,
      List.forall_mem_singleton.mpr hdeep⟩
  | _, _, _, _, @OpenItems.nested _ b name s _ _ hb hname hnot hs => by
    obtain ⟨t, q, ht, hq⟩ := hs.exists_spells
    refine ⟨t ++ ['\x7d'], [.nested (String.ofList name) q], ?_,
      fresh_cons.mpr ⟨hnot, fresh_nil_right _⟩, List.forall_mem_singleton.mpr hq⟩
    simpa using SpellsItems.last (.nested hb hname ht) blanks_nil
  | _, _, _, _, .more hs hnot hdeep hb hitems => by
    obtain ⟨t, items, ht, hfresh, hrest⟩ := hitems.exists_spells
    refine ⟨t, _ :: items, by simpa using SpellsItems.more hs hb ht, ?_, ?_⟩
    · exact fresh_cons.mpr ⟨hnot, hfresh⟩
    · exact List.forall_mem_cons.mpr ⟨hdeep, hrest⟩

end

/-! ## 3. What is open in them -/

theorem OpenClauses.unbracketed {s : List Char} (h : OpenClauses s) : Unbracketed s := by
  induction h with
  | key hb => exact hb.unbracketed
  | clause hs hb => exact hs.unbracketed.append hb.unbracketed
  | more hs hb _ ih =>
    have hclause := (hs.unbracketed.append hb.unbracketed).append unbracketed_both
    simpa using hclause.append ih

/-- What is left open at the end of a text is left open at the end of a longer one. -/
theorem leavesOpen_append {text before : List Char} {err : QueryError} (h : err.LeavesOpen text)
    (hbefore : QuotesClosed before) : err.LeavesOpen (before ++ text) := by
  cases err with
  | unclosedBody fragment => exact ⟨h.1.append hbefore, h.2⟩
  | unclosedFilter fragment => exact ⟨h.1.append hbefore, h.2⟩
  | _ => exact h

theorem leavesOpen_unclosedBody {text : List Char} (h : Braced 1 text) :
    (QueryError.unclosedBody (String.ofList text)).LeavesOpen text := by
  rw [QueryError.LeavesOpen, String.toList_ofList]
  exact ⟨isTail_self text, h⟩

mutual

/-- **A text that stops inside a node leaves one bracket open** in the part that is quoted. -/
theorem OpenNode.leavesOpen : ∀ {lead s : List Char} {err : QueryError}, OpenNode lead s err →
    Unbracketed lead → err.LeavesOpen (lead ++ s)
  | lead, _, _, @OpenNode.filter _ b s hb hs, hlead => by
    rw [QueryError.LeavesOpen, String.toList_ofList]
    refine ⟨isTail_self _, lead ++ b, s, hlead.append hb.unbracketed, hs.unbracketed, ?_⟩
    rw [List.append_assoc]
  | lead, _, err, @OpenNode.body _ s b t fs _ hs hb hitems, hlead => by
    have hopened := (hs.braced.append hb.unbracketed.braced).append braced_openBrace
    have hopen := hitems.leavesOpen (hlead.braced.append hopened)
    simpa using hopen

/-- In a body there is one more opening than closing brace before the items, and so there is behind
them. -/
theorem OpenItems.leavesOpen : ∀ {lead s : List Char} {taken : List String} {err : QueryError},
    OpenItems lead taken s err → Braced 1 lead → err.LeavesOpen (lead ++ s)
  | _, _, _, _, .name hb, hlead => leavesOpen_unclosedBody (hlead.append hb.unbracketed.braced)
  | _, _, _, _, .item hs _ _ hb, hlead =>
    leavesOpen_unclosedBody (hlead.append (hs.braced.append hb.unbracketed.braced))
  | _, _, _, _, .nested hb hname _ hs, hlead =>
    leavesOpen_append (hs.leavesOpen (hb.unbracketed.append hname.unbracketed)) hlead.closed
  | _, _, _, _, .more hs _ _ hb hitems, hlead => by
    have hitem := (hs.braced.append hb.unbracketed.braced).append braced_comma
    have hopen := hitems.leavesOpen (hlead.append hitem)
    simpa using hopen

end

/-! ## 4. Whole queries -/

/-- Texts that stop inside a query, and the error about them. -/
inductive OpenQuery : List Char → QueryError → Prop
  | bare {s : List Char} {err : QueryError} : OpenNode [] s err → OpenQuery s err
  | named {a name s : List Char} {err : QueryError} :
      Blanks a → IsName name → OpenNode (a ++ name) s err → OpenQuery (a ++ name ++ s) err

theorem OpenQuery.exists_spells {s : List Char} {err : QueryError} (h : OpenQuery s err) :
    ∃ t q, Spells (s ++ t) q ∧ q.NoRepeats := by
  cases h with
  | bare hs =>
    obtain ⟨t, q, ht, hq⟩ := hs.exists_spells
    exact ⟨t, q, by simpa using Spells.bare ht blanks_nil, hq⟩
  | named ha hname hs =>
    obtain ⟨t, q, ht, hq⟩ := hs.exists_spells
    exact ⟨t, q, by simpa using Spells.named ha hname ht blanks_nil, hq⟩

theorem OpenQuery.leavesOpen {s : List Char} {err : QueryError} (h : OpenQuery s err) :
    err.LeavesOpen s := by
  cases h with
  | bare hs => exact hs.leavesOpen (unbracketed_of_all (List.forall_mem_nil _))
  | named ha hname hs => exact hs.leavesOpen (ha.unbracketed.append hname.unbracketed)

theorem OpenQuery.exists_compile {source : String} {err : QueryError}
    (h : OpenQuery source.toList err) : ∃ more q, compile (source ++ more) = .ok q := by
  obtain ⟨t, q, ht, hq⟩ := h.exists_spells
  refine ⟨String.ofList t, q, compile_of_spells ?_ hq⟩
  rwa [String.toList_append, String.toList_ofList]

end Query
end JsonSieve
