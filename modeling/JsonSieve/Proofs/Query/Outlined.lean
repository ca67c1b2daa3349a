/-
# The outline tells queries apart

Compiled queries with the same outline are the same (`outline_eq_iff`).  The outline is read from
the left, and what is read is settled by what comes next:

* a clause is a spelling of itself, so the reader of clauses finds where it ends, also if there are
  lines inside its quotes that look like lines of the outline (`shown_cancel`);
* a name ends at the first character that no name has (`name_cancel`);
* a list of entries ends where a line is indented less than its entries are (`entries_cancel`).
  Nested nodes stand further from the margin, and what follows them does not.
-/
import JsonSieve.Query.Basic
import JsonSieve.Proofs.Query.Lexical
import JsonSieve.Proofs.Query.Shape

namespace JsonSieve.Query

/-! ## 1. Where a clause and a name end -/

section

variable {r s : List Char}

/-- **A clause and what follows its line** are settled by the text that begins with it. -/
theorem shown_cancel {f g : Filter} (hf : f.IsLexical) (hg : g.IsLexical)
    (h : f.shown.toList ++ '\n' :: r = g.shown.toList ++ '\n' :: s) : f = g ∧ r = s := by
  have hread : ∀ {e : Filter} {t : List Char}, e.IsLexical →
      ∀ c : Cursor, c.rest = e.shown.toList ++ '\n' :: t →
        readClause c c = .ok e (c.skip e.shown.toList.length) := by
    intro e t he c hc
    have hp := Cursor.passes_skip hc
    have hrest : (c.skip e.shown.toList.length).rest = '\n' :: t :=
      List.append_cancel_left (hp.rest_eq.symm.trans hc)
    exact readClause_of_spells (spellsClause_shown he) hp (hrest ▸ ends_cons.mpr (by decide))
  have hreadf := hread hf ⟨0, f.shown.toList ++ '\n' :: r⟩ rfl
  have hreadg := hread hg ⟨0, f.shown.toList ++ '\n' :: r⟩ h
  rw [hreadf] at hreadg
  cases hreadg
  exact ⟨rfl, (List.cons.inj (List.append_cancel_left h)).2⟩

/-- **A name and what follows it** are settled by the text that begins with it. -/
theorem name_cancel {n m : String} {x : Char} (hn : IsName n.toList) (hm : IsName m.toList)
    (hx : isWordChar x = false) (h : n.toList ++ x :: r = m.toList ++ x :: s) : n = m ∧ r = s := by
  have htake := congrArg (List.takeWhile isWordChar) h
  rw [takeWhile_append_of_ends hn.2 (ends_cons.mpr hx),
    takeWhile_append_of_ends hm.2 (ends_cons.mpr hx)] at htake
  rw [htake] at h
  exact ⟨String.toList_inj.mp htake, (List.cons.inj (List.append_cancel_left h)).2⟩

end

/-! ## 2. Lines and entries -/

/-- How many blanks a text begins with. -/
def indentation (s : List Char) : Nat := (s.takeWhile (· == ' ')).length

theorem toList_line (depth : Nat) (text : String) :
    (line depth text).toList = List.replicate (2 * depth) ' ' ++ (text.toList ++ ['\n']) := by
  simp [line]

/-- A line is indented by its depth, if its text does not begin with a blank. -/
theorem indentation_line (depth : Nat) {text : String} (htext : Ends (· == ' ') text.toList)
    (hne : text.toList ≠ []) (r : List Char) :
    indentation ((line depth text).toList ++ r) = 2 * depth := by
  have hends : Ends (· == ' ') (text.toList ++ ['\n'] ++ r) := by
    rw [List.append_assoc]
    exact htext.append_of_ne_nil hne
  rw [indentation, toList_line, List.append_assoc,
    takeWhile_append_of_ends (fun c hc => beq_iff_eq.mpr (List.eq_of_mem_replicate hc)) hends,
    List.length_replicate]

/-- **Entries end where the indentation does.**  If entries are settled one at a time, so is the
list of them, from a text that begins with it and is indented less behind it. -/
theorem entries_cancel {α : Type} (P : α → Prop) (entry : α → List Char) (depth : Nat)
    (hindent : ∀ a, P a → ∀ r, indentation (entry a ++ r) = 2 * depth) {as bs : List α}
    (has : ∀ a ∈ as, P a) (hbs : ∀ b ∈ bs, P b)
    (hcancel : ∀ a ∈ as, ∀ b, P b → ∀ {r s}, indentation r ≤ 2 * depth →
      indentation s ≤ 2 * depth → entry a ++ r = entry b ++ s → a = b ∧ r = s)
    {r s : List Char} (hr : indentation r < 2 * depth) (hs : indentation s < 2 * depth)
    (h : as.flatMap entry ++ r = bs.flatMap entry ++ s) : as = bs ∧ r = s := by
  -- behind an entry there is another one, or what is behind all of them
  have hbehind : ∀ {cs : List α} {t : List Char}, (∀ c ∈ cs, P c) → indentation t < 2 * depth →
      indentation (cs.flatMap entry ++ t) ≤ 2 * depth := by
    intro cs t hcs ht
    cases cs with
    | nil => exact Nat.le_of_lt ht
    | cons c cs =>
      rw [List.flatMap_cons, List.append_assoc]
      exact Nat.le_of_eq (hindent c (hcs c List.mem_cons_self) _)
  induction as generalizing bs with
  | nil =>
    cases bs with
    | nil => exact ⟨rfl, h⟩
    | cons b bs =>
      rw [List.flatMap_nil, List.nil_append, List.flatMap_cons, List.append_assoc] at h
      have hlead := hindent b (hbs b List.mem_cons_self) (bs.flatMap entry ++ s)
      rw [← h] at hlead
      omega
  | cons a as ih =>
    obtain ⟨ha, has⟩ := List.forall_mem_cons.mp has
    cases bs with
    | nil =>
      rw [List.flatMap_nil, List.nil_append, List.flatMap_cons, List.append_assoc] at h
      have hlead := hindent a ha (as.flatMap entry ++ r)
      rw [h] at hlead
      omega
    | cons b bs =>
      obtain ⟨hb, hrestbs⟩ := List.forall_mem_cons.mp hbs
      rw [List.flatMap_cons, List.flatMap_cons, List.append_assoc, List.append_assoc] at h
      obtain ⟨rfl, hrest⟩ :=
        hcancel a List.mem_cons_self b hb (hbehind has hr) (hbehind hrestbs hs) h
      obtain ⟨rfl, hrs⟩ := ih has hrestbs (fun c hc => hcancel c (List.mem_cons_of_mem _ hc)) hrest
      exact ⟨rfl, hrs⟩

/-! ## 3. What a node lists -/

/-- The line of a clause or of a field. -/
def listed (depth : Nat) (text : String) : List Char := (line (depth + 1) ("- " ++ text)).toList

/-- The lines of a nested query, under the line with its name. -/
def nestedEntry (depth : Nat) (n : String × Query) : List Char :=
  (line (depth + 1) (n.1 ++ ":")).toList ++ (outlineAt (depth + 2) n.2).toList

/-- What stands before a clause or a field in its line. -/
def mark (depth : Nat) : List Char := List.replicate (2 * (depth + 1)) ' ' ++ ['-', ' ']

theorem toList_outlineNested (depth : Nat) (qs : List (String × Query)) :
    (outlineNested depth qs).toList = qs.flatMap (nestedEntry depth) := by
  induction qs with
  | nil => rfl
  | cons n qs ih => simp [outlineNested, nestedEntry, ih]

/-- **The outline of a node** is three headings, each followed by what the node lists under it. -/
theorem outlineAt_append (depth : Nat) (fs : List Filter) (ns : List String)
    (qs : List (String × Query)) (r : List Char) :
    (outlineAt depth (node fs ns qs)).toList ++ r =
      (line depth "filters:").toList ++ (fs.flatMap (fun f => listed depth f.shown) ++
        ((line depth "retrieve:").toList ++ (ns.flatMap (listed depth) ++
          ((line depth "next:").toList ++ (qs.flatMap (nestedEntry depth) ++ r))))) := by
  have hlisted : listed depth = fun text => (line (depth + 1) ("- " ++ text)).toList := rfl
  simp [outlineAt, toList_outlineNested, hlisted, List.flatMap_map]

section

variable {depth : Nat} {r s : List Char}

/-- What follows the clauses, and what follows the fields, stands where the node does. -/
theorem indentation_heading (depth : Nat) {text : String} (h : text ∈ ["retrieve:", "next:"])
    (r : List Char) : indentation ((line depth text).toList ++ r) < 2 * (depth + 1) := by
  have htext : Ends (· == ' ') text.toList ∧ text.toList ≠ [] := by
    simp only [List.mem_cons, List.not_mem_nil, or_false] at h
    rcases h with rfl | rfl
    · exact ⟨ends_cons.mpr rfl, by decide⟩
    · exact ⟨ends_cons.mpr rfl, by decide⟩
  rw [indentation_line depth htext.1 htext.2]
  omega

theorem listed_append (depth : Nat) (text : String) (r : List Char) :
    listed depth text ++ r = mark depth ++ (text.toList ++ '\n' :: r) := by
  simp [listed, mark, toList_line]

theorem indentation_listed (depth : Nat) (text : String) (r : List Char) :
    indentation (listed depth text ++ r) = 2 * (depth + 1) := by
  refine indentation_line _ ?_ ?_ r
  · simp [ends_cons]
  · simp

theorem clauses_cancel {fs gs : List Filter} (hfs : ∀ f ∈ fs, f.IsLexical)
    (hgs : ∀ g ∈ gs, g.IsLexical) (hr : indentation r < 2 * (depth + 1))
    (hs : indentation s < 2 * (depth + 1))
    (h : fs.flatMap (fun f => listed depth f.shown) ++ r =
      gs.flatMap (fun g => listed depth g.shown) ++ s) : fs = gs ∧ r = s := by
  refine entries_cancel Filter.IsLexical (fun f => listed depth f.shown) (depth + 1)
    (fun f _ => indentation_listed depth f.shown) hfs hgs ?_ hr hs h
  intro f hf g hg r s _ _ h
  rw [listed_append, listed_append] at h
  exact shown_cancel (hfs f hf) hg (List.append_cancel_left h)

theorem fields_cancel {ns ms : List String} (hns : ∀ n ∈ ns, IsName n.toList)
    (hms : ∀ m ∈ ms, IsName m.toList) (hr : indentation r < 2 * (depth + 1))
    (hs : indentation s < 2 * (depth + 1))
    (h : ns.flatMap (listed depth) ++ r = ms.flatMap (listed depth) ++ s) : ns = ms ∧ r = s := by
  refine entries_cancel (fun n => IsName n.toList) (listed depth) (depth + 1)
    (fun n _ => indentation_listed depth n) hns hms ?_ hr hs h
  intro n hn m hm r s _ _ h
  rw [listed_append, listed_append] at h
  exact name_cancel (hns n hn) hm (by decide) (List.append_cancel_left h)

theorem nestedEntry_append (depth : Nat) (n : String × Query) (r : List Char) :
    nestedEntry depth n ++ r = List.replicate (2 * (depth + 1)) ' ' ++
      (n.1.toList ++ ':' :: '\n' :: ((outlineAt (depth + 2) n.2).toList ++ r)) := by
  simp [nestedEntry, toList_line]

theorem indentation_nestedEntry {n : String × Query} (hn : IsName n.1.toList) (r : List Char) :
    indentation (nestedEntry depth n ++ r) = 2 * (depth + 1) := by
  have hblank : ∀ c, isWordChar c = true → (c == ' ') = false := by
    intro c hc
    rw [beq_eq_false_iff_ne]
    rintro rfl
    exact absurd hc (by decide)
  rw [nestedEntry, List.append_assoc]
  refine indentation_line _ ?_ ?_ _
  · rw [String.toList_append]
    exact ends_append_of_all hn.1 hn.2 hblank _
  · simp

/-! ## 4. Nodes -/

/-- **A node and what follows it** are settled by the text that begins with its outline, if what
follows is indented less than what the node lists. -/
theorem outlineAt_cancel {q p : Query} (hq : q.IsLexical) (hp : p.IsLexical)
    (hr : indentation r < 2 * (depth + 1)) (hs : indentation s < 2 * (depth + 1))
    (h : (outlineAt depth q).toList ++ r = (outlineAt depth p).toList ++ s) : q = p ∧ r = s := by
  induction q generalizing p depth r s with
  | node fs ns qs ih =>
    obtain ⟨gs, ms, ps⟩ := p
    obtain ⟨hfs, hns, hnames, hqs⟩ := hq
    obtain ⟨hgs, hms, hnames', hps⟩ := hp
    rw [outlineAt_append, outlineAt_append] at h
    have hretrieve := indentation_heading depth (List.mem_cons_self : "retrieve:" ∈ _)
    have hnext := indentation_heading depth
      (List.mem_cons_of_mem _ (List.mem_singleton_self "next:"))
    obtain ⟨rfl, hfields⟩ :=
      clauses_cancel hfs hgs (hretrieve _) (hretrieve _) (List.append_cancel_left h)
    obtain ⟨rfl, hnested⟩ :=
      fields_cancel hns hms (hnext _) (hnext _) (List.append_cancel_left hfields)
    have hentries := entries_cancel (fun n => IsName n.1.toList ∧ n.2.IsLexical) (nestedEntry depth)
      (depth + 1) (fun n hn => indentation_nestedEntry hn.1) (fun n hn => ⟨hnames n hn, hqs n hn⟩)
      (fun n hn => ⟨hnames' n hn, hps n hn⟩) ?_ hr hs (List.append_cancel_left hnested)
    · obtain ⟨rfl, hrs⟩ := hentries
      exact ⟨rfl, hrs⟩
    · intro n hn m hm r s hr hs h
      rw [nestedEntry_append, nestedEntry_append] at h
      obtain ⟨hname, hrest⟩ :=
        name_cancel (hnames n hn) hm.1 (by decide) (List.append_cancel_left h)
      -- the nested node lists its own entries further from the margin
      obtain ⟨hquery, hrs⟩ := ih n hn (hqs n hn) hm.2 (by omega) (by omega) (List.cons.inj hrest).2
      exact ⟨Prod.ext hname hquery, hrs⟩

end

/-- **Compiled queries with the same outline are the same,** and of course the other way round. -/
theorem outline_eq_iff {source text : String} {a b : Query} (ha : compile source = .ok a)
    (hb : compile text = .ok b) : a.outline = b.outline ↔ a = b := by
  constructor
  · intro h
    have hempty : indentation [] < 2 * (0 + 1) := by decide
    refine (outlineAt_cancel (isLexical_of_compile ha) (isLexical_of_compile hb) hempty hempty ?_).1
    rw [List.append_nil, List.append_nil]
    exact congrArg String.toList h
  · intro h
    rw [h]

/-- A literal that goes on over two lines, of which the second looks like a clause. -/
theorem outline_eq_iff_lines :
    ∃ a b, compile "(k === \"\n  - l === m\")\x7b\x7d" = .ok a ∧
      compile "(k === \"\" && l === m)\x7b\x7d" = .ok b ∧
      (a.outline = b.outline ↔ a = b) ∧ a ≠ b := by
  have ha : compile "(k === \"\n  - l === m\")\x7b\x7d" =
      .ok (node [⟨"k", .strictEq, "\"\n  - l === m\""⟩] [] []) := rfl
  have hb : compile "(k === \"\" && l === m)\x7b\x7d" =
      .ok (node [⟨"k", .strictEq, "\"\""⟩, ⟨"l", .strictEq, "m"⟩] [] []) := rfl
  exact ⟨_, _, ha, hb, outline_eq_iff ha hb, by decide⟩

end JsonSieve.Query
