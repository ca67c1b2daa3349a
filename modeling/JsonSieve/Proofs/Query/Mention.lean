/-
# Names, and where they stand

The grammar of queries once more, with the names of items and where they stand: the same texts spell
the same queries (`Mentions.spells`, `exists_mentions`).  A mention is a name of an item, the place
of its first character, and the place of the brace that opens the body it stands in, so that
mentions in one body can be told from those in another, and earlier mentions from later ones.

The mentions of a text are given in the order of the text, and each name stands at its place
(`LaidOut`).
-/
import JsonSieve.Proofs.Query.Grammar

namespace JsonSieve.Query

/-! ## 1. Mentions -/

/-- The name of an item where it stands in a text. -/
structure Mention where
  body : Nat
  place : Nat
  name : String
deriving DecidableEq

mutual

/-- Texts that spell a node, from a place on, and the mentions in them. -/
inductive MentionsNode : Nat → List Char → Query → List Mention → Prop
  | node {o : Nat} {s b t : List Char} {fs : List Filter} {items : List Item} {ms : List Mention} :
      SpellsFilter s fs → Blanks b → MentionsBody (o + (s ++ b).length) t items ms →
      MentionsNode o (s ++ b ++ '\x7b' :: t) (ofItems fs items) ms

/-- Texts that spell the items behind the opening brace at a place, the closing one included. -/
inductive MentionsBody : Nat → List Char → List Item → List Mention → Prop
  | empty {body : Nat} {b : List Char} : Blanks b → MentionsBody body (b ++ ['\x7d']) [] []
  | items {body : Nat} {s : List Char} {items : List Item} {ms : List Mention} :
      MentionsItems body (body + 1) s items ms → MentionsBody body s items ms

/-- Texts that spell one item or more of a body, from a place on, the closing brace included. -/
inductive MentionsItems : Nat → Nat → List Char → List Item → List Mention → Prop
  | last {body o : Nat} {s b : List Char} {item : Item} {ms : List Mention} :
      MentionsItem body o s item ms → Blanks b →
      MentionsItems body o (s ++ b ++ ['\x7d']) [item] ms
  | more {body o : Nat} {s b t : List Char} {item : Item} {items : List Item}
      {ms ns : List Mention} :
      MentionsItem body o s item ms → Blanks b →
      MentionsItems body (o + (s ++ b).length + 1) t items ns →
      MentionsItems body o (s ++ b ++ ',' :: t) (item :: items) (ms ++ ns)

/-- Texts that spell an item of a body, from a place on. -/
inductive MentionsItem : Nat → Nat → List Char → Item → List Mention → Prop
  | field {body o : Nat} {b name : List Char} :
      Blanks b → IsName name →
      MentionsItem body o (b ++ name) (.field (String.ofList name))
        [⟨body, o + b.length, String.ofList name⟩]
  | nested {body o : Nat} {b name s : List Char} {q : Query} {ms : List Mention} :
      Blanks b → IsName name → MentionsNode (o + (b ++ name).length) s q ms →
      MentionsItem body o (b ++ name ++ s) (.nested (String.ofList name) q)
        (⟨body, o + b.length, String.ofList name⟩ :: ms)

end

/-- Texts that spell a whole query, and the mentions in them. -/
inductive Mentions : List Char → Query → List Mention → Prop
  | bare {s b : List Char} {q : Query} {ms : List Mention} :
      MentionsNode 0 s q ms → Blanks b → Mentions (s ++ b) q ms
  | named {a name s b : List Char} {q : Query} {ms : List Mention} :
      Blanks a → IsName name → MentionsNode (a ++ name).length s q ms → Blanks b →
      Mentions (a ++ name ++ s ++ b) q ms

/-! ## 2. The same texts -/

mutual

theorem MentionsNode.spells : ∀ {o : Nat} {s : List Char} {q : Query} {ms : List Mention},
    MentionsNode o s q ms → SpellsNode s q
  | _, _, _, _, .node hs hb hbody => .node hs hb hbody.spells

theorem MentionsBody.spells : ∀ {body : Nat} {s : List Char} {items : List Item}
    {ms : List Mention}, MentionsBody body s items ms → SpellsBody s items
  | _, _, _, _, .empty hb => .empty hb
  | _, _, _, _, .items hs => .items hs.spells

theorem MentionsItems.spells : ∀ {body o : Nat} {s : List Char} {items : List Item}
    {ms : List Mention}, MentionsItems body o s items ms → SpellsItems s items
  | _, _, _, _, _, .last hs hb => .last hs.spells hb
  | _, _, _, _, _, .more hs hb ht => .more hs.spells hb ht.spells

theorem MentionsItem.spells : ∀ {body o : Nat} {s : List Char} {item : Item} {ms : List Mention},
    MentionsItem body o s item ms → SpellsItem s item
  | _, _, _, _, _, .field hb hname => .field hb hname
  | _, _, _, _, _, .nested hb hname hs => .nested hb hname hs.spells

end

theorem Mentions.spells {s : List Char} {q : Query} {ms : List Mention} (h : Mentions s q ms) :
    Spells s q := by
  cases h with
  | bare hs hb => exact .bare hs.spells hb
  | named ha hname hs hb => exact .named ha hname hs.spells hb

mutual

theorem exists_mentionsNode : ∀ {s : List Char} {q : Query}, SpellsNode s q →
    ∀ o, ∃ ms, MentionsNode o s q ms
  | _, _, .node hs hb hbody, _ =>
    let ⟨ms, hms⟩ := exists_mentionsBody hbody _
    ⟨ms, .node hs hb hms⟩

theorem exists_mentionsBody : ∀ {s : List Char} {items : List Item}, SpellsBody s items →
    ∀ body, ∃ ms, MentionsBody body s items ms
  | _, _, .empty hb, _ => ⟨[], .empty hb⟩
  | _, _, .items hs, _ =>
    let ⟨ms, hms⟩ := exists_mentionsItems hs _ _
    ⟨ms, .items hms⟩

theorem exists_mentionsItems : ∀ {s : List Char} {items : List Item}, SpellsItems s items →
    ∀ body o, ∃ ms, MentionsItems body o s items ms
  | _, _, .last hs hb, _, _ =>
    let ⟨ms, hms⟩ := exists_mentionsItem hs _ _
    ⟨ms, .last hms hb⟩
  | _, _, .more hs hb ht, _, _ =>
    let ⟨ms, hms⟩ := exists_mentionsItem hs _ _
    let ⟨ns, hns⟩ := exists_mentionsItems ht _ _
    ⟨ms ++ ns, .more hms hb hns⟩

theorem exists_mentionsItem : ∀ {s : List Char} {item : Item}, SpellsItem s item →
    ∀ body o, ∃ ms, MentionsItem body o s item ms
  | _, _, .field hb hname, _, _ => ⟨_, .field hb hname⟩
  | _, _, .nested hb hname hs, _, _ =>
    let ⟨_, hms⟩ := exists_mentionsNode hs _
    ⟨_, .nested hb hname hms⟩

end

theorem exists_mentions {s : List Char} {q : Query} (h : Spells s q) : ∃ ms, Mentions s q ms := by
  cases h with
  | bare hs hb =>
    obtain ⟨ms, hms⟩ := exists_mentionsNode hs 0
    exact ⟨ms, .bare hms hb⟩
  | named ha hname hs hb =>
    obtain ⟨ms, hms⟩ := exists_mentionsNode hs _
    exact ⟨ms, .named ha hname hms hb⟩

/-! ## 3. Their places -/

/-- A mention in a text that begins at a place: its name stands there. -/
structure Mention.StandsIn (m : Mention) (o : Nat) (s : List Char) : Prop where
  isName : IsName m.name.toList
  stands : ∃ before after, s = before ++ m.name.toList ++ after ∧ m.place = o + before.length

/-- Mentions in a text that begins at a place, in the order in which they stand there. -/
structure LaidOut (o : Nat) (s : List Char) (ms : List Mention) : Prop where
  stands : ∀ m ∈ ms, m.StandsIn o s
  sorted : ms.Pairwise fun m k => m.place < k.place

section

variable {o : Nat} {s t : List Char} {m : Mention} {ms ns : List Mention}

theorem Mention.StandsIn.le_place (h : m.StandsIn o s) : o ≤ m.place := by
  obtain ⟨before, after, -, hplace⟩ := h.stands
  omega

theorem Mention.StandsIn.place_lt (h : m.StandsIn o s) : m.place < o + s.length := by
  obtain ⟨before, after, rfl, hplace⟩ := h.stands
  have hpos := List.length_pos_iff.mpr h.isName.1
  simp only [List.length_append]
  omega

theorem laidOut_nil (o : Nat) (s : List Char) : LaidOut o s [] :=
  ⟨List.forall_mem_nil _, .nil⟩

/-- A name that stands alone. -/
theorem laidOut_singleton {name : List Char} (hname : IsName name) (body o : Nat) :
    LaidOut o name [⟨body, o, String.ofList name⟩] := by
  refine ⟨List.forall_mem_singleton.mpr ⟨?_, [], [], ?_, rfl⟩, List.pairwise_singleton _ _⟩
  · rwa [String.toList_ofList]
  · simp

/-- **Texts and their mentions put together.** -/
theorem LaidOut.append (hs : LaidOut o s ms) (ht : LaidOut (o + s.length) t ns) :
    LaidOut o (s ++ t) (ms ++ ns) where
  stands m hm := by
    rcases List.mem_append.mp hm with hm | hm
    · obtain ⟨hname, before, after, heq, hplace⟩ := hs.stands m hm
      exact ⟨hname, before, after ++ t, by rw [heq, List.append_assoc], hplace⟩
    · obtain ⟨hname, before, after, heq, hplace⟩ := ht.stands m hm
      refine ⟨hname, s ++ before, after, by rw [heq]; simp only [List.append_assoc], ?_⟩
      rw [hplace, List.length_append, Nat.add_assoc]
  sorted := by
    refine List.pairwise_append.mpr ⟨hs.sorted, ht.sorted, fun m hm k hk => ?_⟩
    exact Nat.lt_of_lt_of_le (hs.stands m hm).place_lt (ht.stands k hk).le_place

theorem LaidOut.append_right (hs : LaidOut o s ms) (t : List Char) : LaidOut o (s ++ t) ms := by
  have h := hs.append (laidOut_nil _ t)
  rwa [List.append_nil] at h

theorem LaidOut.append_left (ht : LaidOut (o + s.length) t ns) : LaidOut o (s ++ t) ns :=
  (laidOut_nil o s).append ht

end

mutual

theorem MentionsNode.laidOut : ∀ {o : Nat} {s : List Char} {q : Query} {ms : List Mention},
    MentionsNode o s q ms → LaidOut o s ms
  | _, _, _, _, .node _ _ hbody => by
    have hbraced := LaidOut.append_left (s := ['\x7b']) hbody.laidOut
    exact LaidOut.append_left hbraced

theorem MentionsBody.laidOut : ∀ {body : Nat} {s : List Char} {items : List Item}
    {ms : List Mention}, MentionsBody body s items ms → LaidOut (body + 1) s ms
  | _, _, _, _, .empty _ => laidOut_nil _ _
  | _, _, _, _, .items hs => hs.laidOut

theorem MentionsItems.laidOut : ∀ {body o : Nat} {s : List Char} {items : List Item}
    {ms : List Mention}, MentionsItems body o s items ms → LaidOut o s ms
  | _, _, _, _, _, .last hs _ => (hs.laidOut.append_right _).append_right _
  | _, _, _, _, _, .more hs _ ht => by
    have hrest := LaidOut.append_left (s := [',']) ht.laidOut
    exact (hs.laidOut.append_right _).append hrest

theorem MentionsItem.laidOut : ∀ {body o : Nat} {s : List Char} {item : Item} {ms : List Mention},
    MentionsItem body o s item ms → LaidOut o s ms
  | body, _, _, _, _, .field _ hname => LaidOut.append_left (laidOut_singleton hname body _)
  | body, o, _, _, _, @MentionsItem.nested _ _ b _ _ _ _ _ hname hs => by
    have hhead := LaidOut.append_left (laidOut_singleton hname body (o + b.length))
    exact hhead.append hs.laidOut

end

/-- **The mentions of a query stand in its text,** in order. -/
theorem Mentions.laidOut {s : List Char} {q : Query} {ms : List Mention} (h : Mentions s q ms) :
    LaidOut 0 s ms := by
  cases h with
  | bare hs _ => exact hs.laidOut.append_right _
  | @named a name s b _ _ _ _ hs _ =>
    have hnode := hs.laidOut
    rw [← Nat.zero_add (a ++ name).length] at hnode
    exact (LaidOut.append_left hnode).append_right b

/-! ## 4. Their bodies -/

mutual

/-- The bodies of a node are opened in its text. -/
theorem MentionsNode.body_mem : ∀ {o : Nat} {s : List Char} {q : Query} {ms : List Mention},
    MentionsNode o s q ms → ∀ m ∈ ms, o ≤ m.body ∧ m.body < o + s.length
  | _, _, _, _, .node _ _ hbody, m, hm => by
    have hopened := hbody.body_mem m hm
    simp only [List.length_append, List.length_cons] at hopened ⊢
    omega

theorem MentionsBody.body_mem : ∀ {body : Nat} {s : List Char} {items : List Item}
    {ms : List Mention}, MentionsBody body s items ms →
      ∀ m ∈ ms, m.body = body ∨ body < m.body ∧ m.body < body + 1 + s.length
  | _, _, _, _, .empty _, _, hm => absurd hm List.not_mem_nil
  | _, _, _, _, .items hs, m, hm => hs.body_mem m hm

/-- The bodies of items are opened in their text, but for the body that the items stand in. -/
theorem MentionsItems.body_mem : ∀ {body o : Nat} {s : List Char} {items : List Item}
    {ms : List Mention}, MentionsItems body o s items ms →
      ∀ m ∈ ms, m.body = body ∨ o ≤ m.body ∧ m.body < o + s.length
  | _, _, _, _, _, .last hs _, m, hm => by
    have hopened := hs.body_mem m hm
    simp only [List.length_append]
    omega
  | _, _, _, _, _, .more hs _ ht, m, hm => by
    simp only [List.length_append, List.length_cons]
    rcases List.mem_append.mp hm with hm | hm
    · have hopened := hs.body_mem m hm
      omega
    · have hopened := ht.body_mem m hm
      simp only [List.length_append] at hopened
      omega

theorem MentionsItem.body_mem : ∀ {body o : Nat} {s : List Char} {item : Item} {ms : List Mention},
    MentionsItem body o s item ms → ∀ m ∈ ms, m.body = body ∨ o ≤ m.body ∧ m.body < o + s.length
  | _, _, _, _, _, .field _ _, m, hm => by
    cases List.mem_singleton.mp hm
    exact .inl rfl
  | _, _, _, _, _, .nested _ _ hs, m, hm => by
    rcases List.mem_cons.mp hm with rfl | hm
    · exact .inl rfl
    · have hopened := hs.body_mem m hm
      simp only [List.length_append] at hopened ⊢
      omega

end

end JsonSieve.Query
