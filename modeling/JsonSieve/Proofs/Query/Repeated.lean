/-
# Names that are repeated

A text that spells a query compiles to it if no name stands twice in a body, and if one does it is
refused for the leftmost name that stands in its body already (`compile_refuses_leftmost_repeat`).
Names in different bodies never meet, whether one body is inside the other or beside it.

The reader finds a repetition with nothing but the names of the body at hand.  It is compared with
`firstRepeat?`, which goes through all mentions of the text with all mentions before them in hand.
They agree because a body is opened where no body was before: the mentions in hand that are of the
body at hand are those of its items that have been read (`InHand`).  The induction is on the
spelling, once for a text without a repetition and once for the stage that fails at the first one.
-/
import JsonSieve.Proofs.Query.Mention
import JsonSieve.Proofs.Query.Spelling

namespace JsonSieve.Query

/-! ## 1. Repetitions among mentions -/

/-- A mention of the same name in the same body as another one. -/
def Mention.Matches (m k : Mention) : Prop := k.body = m.body ∧ k.name = m.name

instance (m k : Mention) : Decidable (m.Matches k) :=
  inferInstanceAs (Decidable (k.body = m.body ∧ k.name = m.name))

/-- The first mention that matches one before it, `seen` being the mentions before all of them. -/
def firstRepeat? (seen : List Mention) : List Mention → Option Mention
  | [] => none
  | m :: ms => if ∃ k ∈ seen, m.Matches k then some m else firstRepeat? (seen ++ [m]) ms

/-- **A name is repeated** if it stands further left in its body. -/
def Mention.Repeats (ms : List Mention) (m : Mention) : Prop :=
  ∃ k ∈ ms, m.Matches k ∧ k.place < m.place

instance (ms : List Mention) (m : Mention) : Decidable (m.Repeats ms) :=
  inferInstanceAs (Decidable (∃ k ∈ ms, m.Matches k ∧ k.place < m.place))

/-- The leftmost of the mentions that are repetitions: any other one is further right. -/
structure Mention.IsFirstRepeat (ms : List Mention) (m : Mention) : Prop where
  mem : m ∈ ms
  repeats : m.Repeats ms
  leftmost : ∀ k ∈ ms, k.Repeats ms → k = m ∨ m.place < k.place

section

variable {seen ms ns : List Mention} {m k : Mention}

theorem firstRepeat?_cons_eq_none :
    firstRepeat? seen (m :: ms) = none ↔
      (¬ ∃ k ∈ seen, m.Matches k) ∧ firstRepeat? (seen ++ [m]) ms = none := by
  rw [firstRepeat?]
  split
  · next hmatches => simp [hmatches]
  · next hmatches => simp [hmatches]

theorem firstRepeat?_cons_eq_some :
    firstRepeat? seen (m :: ms) = some k ↔
      ((∃ k ∈ seen, m.Matches k) ∧ m = k) ∨
        ((¬ ∃ k ∈ seen, m.Matches k) ∧ firstRepeat? (seen ++ [m]) ms = some k) := by
  rw [firstRepeat?]
  split
  · next hmatches => simp [hmatches]
  · next hmatches => simp [hmatches]

theorem firstRepeat?_append :
    firstRepeat? seen (ms ++ ns) =
      (firstRepeat? seen ms).or (firstRepeat? (seen ++ ms) ns) := by
  induction ms generalizing seen with
  | nil => simp [firstRepeat?]
  | cons m ms ih =>
    rw [List.cons_append, firstRepeat?, firstRepeat?]
    split
    · rfl
    · rw [ih, List.append_assoc]
      rfl

/-- In order of their places, the mentions further left are those before. -/
theorem repeats_iff_of_sorted
    (hsorted : (seen ++ m :: ms).Pairwise fun k l => k.place < l.place) :
    m.Repeats (seen ++ m :: ms) ↔ ∃ k ∈ seen, m.Matches k := by
  obtain ⟨-, htail, hseen⟩ := List.pairwise_append.mp hsorted
  constructor
  · rintro ⟨k, hk, hmatches, hplace⟩
    rcases List.mem_append.mp hk with hk | hk
    · exact ⟨k, hk, hmatches⟩
    · rcases List.mem_cons.mp hk with rfl | hk
      · omega
      · have hbehind := List.rel_of_pairwise_cons htail hk
        omega
  · rintro ⟨k, hk, hmatches⟩
    exact ⟨k, List.mem_append_left _ hk, hmatches, hseen k hk m List.mem_cons_self⟩

theorem not_repeats_of_firstRepeat?
    (hsorted : (seen ++ ms).Pairwise fun k l => k.place < l.place)
    (h : firstRepeat? seen ms = none) : ∀ m ∈ ms, ¬ m.Repeats (seen ++ ms) := by
  induction ms generalizing seen with
  | nil => exact List.forall_mem_nil _
  | cons m ms ih =>
    have hrepeats := repeats_iff_of_sorted hsorted
    obtain ⟨hmatches, h⟩ := firstRepeat?_cons_eq_none.mp h
    rw [List.append_cons] at hsorted hrepeats ⊢
    exact List.forall_mem_cons.mpr ⟨mt hrepeats.mp hmatches, ih hsorted h⟩

theorem repeats_of_firstRepeat?
    (hsorted : (seen ++ ms).Pairwise fun k l => k.place < l.place)
    (h : firstRepeat? seen ms = some m) :
    m ∈ ms ∧ m.Repeats (seen ++ ms) ∧
      ∀ k ∈ ms, k.Repeats (seen ++ ms) → k = m ∨ m.place < k.place := by
  induction ms generalizing seen with
  | nil => cases h
  | cons l ms ih =>
    have hrepeats := repeats_iff_of_sorted hsorted
    rcases firstRepeat?_cons_eq_some.mp h with ⟨hmatches, rfl⟩ | ⟨hmatches, h⟩
    · obtain ⟨-, htail, -⟩ := List.pairwise_append.mp hsorted
      refine ⟨List.mem_cons_self, hrepeats.mpr hmatches, List.forall_mem_cons.mpr ⟨?_, ?_⟩⟩
      · exact fun _ => .inl rfl
      · exact fun k hk _ => .inr (List.rel_of_pairwise_cons htail hk)
    · rw [List.append_cons] at hsorted hrepeats ⊢
      obtain ⟨hmem, hm, hleft⟩ := ih hsorted h
      refine ⟨List.mem_cons_of_mem _ hmem, hm, List.forall_mem_cons.mpr ⟨?_, hleft⟩⟩
      exact fun hl => absurd (hrepeats.mp hl) hmatches

/-- There is one leftmost repetition at most. -/
theorem Mention.IsFirstRepeat.unique (hm : m.IsFirstRepeat ms) (hk : k.IsFirstRepeat ms) :
    m = k := by
  rcases hm.leftmost k hk.mem hk.repeats with heq | hlt
  · exact heq.symm
  · rcases hk.leftmost m hm.mem hm.repeats with heq | hgt
    · exact heq
    · omega

/-- **The first repetition is the leftmost one,** and there is none if no mention is a
repetition. -/
theorem firstRepeat?_cases (hsorted : ms.Pairwise fun k l => k.place < l.place) :
    (firstRepeat? [] ms = none ∧ ∀ m ∈ ms, ¬ m.Repeats ms) ∨
      ∃ m, firstRepeat? [] ms = some m ∧ m.IsFirstRepeat ms := by
  cases hfirst : firstRepeat? [] ms with
  | none =>
    have hnot : ∀ m ∈ ms, ¬ m.Repeats ([] ++ ms) := not_repeats_of_firstRepeat? hsorted hfirst
    exact .inl ⟨rfl, hnot⟩
  | some m =>
    have hm : m ∈ ms ∧ m.Repeats ([] ++ ms) ∧
        ∀ k ∈ ms, k.Repeats ([] ++ ms) → k = m ∨ m.place < k.place :=
      repeats_of_firstRepeat? hsorted hfirst
    exact .inr ⟨m, rfl, hm.1, hm.2.1, hm.2.2⟩

end

/-! ## 2. Mentions in hand -/

/-- What has been read when the items of a body go on at a place: all bodies were opened before, and
`taken` are the names that the body has already. -/
structure InHand (body o : Nat) (seen : List Mention) (taken : List String) : Prop where
  body_lt : body < o
  opened : ∀ k ∈ seen, k.body < o
  taken_iff : ∀ name, name ∈ taken ↔ ∃ k ∈ seen, k.body = body ∧ k.name = name

section

variable {body o : Nat} {s b : List Char} {item : Item} {seen ms : List Mention}
  {taken : List String}

/-- A body that is opened has no names yet. -/
theorem inHand_nil (hseen : ∀ k ∈ seen, k.body < body) : InHand body (body + 1) seen [] where
  body_lt := Nat.lt_succ_self body
  opened k hk := Nat.lt_succ_of_lt (hseen k hk)
  taken_iff name := by
    refine iff_of_false List.not_mem_nil ?_
    rintro ⟨k, hk, heq, -⟩
    have hlt := hseen k hk
    omega

/-- A name in the body at hand is before the bodies that are opened behind it. -/
theorem InHand.nested (h : InHand body o seen taken) (place n : Nat) (name : String) :
    ∀ k ∈ seen ++ [⟨body, place, name⟩], k.body < o + n := by
  intro k hk
  refine Nat.lt_of_lt_of_le ?_ (Nat.le_add_right o n)
  rcases List.mem_append.mp hk with hk | hk
  · exact h.opened k hk
  · cases List.mem_singleton.mp hk
    exact h.body_lt

/-- **An item gives its body one name more,** whatever bodies it opens. -/
theorem InHand.next (h : InHand body o seen taken) (hitem : MentionsItem body o s item ms) :
    InHand body (o + (s ++ b).length + 1) (seen ++ ms) (item.name :: taken) where
  body_lt := by
    have hlt := h.body_lt
    omega
  opened k hk := by
    have hlt := h.body_lt
    simp only [List.length_append]
    rcases List.mem_append.mp hk with hk | hk
    · have hopened := h.opened k hk
      omega
    · have hopened := hitem.body_mem k hk
      omega
  taken_iff name := by
    simp only [List.mem_cons, List.mem_append, h.taken_iff, or_and_right, exists_or]
    rw [or_comm]
    refine or_congr_right ?_
    cases hitem with
    | field => simp [Item.name, eq_comm]
    | nested hb hname hs =>
      simp only [Item.name, List.mem_cons, exists_eq_or_imp, true_and]
      rw [eq_comm, iff_self_or]
      rintro ⟨k, hk, heq, -⟩
      -- the bodies inside the item are opened behind this one
      have hopened := hs.body_mem k hk
      have hlt := h.body_lt
      omega

end

/-! ## 3. No repetition -/

mutual

theorem MentionsNode.noRepeats : ∀ {o : Nat} {s : List Char} {q : Query} {seen ms : List Mention},
    MentionsNode o s q ms → (∀ k ∈ seen, k.body < o) → firstRepeat? seen ms = none → q.NoRepeats
  | _, _, _, _, _, .node _ _ hbody, hseen, h => by
    refine noRepeats_ofItems_iff.mpr (hbody.fresh (fun k hk => ?_) h)
    have hlt := hseen k hk
    omega

theorem MentionsBody.fresh : ∀ {body : Nat} {s : List Char} {items : List Item}
    {seen ms : List Mention}, MentionsBody body s items ms → (∀ k ∈ seen, k.body < body) →
      firstRepeat? seen ms = none → Fresh [] items ∧ ∀ item ∈ items, item.NoRepeats
  | _, _, _, _, _, .empty _, _, _ => ⟨fresh_nil_right [], List.forall_mem_nil _⟩
  | _, _, _, _, _, .items hs, hseen, h => hs.fresh (inHand_nil hseen) h

theorem MentionsItems.fresh : ∀ {body o : Nat} {s : List Char} {items : List Item}
    {seen ms : List Mention} {taken : List String}, MentionsItems body o s items ms →
      InHand body o seen taken → firstRepeat? seen ms = none →
        Fresh taken items ∧ ∀ item ∈ items, item.NoRepeats
  | _, _, _, _, _, _, _, .last hs _, hin, h => by
    obtain ⟨hname, hdeep⟩ := hs.fresh hin h
    exact ⟨fresh_cons.mpr ⟨hname, fresh_nil_right _⟩, List.forall_mem_singleton.mpr hdeep⟩
  | _, _, _, _, _, _, _, .more hs _ ht, hin, h => by
    rw [firstRepeat?_append, Option.or_eq_none_iff] at h
    obtain ⟨hname, hdeep⟩ := hs.fresh hin h.1
    obtain ⟨hfresh, hrest⟩ := ht.fresh (hin.next hs) h.2
    exact ⟨fresh_cons.mpr ⟨hname, hfresh⟩, List.forall_mem_cons.mpr ⟨hdeep, hrest⟩⟩

theorem MentionsItem.fresh : ∀ {body o : Nat} {s : List Char} {item : Item}
    {seen ms : List Mention} {taken : List String}, MentionsItem body o s item ms →
      InHand body o seen taken → firstRepeat? seen ms = none →
        item.name ∉ taken ∧ item.NoRepeats
  | _, _, _, _, _, _, _, .field _ _, hin, h => by
    obtain ⟨hmatches, -⟩ := firstRepeat?_cons_eq_none.mp h
    exact ⟨mt (hin.taken_iff _).mp hmatches, trivial⟩
  | _, _, _, _, _, _, _, .nested _ _ hs, hin, h => by
    obtain ⟨hmatches, hinside⟩ := firstRepeat?_cons_eq_none.mp h
    exact ⟨mt (hin.taken_iff _).mp hmatches, hs.noRepeats (hin.nested _ _ _) hinside⟩

end

/-! ## 4. The reader at a repetition -/

section

variable {start c d e : Cursor} {fuel : Nat} {taken : List String} {name : String}
  {err : QueryError}

theorem refuseRepeated_of_mem (h : name ∈ taken) :
    refuseRepeated taken name c = .error (.repeated name) c := by
  rw [refuseRepeated, if_pos (List.contains_iff_mem.mpr h)]
  rfl

/-- Items that begin with a name which their body has already. -/
theorem readItems_of_taken (hname : next c = .ok (.word name) d) (h : name ∈ taken) :
    readItems start taken (fuel + 1) c = .error (.repeated name) d := by
  rw [readItems]
  refine (bind_of_ok (here_eq_ok.mpr ⟨rfl, rfl⟩)).trans ?_
  refine (bind_of_ok (readName_eq_ok.mpr hname)).trans ?_
  exact bind_of_error (refuseRepeated_of_mem h)

/-- Items that begin with a name which is new: what is left is to read the first of them and to go
on behind it. -/
theorem readItems_of_not_taken (hname : next c = .ok (.word name) d) (h : name ∉ taken) :
    readItems start taken (fuel + 1) c =
      (readItem name (readNode c fuel) >>= fun item => do
        return item :: (← afterItem start (readItems start (name :: taken) fuel))) d := by
  have hnew : refuseRepeated taken name d = .ok () d := refuseRepeated_eq_ok.mpr ⟨h, rfl⟩
  rw [readItems]
  refine (bind_of_ok (here_eq_ok.mpr ⟨rfl, rfl⟩)).trans ?_
  refine (bind_of_ok (readName_eq_ok.mpr hname)).trans ?_
  exact bind_of_ok hnew

/-- A nested query that fails. -/
theorem readItem_of_readNode {node : Reading Query} {t : Token}
    (ht : ∃ g, next c = .ok t g) (hopen : t = .openParen ∨ t = .openBrace)
    (h : node c = .error err d) : readItem name node c = .error err d := by
  rw [readItem]
  refine (bind_of_ok (ahead_eq_ok.mpr ⟨rfl, ht⟩)).trans ?_
  rcases hopen with rfl | rfl
  · exact map_of_error h
  · exact map_of_error h

theorem afterItem_of_comma {more : Reading (List Item)} (h : next c = .ok .comma d) :
    afterItem start more c = more d := by
  rw [afterItem]
  exact bind_of_ok h

theorem readBody_of_word {items : Reading (List Item)} (h : next c = .ok (.word name) d) :
    readBody items c = items c := by
  rw [readBody]
  exact bind_of_ok (ahead_eq_ok.mpr ⟨rfl, d, h⟩)

/-- A body that fails. -/
theorem readNode_of_readBody {fs : List Filter} {c₁ c₂ : Cursor}
    (hfilters : readFilters start fuel c = .ok fs c₁) (hopen : next c₁ = .ok .openBrace c₂)
    (h : readBody (readItems start [] fuel) c₂ = .error err d) :
    readNode start (fuel + 1) c = .error err d := by
  have hopening : readOpening start c₁ = .ok () c₂ := readOpening_eq_ok.mpr hopen
  rw [readNode]
  refine (bind_of_ok hfilters).trans ?_
  refine (bind_of_ok hopening).trans ?_
  exact bind_of_error h

end

/-! ## 5. The first repetition is reported -/

mutual

theorem MentionsNode.refused : ∀ {o : Nat} {s : List Char} {q : Query} {seen ms : List Mention}
    {m : Mention}, MentionsNode o s q ms → (∀ k ∈ seen, k.body < o) →
    firstRepeat? seen ms = some m → ∀ {fuel : Nat} {start c d : Cursor}, s.length ≤ fuel →
      c.Passes s d → ∃ e, readNode start fuel c = .error (.repeated m.name) e
  | _, _, _, seen, _, m, @MentionsNode.node o s b t fs items ms hs hb hbody, hseen, hfirst, fuel,
      start, c, d, hfuel, hp => by
    simp only [List.length_append, List.length_cons] at hfuel
    obtain ⟨fuel, rfl⟩ : ∃ n, fuel = n + 1 := ⟨fuel - 1, by omega⟩
    obtain ⟨c₁, c₂, hf, hn, pt⟩ : ∃ c₁ c₂, readFilters start fuel c = .ok fs c₁ ∧
        next c₁ = .ok .openBrace c₂ ∧ c₂.Passes t d :=
      readFilters_opening hs hb (by omega) hp
    have hbefore : ∀ k ∈ seen, k.body < o + (s ++ b).length :=
      fun k hk => Nat.lt_of_lt_of_le (hseen k hk) (Nat.le_add_right _ _)
    obtain ⟨e, he⟩ : ∃ e, readBody (readItems start [] fuel) c₂ = .error (.repeated m.name) e :=
      hbody.refused hbefore hfirst (by omega) pt
    exact ⟨e, readNode_of_readBody hf hn he⟩

theorem MentionsBody.refused : ∀ {body : Nat} {s : List Char} {items : List Item}
    {seen ms : List Mention} {m : Mention}, MentionsBody body s items ms →
    (∀ k ∈ seen, k.body < body) → firstRepeat? seen ms = some m →
    ∀ {fuel : Nat} {start c d : Cursor}, s.length ≤ fuel → c.Passes s d →
      ∃ e, readBody (readItems start [] fuel) c = .error (.repeated m.name) e
  | _, _, _, _, _, _, .empty _, _, hfirst, _, _, _, _, _, _ => by cases hfirst
  | _, _, _, _, _, m, .items hs, hseen, hfirst, fuel, start, c, d, hfuel, hp => by
    obtain ⟨e, he⟩ : ∃ e, readItems start [] fuel c = .error (.repeated m.name) e :=
      hs.refused (inHand_nil hseen) hfirst hfuel hp
    obtain ⟨w, g, hw⟩ := next_of_spellsItems hs.spells hp
    exact ⟨e, (readBody_of_word hw).trans he⟩

theorem MentionsItems.refused : ∀ {body o : Nat} {s : List Char} {items : List Item}
    {seen ms : List Mention} {taken : List String} {m : Mention}, MentionsItems body o s items ms →
    InHand body o seen taken → firstRepeat? seen ms = some m →
    ∀ {fuel : Nat} {start c d : Cursor}, s.length ≤ fuel → c.Passes s d →
      ∃ e, readItems start taken fuel c = .error (.repeated m.name) e
  | _, _, _, _, _, _, taken, m, @MentionsItems.last body o s b item ms hs hb, hin, hfirst, fuel,
      start, c, d, hfuel, hp => by
    simp only [List.length_append, List.length_singleton] at hfuel
    obtain ⟨fuel, rfl⟩ : ∃ n, fuel = n + 1 := ⟨fuel - 1, by omega⟩
    obtain ⟨c₁, ps, hend, -⟩ := passes_closeBrace hb hp
    exact hs.refused hin hfirst (by omega) ps hend
  | _, _, _, _, _, _, taken, m, @MentionsItems.more body o s b t item items ms ns hs hb ht, hin,
      hfirst, fuel, start, c, d, hfuel, hp => by
    simp only [List.length_append, List.length_cons] at hfuel
    obtain ⟨fuel, rfl⟩ : ∃ n, fuel = n + 1 := ⟨fuel - 1, by omega⟩
    obtain ⟨c₁, c₂, ps, hend, hn, pt⟩ := passes_comma hb hp
    rw [firstRepeat?_append, Option.or_eq_some_iff] at hfirst
    rcases hfirst with hfirst | ⟨hnone, hfirst⟩
    · exact hs.refused hin hfirst (by omega) ps hend
    · obtain ⟨hfresh, hdeep⟩ := hs.fresh hin hnone
      obtain ⟨g, hname, hitem⟩ : ∃ g, next c = .ok (.word item.name) g ∧
          readItem item.name (readNode c fuel) g = .ok item c₁ :=
        readItem_of_spells hs.spells hdeep (by omega) ps hend hn (.inl rfl)
      obtain ⟨e, hrest⟩ : ∃ e, readItems start (item.name :: taken) fuel c₂ =
          .error (.repeated m.name) e :=
        ht.refused (hin.next hs) hfirst (by omega) pt
      refine ⟨e, (readItems_of_not_taken hname hfresh).trans ?_⟩
      refine (bind_of_ok hitem).trans (bind_of_error ?_)
      exact (afterItem_of_comma hn).trans hrest

theorem MentionsItem.refused : ∀ {body o : Nat} {s : List Char} {item : Item}
    {seen ms : List Mention} {taken : List String} {m : Mention}, MentionsItem body o s item ms →
    InHand body o seen taken → firstRepeat? seen ms = some m →
    ∀ {fuel : Nat} {start c d : Cursor}, s.length ≤ fuel + 1 → c.Passes s d →
      Ends isWordChar d.rest →
      ∃ e, readItems start taken (fuel + 1) c = .error (.repeated m.name) e
  | _, _, _, _, _, _, _, _, .field hb hname, hin, hfirst, _, _, c, d, _, hp, hend => by
    rcases firstRepeat?_cons_eq_some.mp hfirst with ⟨hmatches, rfl⟩ | ⟨-, hnil⟩
    · exact ⟨d, readItems_of_taken (next_of_name hb hname hp hend) ((hin.taken_iff _).mpr hmatches)⟩
    · cases hnil
  | _, _, _, _, _, _, taken, m, @MentionsItem.nested body o b name s q ms hb hname hs, hin, hfirst,
      fuel, start, c, d, hfuel, hp, _ => by
    have hpos := List.length_pos_iff.mpr hname.1
    simp only [List.length_append] at hfuel
    obtain ⟨g, pb, ps⟩ := hp.split
    have hn : next c = .ok (.word (String.ofList name)) g :=
      next_of_name hb hname pb (ps.rest_eq ▸ hs.spells.ends_word d.rest)
    rcases firstRepeat?_cons_eq_some.mp hfirst with ⟨hmatches, rfl⟩ | ⟨hmatches, hinside⟩
    · exact ⟨g, readItems_of_taken hn ((hin.taken_iff _).mpr hmatches)⟩
    · obtain ⟨e, hnode⟩ : ∃ e, readNode c fuel g = .error (.repeated m.name) e :=
        hs.refused (hin.nested _ _ _) hinside (by omega) ps
      obtain ⟨u, e', hu, hopen⟩ := next_of_spellsNode hs.spells ps
      refine ⟨e, (readItems_of_not_taken hn (mt (hin.taken_iff _).mp hmatches)).trans ?_⟩
      exact bind_of_error (readItem_of_readNode ⟨e', hu⟩ hopen hnode)

end

/-! ## 6. Whole queries -/

/-- Behind the name that a text may begin with stands its node. -/
theorem Mentions.exists_node {s : List Char} {q : Query} {ms : List Mention} {c d : Cursor}
    (h : Mentions s q ms) (hp : c.Passes s d) :
    ∃ o t c₁ c₂, MentionsNode o t q ms ∧ t.length ≤ s.length ∧ skipName c = .ok () c₁ ∧
      c₁.Passes t c₂ := by
  cases h with
  | @bare t b _ _ hs hb =>
    obtain ⟨c₂, ps, -⟩ := hp.split
    have hskip : skipName c = .ok () c := skipName_of_spellsNode hs.spells ps
    refine ⟨0, t, c, c₂, hs, ?_, hskip, ps⟩
    rw [List.length_append]
    exact Nat.le_add_right _ _
  | @named a name t b _ _ ha hname hs hb =>
    obtain ⟨c₂, hp, -⟩ := hp.split
    obtain ⟨c₁, pa, ps⟩ := hp.split
    have hword : next c = .ok (.word (String.ofList name)) c₁ :=
      next_of_name ha hname pa (ps.rest_eq ▸ hs.spells.ends_word c₂.rest)
    refine ⟨_, t, c₁, c₂, hs, ?_, skipName_eq_ok.mpr (.inl ⟨_, hword⟩), ps⟩
    simp only [List.length_append]
    omega

theorem Mentions.refused {s : List Char} {q : Query} {ms : List Mention} {m : Mention}
    {c d : Cursor} (h : Mentions s q ms) (hfirst : firstRepeat? [] ms = some m)
    (hp : c.Passes s d) : ∃ e, readWhole c = .error (.repeated m.name) e := by
  obtain ⟨o, t, c₁, c₂, hnode, hlen, hskip, hp₁⟩ := h.exists_node hp
  have hfuel : t.length ≤ 2 * c.rest.length + 2 := by
    rw [hp.rest_eq, List.length_append]
    omega
  obtain ⟨e, he⟩ : ∃ e, readNode c (2 * c.rest.length + 2) c₁ = .error (.repeated m.name) e :=
    hnode.refused (List.forall_mem_nil _) hfirst hfuel hp₁
  refine ⟨e, ?_⟩
  rw [readWhole]
  refine (bind_of_ok (here_eq_ok.mpr ⟨rfl, rfl⟩)).trans ?_
  exact (bind_of_ok hskip).trans (bind_of_error he)

theorem Mentions.noRepeats {s : List Char} {q : Query} {ms : List Mention} (h : Mentions s q ms)
    (hnone : firstRepeat? [] ms = none) : q.NoRepeats := by
  cases h with
  | bare hs _ => exact hs.noRepeats (List.forall_mem_nil _) hnone
  | named _ _ hs _ => exact hs.noRepeats (List.forall_mem_nil _) hnone

/-- The first repetition is what a text is refused for. -/
theorem compile_of_mentions {source : String} {q : Query} {ms : List Mention}
    (h : Mentions source.toList q ms) :
    compile source = match firstRepeat? [] ms with
      | none => .ok q
      | some m => .error (.repeated m.name) := by
  cases hfirst : firstRepeat? [] ms with
  | none => exact compile_of_spells h.spells (h.noRepeats hfirst)
  | some m =>
    obtain ⟨e, he⟩ := h.refused hfirst (Cursor.passes_start source)
    rw [compile, he]

/-- **Repeated names are refused, the leftmost one first.**  A text that spells a query, but for
names that may be repeated, compiles to it exactly if no name stands twice in its body; otherwise
the error is about the leftmost name that stands further left in the same body, and about no other
one. -/
theorem compile_refuses_leftmost_repeat {source : String} {q : Query}
    (h : Spells source.toList q) :
    (∃ ms, Mentions source.toList q ms) ∧
      ∀ ms, Mentions source.toList q ms →
        LaidOut 0 source.toList ms ∧
        (compile source = .ok q ↔ ∀ m ∈ ms, ¬ m.Repeats ms) ∧
        ∀ err, compile source = .error err ↔
          ∃ m : Mention, m.IsFirstRepeat ms ∧ err = .repeated m.name := by
  refine ⟨exists_mentions h, fun ms hms => ⟨hms.laidOut, ?_⟩⟩
  have hcompile := compile_of_mentions hms
  rcases firstRepeat?_cases hms.laidOut.sorted with ⟨hnone, hnot⟩ | ⟨m, hsome, hm⟩
  · simp only [hnone] at hcompile
    refine ⟨iff_of_true hcompile hnot, fun err => iff_of_false ?_ ?_⟩
    · rw [hcompile]
      exact nofun
    · rintro ⟨m, hm, -⟩
      exact hnot m hm.mem hm.repeats
  · simp only [hsome] at hcompile
    refine ⟨iff_of_false ?_ fun hnot => hnot m hm.mem hm.repeats, fun err => ?_⟩
    · rw [hcompile]
      exact nofun
    · rw [hcompile, Except.error.injEq]
      constructor
      · rintro rfl
        exact ⟨m, hm, rfl⟩
      · rintro ⟨k, hk, rfl⟩
        rw [hm.unique hk]

/-- The `b` inside is in a body of its own and the `b` behind it is not refused; the second `a` is,
though the first one has a query and it has none. -/
theorem compile_refuses_leftmost_repeat_nested :
    Spells "\x7ba\x7bb\x7d,b,a\x7d".toList
      (ofItems [] [.nested "a" (ofItems [] [.field "b"]), .field "b", .field "a"]) ∧
    compile "\x7ba\x7bb\x7d,b,a\x7d" = .error (.repeated "a") := by
  have ha : IsName ['a'] := ⟨by decide, List.all_eq_true.mp (by decide)⟩
  have hb : IsName ['b'] := ⟨by decide, List.all_eq_true.mp (by decide)⟩
  have hinner : MentionsNode 2 ['\x7b', 'b', '\x7d'] (ofItems [] [.field "b"]) [⟨2, 3, "b"⟩] :=
    .node .missing blanks_nil (.items (.last (.field blanks_nil hb) blanks_nil))
  have hitems : MentionsItems 0 1 "a\x7bb\x7d,b,a\x7d".toList
      [.nested "a" (ofItems [] [.field "b"]), .field "b", .field "a"]
      [⟨0, 1, "a"⟩, ⟨2, 3, "b"⟩, ⟨0, 6, "b"⟩, ⟨0, 8, "a"⟩] :=
    .more (.nested blanks_nil ha hinner) blanks_nil
      (.more (.field blanks_nil hb) blanks_nil (.last (.field blanks_nil ha) blanks_nil))
  have hmentions : Mentions "\x7ba\x7bb\x7d,b,a\x7d".toList
      (ofItems [] [.nested "a" (ofItems [] [.field "b"]), .field "b", .field "a"])
      [⟨0, 1, "a"⟩, ⟨2, 3, "b"⟩, ⟨0, 6, "b"⟩, ⟨0, 8, "a"⟩] :=
    .bare (.node .missing blanks_nil (.items hitems)) blanks_nil
  refine ⟨hmentions.spells, ?_⟩
  refine (((compile_refuses_leftmost_repeat hmentions.spells).2 _ hmentions).2.2 _).mpr ?_
  exact ⟨⟨0, 8, "a"⟩, ⟨by decide, by decide, by decide⟩, rfl⟩

end JsonSieve.Query
