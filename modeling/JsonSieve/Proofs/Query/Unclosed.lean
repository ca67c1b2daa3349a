/-
# Brackets that are not closed

A text that is refused because a bracket is not closed is the beginning of a query, and the part
that the error quotes has one bracket open (`compile_unclosed`).

The reader complains of an open bracket only in texts that stop short (`OpenQuery`).  The proof goes
stage by stage: a stage complains of an open bracket only where the text ends (`Complains`), and
what the stages before it have passed over is spelled as the grammar has it.  Every stage that is
repeated passes over a character, so the fuel never runs out, which would be reported as an open
bracket too.
-/
import JsonSieve.Proofs.Query.Unfinished

namespace JsonSieve.Query

/-! ## 1. Results of reading -/

section

variable {α β : Type} {P R : QueryError → Prop} {start c d e : Cursor} {s : List Char}

/-- A result of reading that complains of an open bracket only as it should. -/
def Complains (P : QueryError → Prop) : EStateM.Result QueryError Cursor α → Prop :=
  Meets (fun _ _ => True) fun err => err.IsUnclosed → P err

theorem Complains.mono {r : EStateM.Result QueryError Cursor α} (h : Complains P r)
    (hPR : ∀ err, P err → R err) : Complains R r := by
  cases r with
  | ok a d => trivial
  | error err d => exact fun hunclosed => hPR err (h hunclosed)

theorem Complains.bind {x : Reading α} {f : α → Reading β} (hx : Complains P (x c))
    (hf : ∀ a d, x c = .ok a d → Complains P (f a d)) : Complains P ((x >>= f) c) :=
  Meets.bind hx fun a d h _ => hf a d h

theorem Complains.map {x : Reading α} {f : α → β} (hx : Complains P (x c)) :
    Complains P ((f <$> x) c) :=
  Meets.map hx fun _ _ _ => trivial

theorem complains_moving (f : Cursor → Except TokenError α × Cursor) :
    Complains P (moving f c) := by
  rw [moving]
  split
  · trivial
  · exact False.elim

theorem complains_throw {err : QueryError} (h : err.IsUnclosed → P err) :
    Complains P ((throw err : Reading α) c) :=
  h

theorem textFrom_eq {lead : List Char} (h : start.Passes lead c) :
    textFrom start = String.ofList (lead ++ c.rest) := by
  rw [textFrom, h.rest_eq]

/-! ## 2. Stages -/

theorem complains_here : Complains P (here c) := trivial

theorem complains_wanted {what : Expectation} {t : Token} :
    Complains P ((wanted what t : Reading α) c) :=
  complains_throw False.elim

theorem complains_readKey (hend : Blanks c.rest → P (.unclosedFilter (textFrom start))) :
    Complains P (readKey start c) := by
  rw [readKey]
  refine complains_here.bind ?_
  intro clauseStart d hd
  obtain ⟨rfl, rfl⟩ := here_eq_ok.mp hd
  refine (complains_moving _).bind ?_
  intro t e ht
  cases t with
  | word key => trivial
  | ending => exact complains_throw fun _ => hend (blanks_of_next_ending ht)
  | _ => exact complains_throw False.elim

theorem complains_readOperator {key : String} : Complains P (readOperator key c) := by
  rw [readOperator]
  refine (complains_moving _).bind ?_
  intro t d _
  cases t with
  | operator op => trivial
  | _ => exact complains_throw False.elim

theorem complains_readLiteral {key : String} {op : Operator} :
    Complains P (readLiteral key op c) := by
  rw [readLiteral]
  refine (complains_moving _).bind ?_
  intro raw d _
  split
  · exact complains_throw False.elim
  · trivial

theorem complains_readClause (hend : Blanks c.rest → P (.unclosedFilter (textFrom start))) :
    Complains P (readClause start c) := by
  rw [readClause]
  refine (complains_readKey hend).bind ?_
  intro key d _
  refine complains_readOperator.bind ?_
  intro op e _
  refine complains_readLiteral.bind ?_
  intro raw f _
  trivial

theorem complains_afterClause {more : Reading (List Filter)}
    (hend : Blanks c.rest → P (.unclosedFilter (textFrom start)))
    (hmore : ∀ d, next c = .ok .both d → Complains P (more d)) :
    Complains P (afterClause start more c) := by
  rw [afterClause]
  refine (complains_moving _).bind ?_
  intro t d ht
  cases t with
  | both => exact hmore d ht
  | closeParen => trivial
  | ending => exact complains_throw fun _ => hend (blanks_of_next_ending ht)
  | _ => exact complains_wanted

/-- **The clauses that the reader refuses for an open parenthesis** stop short.  It passes over a
character in each clause, so it has fuel for one more. -/
theorem complains_readClauses : ∀ (fuel : Nat) {c : Cursor}, c.rest.length < fuel →
    Complains (fun err => OpenClauses c.rest ∧ err = .unclosedFilter (textFrom start))
      (readClauses start fuel c)
  | 0, _, hfuel => absurd hfuel (Nat.not_lt_zero _)
  | fuel + 1, c, hfuel => by
    rw [readClauses]
    refine (complains_readClause fun hb => ⟨.key hb, rfl⟩).bind ?_
    intro f d hf
    obtain ⟨s, hs, ps⟩ := spells_of_readClause hf
    have hlen := ps.length_eq
    have hend : Blanks d.rest → OpenClauses c.rest := by
      rw [ps.rest_eq]
      exact .clause hs
    refine (complains_afterClause (fun hb => ⟨hend hb, rfl⟩) ?_).bind fun _ _ _ => trivial
    intro e he
    obtain ⟨b, hb, pb, -⟩ := next_eq_ok.mp he
    have hlen' := pb.length_eq
    simp only [Token.spelling, List.length_append, List.length_cons, List.length_nil] at hlen'
    refine (complains_readClauses fuel (by omega)).mono ?_
    rintro err ⟨hopen, rfl⟩
    refine ⟨?_, rfl⟩
    rw [ps.rest_eq, pb.rest_eq]
    simpa [Token.spelling] using OpenClauses.more hs hb hopen

theorem complains_refuseEmptyFilter : Complains P (refuseEmptyFilter c) := by
  rw [refuseEmptyFilter]
  refine (complains_moving _).bind ?_
  intro t d _
  split
  · exact complains_here.bind fun e f _ => complains_throw False.elim
  · trivial

theorem complains_readFilters {lead : List Char} {fuel : Nat} (hlead : start.Passes lead c)
    (hfuel : c.rest.length ≤ fuel) :
    Complains (OpenNode lead c.rest) (readFilters start fuel c) := by
  rw [readFilters]
  refine (complains_moving _).bind ?_
  intro t d hahead
  obtain ⟨rfl, e, he⟩ := ahead_eq_ok.mp hahead
  split
  · next ht =>
    refine (complains_moving _).bind ?_
    intro u f hf
    obtain ⟨rfl, rfl⟩ := next_unique he hf
    rw [beq_iff_eq.mp ht] at he
    obtain ⟨b, hb, pb, -⟩ := next_eq_ok.mp he
    refine complains_refuseEmptyFilter.bind ?_
    intro _ g hg
    obtain ⟨rfl, -⟩ := refuseEmptyFilter_eq_ok.mp hg
    have hlen := pb.length_eq
    simp only [Token.spelling, List.length_append, List.length_cons, List.length_nil] at hlen
    refine (complains_readClauses fuel (by omega)).mono ?_
    rintro err ⟨hopen, rfl⟩
    rw [textFrom_eq hlead, pb.rest_eq]
    have hnode : OpenNode lead (b ++ '(' :: e.rest)
        (.unclosedFilter (String.ofList (lead ++ (b ++ '(' :: e.rest)))) := .filter hb hopen
    simpa [Token.spelling] using hnode
  · trivial

theorem complains_readOpening : Complains P (readOpening start c) := by
  rw [readOpening]
  refine (complains_moving _).bind ?_
  intro t d _
  cases t with
  | openBrace => trivial
  | ending | comma | closeBrace => exact complains_throw False.elim
  | _ => exact complains_wanted

theorem complains_readName (hend : Blanks c.rest → P (.unclosedBody (textFrom start))) :
    Complains P (readName start c) := by
  rw [readName]
  refine complains_here.bind ?_
  intro itemStart d hd
  obtain ⟨rfl, rfl⟩ := here_eq_ok.mp hd
  refine (complains_moving _).bind ?_
  intro t e ht
  cases t with
  | word name => trivial
  | ending => exact complains_throw fun _ => hend (blanks_of_next_ending ht)
  | operator _ | both | closeParen => exact complains_wanted
  | _ => exact complains_throw False.elim

theorem complains_refuseRepeated {taken : List String} {name : String} :
    Complains P (refuseRepeated taken name c) := by
  rw [refuseRepeated]
  split
  · exact complains_throw False.elim
  · trivial

theorem complains_readItem {name : String} {node : Reading Query} (hnode : Complains P (node c)) :
    Complains P (readItem name node c) := by
  rw [readItem]
  refine (complains_moving _).bind ?_
  intro t d hahead
  obtain ⟨rfl, -⟩ := ahead_eq_ok.mp hahead
  cases t with
  | openParen | openBrace => exact hnode.map
  | _ => trivial

theorem complains_afterItem {more : Reading (List Item)}
    (hend : Blanks c.rest → P (.unclosedBody (textFrom start)))
    (hmore : ∀ d, next c = .ok .comma d → Complains P (more d)) :
    Complains P (afterItem start more c) := by
  rw [afterItem]
  refine (complains_moving _).bind ?_
  intro t d ht
  cases t with
  | comma => exact hmore d ht
  | closeBrace => trivial
  | ending => exact complains_throw fun _ => hend (blanks_of_next_ending ht)
  | _ => exact complains_wanted

theorem complains_readBody {items : Reading (List Item)} (hitems : Complains P (items c)) :
    Complains P (readBody items c) := by
  rw [readBody]
  refine (complains_moving _).bind ?_
  intro t d hahead
  obtain ⟨rfl, -⟩ := ahead_eq_ok.mp hahead
  split
  · exact (complains_moving _).bind fun _ _ _ => trivial
  · exact hitems

end

mutual

/-- **The nodes that the reader refuses for an open bracket** stop short. -/
theorem complains_readNode : ∀ (fuel : Nat) {start c : Cursor} {lead : List Char},
    start.Passes lead c → c.rest.length < fuel →
      Complains (OpenNode lead c.rest) (readNode start fuel c)
  | 0, _, _, _, _, hfuel => absurd hfuel (Nat.not_lt_zero _)
  | fuel + 1, start, c, lead, hlead, hfuel => by
    rw [readNode]
    refine (complains_readFilters hlead (Nat.le_of_lt_succ hfuel)).bind ?_
    intro fs d hfs
    obtain ⟨s, hs, ps⟩ := spells_of_readFilters hfs
    refine complains_readOpening.bind ?_
    intro _ e he
    obtain ⟨b, hb, pb, -⟩ := next_eq_ok.mp (readOpening_eq_ok.mp he)
    have hopened := ps.trans pb
    have hlen := hopened.length_eq
    simp only [Token.spelling, List.length_append, List.length_cons, List.length_nil] at hlen
    have hitems : Complains (OpenItems (lead ++ (s ++ b ++ ['\x7b'])) [] e.rest)
        (readItems start [] fuel e) := by
      refine complains_readItems fuel ?_ (by omega)
      simpa [Token.spelling] using hlead.trans hopened
    refine (complains_readBody (hitems.mono ?_)).bind fun _ _ _ => trivial
    intro err hopen
    rw [hopened.rest_eq]
    simpa [Token.spelling] using OpenNode.body hs hb hopen

theorem complains_readItems : ∀ (fuel : Nat) {start c : Cursor} {lead : List Char}
    {taken : List String}, start.Passes lead c → c.rest.length < fuel →
      Complains (OpenItems lead taken c.rest) (readItems start taken fuel c)
  | 0, _, _, _, _, _, hfuel => absurd hfuel (Nat.not_lt_zero _)
  | fuel + 1, start, c, lead, taken, hlead, hfuel => by
    rw [readItems]
    refine complains_here.bind ?_
    intro itemStart d hd
    obtain ⟨rfl, rfl⟩ := here_eq_ok.mp hd
    refine (complains_readName fun hb => ?_).bind ?_
    · rw [textFrom_eq hlead]
      exact .name hb
    intro name d hname
    have hnext := readName_eq_ok.mp hname
    obtain ⟨b, hb, pb, hisName, -⟩ := next_eq_ok.mp hnext
    refine complains_refuseRepeated.bind ?_
    intro _ e he
    obtain ⟨hnot, rfl⟩ := refuseRepeated_eq_ok.mp he
    have hlen := pb.length_eq
    have hpos := List.length_pos_iff.mpr hisName.1
    simp only [Token.spelling, List.length_append] at hlen
    have hnode : Complains (OpenNode (b ++ name.toList) d.rest) (readNode c fuel d) :=
      complains_readNode fuel pb (by omega)
    refine (complains_readItem (hnode.mono ?_)).bind ?_
    · intro err hopen
      rw [pb.rest_eq]
      exact .nested hb hisName (by rwa [Token.spelling, String.ofList_toList]) hopen
    intro item e hitem
    obtain ⟨s, hs, rfl, hdeep, ps⟩ :=
      spells_of_readItem hnext hitem fun _ _ _ => spells_of_readNode
    have hlen' := ps.length_eq
    refine (complains_afterItem (fun hb' => ?_) ?_).bind fun _ _ _ => trivial
    · rw [textFrom_eq hlead, ps.rest_eq]
      exact .item hs hnot hdeep hb'
    · intro f hf
      obtain ⟨b', hb', pb', -⟩ := next_eq_ok.mp hf
      have hpassed := ps.trans pb'
      have hlen'' := hpassed.length_eq
      simp only [Token.spelling, List.length_append, List.length_cons, List.length_nil] at hlen''
      have hmore : Complains (OpenItems (lead ++ (s ++ b' ++ [','])) (item.name :: taken) f.rest)
          (readItems start (item.name :: taken) fuel f) := by
        refine complains_readItems fuel ?_ (by omega)
        simpa [Token.spelling] using hlead.trans hpassed
      refine hmore.mono ?_
      intro err hopen
      rw [hpassed.rest_eq]
      simpa [Token.spelling] using OpenItems.more hs hnot hdeep hb' hopen

end

/-! ## 3. Whole queries -/

section

variable {P : QueryError → Prop} {c : Cursor}

theorem complains_skipName : Complains P (skipName c) := by
  rw [skipName]
  refine (complains_moving _).bind ?_
  intro t d _
  cases t with
  | word w => exact (complains_moving _).bind fun _ _ _ => trivial
  | _ => trivial

theorem complains_readEnding : Complains P (readEnding c) := by
  rw [readEnding]
  refine complains_here.bind ?_
  intro tail d _
  refine (complains_moving _).bind ?_
  intro t e _
  split
  · trivial
  · exact complains_throw False.elim

/-- **The texts that the reader refuses for an open bracket** stop short. -/
theorem complains_readWhole (c : Cursor) : Complains (OpenQuery c.rest) (readWhole c) := by
  rw [readWhole]
  refine complains_here.bind ?_
  intro start d hd
  obtain ⟨rfl, rfl⟩ := here_eq_ok.mp hd
  refine complains_skipName.bind ?_
  intro _ d hskip
  have hnode : Complains (OpenQuery c.rest) (readNode c (2 * c.rest.length + 2) d) := by
    rcases skipName_eq_ok.mp hskip with ⟨w, hw⟩ | ⟨rfl, -⟩
    · obtain ⟨a, ha, pa, hname, -⟩ := next_eq_ok.mp hw
      have hlen := pa.length_eq
      refine (complains_readNode _ pa (by omega)).mono ?_
      intro err hopen
      rw [pa.rest_eq]
      exact .named ha hname hopen
    · refine (complains_readNode _ (.refl c) (by omega)).mono ?_
      intro err hopen
      exact .bare hopen
  refine hnode.bind ?_
  intro q e _
  exact complains_readEnding.bind fun _ _ _ => trivial

end

theorem openQuery_of_compile {source : String} {err : QueryError}
    (h : compile source = .error err) (hunclosed : err.IsUnclosed) :
    OpenQuery source.toList err := by
  have hwhole := complains_readWhole (.start source)
  unfold compile at h
  split at h
  · cases h
  · next e d hresult =>
    cases h
    rw [hresult] at hwhole
    exact hwhole hunclosed

/-- **What is not closed is merely unfinished.**  A text that is refused for a brace or a
parenthesis that is not closed is the beginning of a query.  The part that is quoted goes from the
innermost query that is open to the end of the text: outside quoted literals it has one opening
brace more than closing ones, or one opening parenthesis and no other bracket. -/
theorem compile_unclosed (source fragment : String) :
    (compile source = .error (.unclosedBody fragment) →
      (∃ more q, compile (source ++ more) = .ok q) ∧ IsTail fragment.toList source.toList ∧
      (outsideQuotes fragment.toList).count '\x7b' =
        (outsideQuotes fragment.toList).count '\x7d' + 1) ∧
    (compile source = .error (.unclosedFilter fragment) →
      (∃ more q, compile (source ++ more) = .ok q) ∧ IsTail fragment.toList source.toList ∧
      (outsideQuotes fragment.toList).count '(' = 1 ∧
      ∀ c ∈ [')', '\x7b', '\x7d'], c ∉ outsideQuotes fragment.toList) := by
  constructor
  · intro h
    have hopen := openQuery_of_compile h trivial
    obtain ⟨htail, hbraced⟩ := hopen.leavesOpen
    have hcount := hbraced.count_eq
    exact ⟨hopen.exists_compile, htail, by omega⟩
  · intro h
    have hopen := openQuery_of_compile h trivial
    obtain ⟨htail, before, after, hbefore, hafter, heq⟩ := hopen.leavesOpen
    have hout : outsideQuotes fragment.toList =
        outsideQuotes before ++ '(' :: outsideQuotes after := by
      rw [heq, hbefore.closed]
      rfl
    refine ⟨hopen.exists_compile, htail, ?_, ?_⟩
    · rw [hout, List.count_append, List.count_cons_self, hbefore.count_eq_zero (by decide),
        hafter.count_eq_zero (by decide)]
    · intro c hc hmem
      have hother : isBracket c = true ∧ c ≠ '(' := by
        simp only [List.mem_cons, List.not_mem_nil, or_false] at hc
        rcases hc with rfl | rfl | rfl <;> decide
      rw [hout, List.mem_append, List.mem_cons] at hmem
      rcases hmem with hmem | rfl | hmem
      · exact absurd (hbefore.isBracket_eq c hmem) (by simp [hother.1])
      · exact hother.2 rfl
      · exact absurd (hafter.isBracket_eq c hmem) (by simp [hother.1])

/-- The brace is open behind the name `b`, whose query has a brace in a literal too; the parenthesis
is open in a query of its own, which is all that is quoted. -/
theorem compile_unclosed_nested :
    compile "\x7ba, b(c == \"\x7b\")\x7bd" = .error (.unclosedBody " b(c == \"\x7b\")\x7bd") ∧
    ((∃ more q, compile ("\x7ba, b(c == \"\x7b\")\x7bd" ++ more) = .ok q) ∧
      IsTail " b(c == \"\x7b\")\x7bd".toList "\x7ba, b(c == \"\x7b\")\x7bd".toList ∧
      (outsideQuotes " b(c == \"\x7b\")\x7bd".toList).count '\x7b' =
        (outsideQuotes " b(c == \"\x7b\")\x7bd".toList).count '\x7d' + 1) ∧
    compile "\x7ba, b(c > 1 &&" = .error (.unclosedFilter " b(c > 1 &&") ∧
    (∃ more q, compile ("\x7ba, b(c > 1 &&" ++ more) = .ok q) := by
  have hbody : compile "\x7ba, b(c == \"\x7b\")\x7bd" =
      .error (.unclosedBody " b(c == \"\x7b\")\x7bd") := rfl
  have hfilter : compile "\x7ba, b(c > 1 &&" = .error (.unclosedFilter " b(c > 1 &&") := rfl
  exact ⟨hbody, (compile_unclosed _ _).1 hbody, hfilter, ((compile_unclosed _ _).2 hfilter).1⟩

end JsonSieve.Query
