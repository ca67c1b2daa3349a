/-
# Reading what was written

The text of a document, with whatever white space between its signs, is read as the document again,
number by number: in the place of every number stands what is read from the text of that number
alone, and if one of them is not read, neither is the document (`read_render`).  This takes two
things that the strict grammar cannot express: that the names of an object are distinct, and that
containers nest no deeper than the reader follows them.  It takes nothing of the rounding.

What is read from the text of a number alone is the number, as far as it is written as an integer.
All other numbers are left to the rounding; it may or may not restore them (`Rounding.Restores`).
Where it does, a document in the double format reads back as itself (`readBack_of_restoredBy`).

The invariant of the induction is `ReadsBack`: a value is read from its text by twice as many steps
as the text has characters, if what follows could not be part of a number.
-/
import JsonSieve.Proofs.Json.Numeral
import JsonSieve.Proofs.Json.Quote
import JsonSieve.Proofs.Json.Tree

namespace JsonSieve

open Json.Reader

/-! ## 1. White space -/

/-- Whether a spacing puts nothing but white space between the signs of a text. -/
structure Spacing.IsBlank (sp : Spacing) : Prop where
  line : ∀ level, ∀ c ∈ sp.line level, isSpace c = true
  afterColon : ∀ c ∈ sp.afterColon, isSpace c = true

theorem Spacing.isBlank_compact : compact.IsBlank where
  line _ _ h := by cases h
  afterColon _ h := by cases h

theorem Spacing.isBlank_indented : indented.IsBlank where
  line level c h := by
    rcases List.mem_cons.mp h with rfl | h
    · rfl
    · rw [List.eq_of_mem_replicate h]
      rfl
  afterColon c h := by
    rw [List.mem_singleton.mp h]
    rfl

namespace Json.Reader

theorem dropSpace_append {ws s : List Char} (h : ∀ c ∈ ws, isSpace c = true) :
    dropSpace (ws ++ s) = dropSpace s :=
  List.dropWhile_append_of_pos h

theorem dropSpace_cons {c : Char} {s : List Char} (h : isSpace c = false) :
    dropSpace (c :: s) = c :: s := by
  rw [dropSpace, List.dropWhile_cons_of_neg (by simp [h])]

/-- White space before a value is passed over. -/
theorem readValue_append {ρ : Rounding} {ws s : List Char} (h : ∀ c ∈ ws, isSpace c = true)
    (fuel depth : Nat) : readValue ρ fuel depth (ws ++ s) = readValue ρ fuel depth s := by
  cases fuel with
  | zero => rfl
  | succ fuel => rw [readValue, readValue, dropSpace_append h]

theorem continuesNumber_of_isSpace {c : Char} (h : isSpace c = true) :
    continuesNumber c = false := by
  simp only [isSpace, Bool.or_eq_true, decide_eq_true_eq] at h
  rcases h with ((rfl | rfl) | rfl) | rfl <;> decide

theorem isSpace_of_isDigit {c : Char} (h : c.isDigit = true) : isSpace c = false := by
  cases hs : isSpace c with
  | false => rfl
  | true =>
    have := continuesNumber_of_isSpace hs
    simp [continuesNumber, h] at this

theorem endsNumber_append {ws s : List Char} (h : ∀ c ∈ ws, isSpace c = true)
    (hs : Ends continuesNumber s) : Ends continuesNumber (ws ++ s) :=
  Ends.append (fun c hc => continuesNumber_of_isSpace (h c hc)) hs

end Json.Reader

/-! ## 2. Names -/

namespace Json.Reader

theorem put_of_not_mem {ms : List (String × Json)} {m : String × Json}
    (h : m.1 ∉ ms.map Prod.fst) : put ms m = ms ++ [m] := by
  have : ¬ ms.any (fun old => old.1 == m.1) = true := by
    simpa [List.any_eq_true] using h
  rw [put, if_neg this]

theorem foldl_put_of_nodup : ∀ {acc ms : List (String × Json)},
    ((acc ++ ms).map Prod.fst).Nodup → ms.foldl put acc = acc ++ ms
  | acc, [], _ => by simp
  | acc, m :: ms, h => by
    have hm : m.1 ∉ acc.map Prod.fst := fun hmem => by
      rw [List.map_append, List.nodup_append] at h
      exact h.2.2 _ hmem m.1 (by simp) rfl
    rw [List.foldl_cons, put_of_not_mem hm, foldl_put_of_nodup (by simpa using h)]
    simp

/-- **Members with distinct names stay as they are.** -/
theorem settle_of_nodup {ms : List (String × Json)} (h : (ms.map Prod.fst).Nodup) :
    settle ms = ms :=
  foldl_put_of_nodup (by rwa [List.nil_append])

end Json.Reader

/-! ## 3. What is read back -/

/-- What the text of a number alone is read as. -/
def Number.readBack (ρ : Rounding) (n : Number) : Except ReadError Json :=
  Json.read ρ (Json.number n).compact

namespace Json

/-- What the text of a document is read as, number by number. -/
def readBack (ρ : Rounding) (v : Json) : Except ReadError Json :=
  v.mapNumbersM (Number.readBack ρ)

/-- A text from which a value is read, in as many steps as are made sure of, unless a number in it
is out of range; it does not look like the end of an array. -/
structure ReadsBack (ρ : Rounding) (depth : Nat) (s : List Char) (v : Except ReadError Json) :
    Prop where
  head : ∃ c r, s = c :: r ∧ isSpace c = false ∧ c ≠ ']'
  reads : ∀ fuel rest, 2 * s.length ≤ fuel → Ends continuesNumber rest →
    readValue ρ fuel depth (s ++ rest) = v.map fun v => (v, rest)

namespace ReadsBack

variable {ρ : Rounding} {depth : Nat} {s : List Char} {v : Except ReadError Json}

/-- A text that is read with one step more than there may be. -/
theorem of_succ {c : Char} {s : List Char} (hc : isSpace c = false) (hne : c ≠ ']')
    (h : ∀ fuel rest, 2 * s.length < fuel → Ends continuesNumber rest →
      readValue ρ (fuel + 1) depth (c :: s ++ rest) = v.map fun v => (v, rest)) :
    ReadsBack ρ depth (c :: s) v where
  head := ⟨c, s, rfl, hc, hne⟩
  reads fuel rest hf hr := by
    cases fuel with
    | zero => simp at hf
    | succ fuel => exact h fuel rest (by simp only [List.length_cons] at hf; omega) hr

/-- **A text from which a value is read is read as that value,** if it is all there is. -/
theorem read_eq (h : ReadsBack ρ maxDepth s v) : Json.read ρ (String.ofList s) = v := by
  have hread := h.reads (2 * s.length + 2) [] (by omega) (ends_nil _)
  rw [List.append_nil] at hread
  simp only [Json.read, String.toList_ofList, hread]
  cases v <;> rfl

end ReadsBack

/-! ## 4. Scalars -/

section

variable {ρ : Rounding}

theorem readsBack_null (depth : Nat) : ReadsBack ρ depth Scalar.null.jsonText (.ok null) :=
  .of_succ rfl (by decide) fun _ _ _ _ => rfl

theorem readsBack_bool (depth : Nat) :
    ∀ b, ReadsBack ρ depth (Scalar.bool b).jsonText (.ok (bool b))
  | true => .of_succ rfl (by decide) fun _ _ _ _ => rfl
  | false => .of_succ rfl (by decide) fun _ _ _ _ => rfl

theorem readValue_quote (fuel depth : Nat) (s : List Char) :
    readValue ρ (fuel + 1) depth ('"' :: s) =
      (readString s).map fun read => (.string read.1, read.2) := rfl

theorem readValue_minus (fuel depth : Nat) (s : List Char) :
    readValue ρ (fuel + 1) depth ('-' :: s) =
      (readNumber ρ true s).map fun read => (.number read.1, read.2) := rfl

theorem readsBack_string (depth : Nat) (s : String) :
    ReadsBack ρ depth (quote s) (.ok (string s)) := by
  have hquote : quote s = '"' :: (s.toList.flatMap escape ++ ['"']) := rfl
  rw [hquote]
  refine .of_succ rfl (by decide) fun fuel rest _ _ => ?_
  rw [List.cons_append, readValue_quote, List.append_assoc, List.singleton_append,
    readString_quote]
  rfl

/-- A digit is none of the signs that a value of another kind begins with. -/
theorem readValue_digit {fuel depth : Nat} {c : Char} {s : List Char} (h : c.isDigit = true) :
    readValue ρ (fuel + 1) depth (c :: s) =
      (readNumber ρ false (c :: s)).map fun read => (.number read.1, read.2) := by
  rw [readValue, dropSpace_cons (isSpace_of_isDigit h)]
  split
  · next h => cases h
  next heq =>
    obtain ⟨rfl, rfl⟩ := List.cons.inj heq
    split
    all_goals first
      | exact absurd h (by decide)
      | rw [if_pos h]

theorem readsBack_numeral {s : List Char} {n : Except ReadError Number} (h : IsNumeral ρ s n)
    (depth : Nat) : ReadsBack ρ depth s (n.map number) := by
  obtain ⟨negative, w, rfl, hw⟩ := h
  obtain ⟨c, r, rfl, hc⟩ := hw.head
  cases negative with
  | true =>
    rw [if_pos rfl, List.singleton_append]
    refine .of_succ rfl (by decide) fun fuel rest _ hr => ?_
    rw [List.cons_append, readValue_minus, hw.reads rest hr]
    cases n <;> rfl
  | false =>
    rw [if_neg (by decide), List.nil_append]
    refine .of_succ (isSpace_of_isDigit hc) ?_ fun fuel rest _ hr => ?_
    · rintro rfl
      cases hc
    · rw [List.cons_append, readValue_digit hc, ← List.cons_append, hw.reads rest hr]
      cases n <;> rfl

/-- **The text of a number is read the same way wherever it stands.** -/
theorem readsBack_number (n : Number) (depth : Nat) :
    ReadsBack ρ depth n.toScalar.jsonText (n.readBack ρ) := by
  rcases isNumeral_jsonText ρ n with ⟨m, hm⟩ | hnull
  · have hread : n.readBack ρ = m.map number := (readsBack_numeral hm maxDepth).read_eq
    rw [hread]
    exact readsBack_numeral hm depth
  · have hread : n.readBack ρ = .ok null := by
      rw [Number.readBack, compact, render, hnull]
      exact (readsBack_null maxDepth).read_eq
    rw [hread, hnull]
    exact readsBack_null depth

theorem readsBack_scalar {v : Json} (hs : v.kind.isScalar = true) (sp : Spacing)
    (level depth : Nat) : ReadsBack ρ depth (v.render sp level) (v.readBack ρ) := by
  cases v with
  | null => exact readsBack_null depth
  | bool b => exact readsBack_bool depth b
  | string s => exact readsBack_string depth s
  | number n => exact readsBack_number n depth
  | array _ | object _ => cases hs

end

/-! ## 5. Arrays -/

section

variable {ρ : Rounding} {sp : Spacing} {level depth fuel : Nat} {s t r rest : List Char}

theorem readValue_array {c : Char} (hs : dropSpace s = c :: r) (hc : c ≠ ']') :
    readValue ρ (fuel + 1) (depth + 1) ('[' :: s) =
      (readElements ρ fuel depth (c :: r)).map fun read => (.array read.1, read.2) := by
  rw [readValue, dropSpace_cons rfl]
  simp only [hs]
  split
  · next h => cases h
  · next h => exact absurd (List.cons.inj h).1 hc
  · rfl

section

variable {e : Except ReadError Json} (he : readValue ρ fuel depth s = e.map fun e => (e, t))
include he

theorem readElements_last (ht : dropSpace t = ']' :: rest) :
    readElements ρ (fuel + 1) depth s = e.map fun e => ([e], rest) := by
  rw [readElements, he]
  cases e with
  | error err => rfl
  | ok e => simp only [bind, Except.bind, Except.map, ht]

theorem readElements_more (ht : dropSpace t = ',' :: r) {u : List Char}
    (hr : afterComma ']' r = .ok u) :
    readElements ρ (fuel + 1) depth s =
      e.bind fun e => (readElements ρ fuel depth u).map fun read => (e :: read.1, read.2) := by
  rw [readElements, he]
  cases e with
  | error err => rfl
  | ok e =>
    simp only [bind, Except.bind, Except.map, ht, hr]

end

theorem afterComma_of_readsBack {ws : List Char} {v : Except ReadError Json}
    (hws : ∀ c ∈ ws, isSpace c = true) (h : ReadsBack ρ depth s v) :
    afterComma ']' (ws ++ (s ++ rest)) = .ok (s ++ rest) := by
  obtain ⟨c, r, rfl, hc, hne⟩ := h.head
  rw [afterComma, dropSpace_append hws, List.cons_append, dropSpace_cons hc]
  exact if_neg hne

theorem endsNumber_renderElements (hsp : sp.IsBlank) (es : List Json) :
    Ends continuesNumber (renderElements sp level es ++ rest) := by
  cases es with
  | nil =>
    rw [renderElements, List.append_assoc]
    exact endsNumber_append (hsp.line level) (ends_cons.mpr rfl)
  | cons e es =>
    rw [renderElements, List.append_assoc, List.append_assoc, List.cons_append]
    exact ends_cons.mpr rfl

/-- **The elements of an array** are read back one after the other. -/
theorem readElements_render (hsp : sp.IsBlank) : ∀ {es : List Json} {e : Json} {fuel : Nat},
    ReadsBack ρ depth (e.render sp (level + 1)) (e.readBack ρ) →
    (∀ w ∈ es, ReadsBack ρ depth (w.render sp (level + 1)) (w.readBack ρ)) →
    2 * (e.render sp (level + 1) ++ renderElements sp level es).length < fuel →
    readElements ρ fuel depth (e.render sp (level + 1) ++ (renderElements sp level es ++ rest)) =
      ((e :: es).mapM (readBack ρ)).map fun es => (es, rest)
  | _, _, 0, _, _, hf => absurd hf (Nat.not_lt_zero _)
  | [], e, fuel + 1, he, _, hf => by
    rw [List.length_append] at hf
    have hlast := readElements_last
      (he.reads fuel (renderElements sp level [] ++ rest) (by omega)
        (endsNumber_renderElements hsp []))
      (by rw [renderElements, List.append_assoc, dropSpace_append (hsp.line level)]; rfl)
    rw [hlast, List.mapM_cons]
    cases e.readBack ρ <;> rfl
  | w :: es, e, fuel + 1, he, hes, hf => by
    have hw := hes w List.mem_cons_self
    have hlen : (renderElements sp level (w :: es)).length = 1 + (sp.line (level + 1)).length +
        (w.render sp (level + 1) ++ renderElements sp level es).length := by
      simp only [renderElements, List.length_append, List.length_cons]
      omega
    have hcomma : renderElements sp level (w :: es) ++ rest = ',' :: (sp.line (level + 1) ++
        (w.render sp (level + 1) ++ (renderElements sp level es ++ rest))) := by
      simp [renderElements]
    rw [List.length_append] at hf
    rw [readElements_more
      (he.reads fuel _ (by omega) (endsNumber_renderElements hsp (w :: es)))
      (by rw [hcomma]; exact dropSpace_cons rfl)
      (afterComma_of_readsBack (hsp.line _) hw),
      readElements_render hsp hw (fun x hx => hes x (List.mem_cons_of_mem _ hx)) (by omega),
      List.mapM_cons (a := e)]
    cases e.readBack ρ with
    | error err => rfl
    | ok e => cases (w :: es).mapM (readBack ρ) <;> rfl

theorem readsBack_array (hsp : sp.IsBlank) {es : List Json}
    (hes : ∀ e ∈ es, ReadsBack ρ depth (e.render sp (level + 1)) (e.readBack ρ)) :
    ReadsBack ρ (depth + 1) ((array es).render sp level) ((array es).readBack ρ) := by
  rw [readBack, mapNumbersM_array]
  cases es with
  | nil => exact .of_succ rfl (by decide) fun _ _ _ _ => rfl
  | cons e es =>
    have he := hes e List.mem_cons_self
    rw [render, List.append_assoc, List.cons_append]
    refine .of_succ rfl (by decide) fun fuel rest hf _ => ?_
    obtain ⟨c, r, hhead, hc, hne⟩ := he.head
    rw [List.cons_append, List.append_assoc, List.append_assoc]
    have hdrop : dropSpace (sp.line (level + 1) ++ (e.render sp (level + 1) ++
        (renderElements sp level es ++ rest))) =
        c :: (r ++ (renderElements sp level es ++ rest)) := by
      rw [dropSpace_append (hsp.line _), hhead]
      exact dropSpace_cons hc
    have hread : readElements ρ fuel depth
        (e.render sp (level + 1) ++ (renderElements sp level es ++ rest)) =
        ((e :: es).mapM (readBack ρ)).map fun es => (es, rest) :=
      readElements_render hsp he (fun w hw => hes w (List.mem_cons_of_mem _ hw))
        (by rw [List.length_append] at hf; omega)
    rw [hhead, List.cons_append] at hread
    rw [readValue_array hdrop hne, hread]
    show _ = (((e :: es).mapM (readBack ρ)).map array).map _
    cases (e :: es).mapM (readBack ρ) <;> rfl

/-! ## 6. Objects -/

theorem readValue_object (hs : dropSpace s = '"' :: r) :
    readValue ρ (fuel + 1) (depth + 1) ('{' :: s) =
      (readMembers ρ fuel depth ('"' :: r)).map fun read => (.object (settle read.1), read.2) := by
  rw [readValue, dropSpace_cons rfl]
  simp only [hs]
  rfl

theorem expect_quote (k : String) (s : List Char) :
    expect ['"'] (quote k ++ s) = .ok (k.toList.flatMap escape ++ '"' :: s) := by
  simp [quote, expect]

theorem expect_colon (s : List Char) : expect [':'] (dropSpace (':' :: s)) = .ok s := by
  rw [dropSpace_cons rfl]
  rfl

section

variable {k : String} {v : Except ReadError Json}
variable (hv : readValue ρ fuel depth s = v.map fun v => (v, t))
include hv

theorem readMembers_last (ht : dropSpace t = '}' :: rest) :
    readMembers ρ (fuel + 1) depth (quote k ++ ':' :: s) = v.map fun v => ([(k, v)], rest) := by
  rw [readMembers]
  simp only [bind, Except.bind, expect_quote, readString_quote, expect_colon, hv]
  cases v with
  | error err => rfl
  | ok v => simp only [Except.map, ht]

theorem readMembers_more (ht : dropSpace t = ',' :: r) {u : List Char}
    (hr : afterComma '}' r = .ok u) :
    readMembers ρ (fuel + 1) depth (quote k ++ ':' :: s) =
      v.bind fun v => (readMembers ρ fuel depth u).map fun read => ((k, v) :: read.1, read.2) := by
  rw [readMembers]
  simp only [bind, Except.bind, expect_quote, readString_quote, expect_colon, hv]
  cases v with
  | error err => rfl
  | ok v =>
    simp only [Except.map, ht, hr]

end

theorem endsNumber_renderMembers (hsp : sp.IsBlank) (ms : List (String × Json)) :
    Ends continuesNumber (renderMembers sp level ms ++ rest) := by
  cases ms with
  | nil =>
    rw [renderMembers, List.append_assoc]
    exact endsNumber_append (hsp.line level) (ends_cons.mpr rfl)
  | cons m ms =>
    rw [renderMembers]
    simp only [List.append_assoc, List.cons_append]
    exact ends_cons.mpr rfl

/-- The text of a member, without the comma before it. -/
def memberText (sp : Spacing) (level : Nat) (m : String × Json) : List Char :=
  quote m.1 ++ ':' :: (sp.afterColon ++ m.2.render sp (level + 1))

/-- A member with what its value is read as. -/
def readBackMember (ρ : Rounding) (m : String × Json) : Except ReadError (String × Json) :=
  (m.2.readBack ρ).map (Prod.mk m.1)

/-- **The members of an object** are read back one after the other. -/
theorem readMembers_render (hsp : sp.IsBlank) : ∀ {ms : List (String × Json)} {m : String × Json}
    {fuel : Nat}, ReadsBack ρ depth (m.2.render sp (level + 1)) (m.2.readBack ρ) →
    (∀ l ∈ ms, ReadsBack ρ depth (l.2.render sp (level + 1)) (l.2.readBack ρ)) →
    2 * (memberText sp level m ++ renderMembers sp level ms).length < fuel →
    readMembers ρ fuel depth (memberText sp level m ++ (renderMembers sp level ms ++ rest)) =
      ((m :: ms).mapM (readBackMember ρ)).map fun ms => (ms, rest)
  | _, _, 0, _, _, hf => absurd hf (Nat.not_lt_zero _)
  | [], m, fuel + 1, hm, _, hf => by
    simp only [memberText, List.length_append, List.length_cons] at hf
    have hv := hm.reads fuel (renderMembers sp level [] ++ rest) (by omega)
      (endsNumber_renderMembers hsp [])
    rw [← readValue_append hsp.afterColon] at hv
    have hlast := readMembers_last (k := m.1) hv
      (by rw [renderMembers, List.append_assoc, dropSpace_append (hsp.line level)]; rfl)
    simp only [memberText, List.append_assoc, List.cons_append]
    rw [hlast, List.mapM_cons, readBackMember]
    cases m.2.readBack ρ <;> rfl
  | l :: ms, m, fuel + 1, hm, hms, hf => by
    have hlen : (renderMembers sp level (l :: ms)).length = 1 + (sp.line (level + 1)).length +
        (memberText sp level l ++ renderMembers sp level ms).length := by
      simp only [renderMembers, memberText, List.length_append, List.length_cons]
      omega
    have hcomma : renderMembers sp level (l :: ms) ++ rest = ',' :: (sp.line (level + 1) ++
        (memberText sp level l ++ (renderMembers sp level ms ++ rest))) := by
      simp [renderMembers, memberText]
    have hafter : afterComma '}' (sp.line (level + 1) ++
        (memberText sp level l ++ (renderMembers sp level ms ++ rest))) =
        .ok (memberText sp level l ++ (renderMembers sp level ms ++ rest)) := by
      rw [afterComma, dropSpace_append (hsp.line _)]
      rfl
    rw [List.length_append] at hf
    have hv := hm.reads fuel (renderMembers sp level (l :: ms) ++ rest)
      (by simp only [memberText, List.length_append, List.length_cons] at hf; omega)
      (endsNumber_renderMembers hsp (l :: ms))
    rw [← readValue_append hsp.afterColon] at hv
    have hmore := readMembers_more (k := m.1) hv (by rw [hcomma]; exact dropSpace_cons rfl) hafter
    rw [readMembers_render hsp (hms l List.mem_cons_self)
      (fun x hx => hms x (List.mem_cons_of_mem _ hx)) (by omega)] at hmore
    rw [memberText, List.append_assoc, List.cons_append, List.append_assoc, hmore,
      List.mapM_cons (a := m), readBackMember]
    cases m.2.readBack ρ with
    | error err => rfl
    | ok v => cases (l :: ms).mapM (readBackMember ρ) <;> rfl

/-- What is read back has the names that were written. -/
theorem names_of_mapM_readBackMember {ms ls : List (String × Json)}
    (h : ms.mapM (readBackMember ρ) = .ok ls) : ls.map Prod.fst = ms.map Prod.fst := by
  have hls := mapM_eq_ok_iff.mp h
  clear h
  induction hls with
  | nil => rfl
  | cons hm _ ih =>
    obtain ⟨w, -, rfl⟩ := ok_map_iff.mp hm
    rw [List.map_cons, List.map_cons, ih]

theorem readsBack_object (hsp : sp.IsBlank) {ms : List (String × Json)}
    (hnames : (ms.map Prod.fst).Nodup)
    (hms : ∀ m ∈ ms, ReadsBack ρ depth (m.2.render sp (level + 1)) (m.2.readBack ρ)) :
    ReadsBack ρ (depth + 1) ((object ms).render sp level) ((object ms).readBack ρ) := by
  have hback : (object ms).readBack ρ = (ms.mapM (readBackMember ρ)).map object :=
    mapNumbersM_object ms
  rw [hback]
  cases ms with
  | nil => exact .of_succ rfl (by decide) fun _ _ _ _ => rfl
  | cons m ms =>
    have hm := hms m List.mem_cons_self
    have htext : (object (m :: ms)).render sp level =
        '{' :: (sp.line (level + 1) ++ (memberText sp level m ++ renderMembers sp level ms)) := by
      simp [render, memberText]
    rw [htext]
    refine .of_succ rfl (by decide) fun fuel rest hf _ => ?_
    rw [List.cons_append, List.append_assoc, List.append_assoc]
    have hread : readMembers ρ fuel depth
        (memberText sp level m ++ (renderMembers sp level ms ++ rest)) =
        ((m :: ms).mapM (readBackMember ρ)).map fun ms => (ms, rest) :=
      readMembers_render hsp hm (fun l hl => hms l (List.mem_cons_of_mem _ hl))
        (by rw [List.length_append] at hf; omega)
    rw [readValue_object (dropSpace_append (hsp.line _))]
    refine (congrArg _ hread).trans ?_
    cases hls : (m :: ms).mapM (readBackMember ρ) with
    | error err => rfl
    | ok ls =>
      have hsettle : settle ls = ls :=
        settle_of_nodup (by rw [names_of_mapM_readBackMember hls]; exact hnames)
      simp only [Except.map, hsettle]

end

/-! ## 7. Documents -/

section

variable {ρ : Rounding} {sp : Spacing} (hsp : sp.IsBlank) {P : Number → Prop} {v : Json}
include hsp

/-- **A document is read back from its text,** wherever the text stands. -/
theorem readsBack_render {depth : Nat} (h : v.IsDocument P depth) :
    ∀ level : Nat, ReadsBack ρ depth (v.render sp level) (v.readBack ρ) := by
  induction h with
  | scalar hv _ => exact fun level => readsBack_scalar hv sp level _
  | array _ ih => exact fun level => readsBack_array hsp fun e he => ih e he (level + 1)
  | object hnames _ ih =>
    exact fun level => readsBack_object hsp hnames fun m hm => ih m hm (level + 1)

/-- **Reading goes number by number,** in every spacing: all of a document is read back but for its
numbers, and those as each is read by itself. -/
theorem read_render (h : v.IsDocument P maxDepth) :
    Json.read ρ (String.ofList (v.render sp 0)) = v.readBack ρ :=
  (readsBack_render hsp h 0).read_eq

/-- **A document is read from its text** if the texts of its numbers are read. -/
theorem exists_read_render (h : v.IsDocument P maxDepth)
    (hnumbers : ∀ n ∈ v.numbers, ∃ u, n.readBack ρ = .ok u) :
    ∃ w, Json.read ρ (String.ofList (v.render sp 0)) = .ok w := by
  rw [read_render hsp h]
  refine ⟨v.mapNumbers (madeOf (Number.readBack ρ)), mapNumbersM_eq_ok fun n hn => ?_⟩
  obtain ⟨u, hu⟩ := hnumbers n hn
  rw [madeOf_eq hu, hu]

end

end Json

end JsonSieve
