/-
# White space outside of strings

What is left of a JSON text when the blanks outside of its strings are deleted (`unspaced`), and
that it is the text in one line, whatever spacing a document was written in (`unspaced_render`).

Where a string begins and ends is seen from the text alone, character by character (`Zone`), so the
deletion knows nothing of documents.  The parts of a text are joined by `Strips`: a part begins and
ends in the same zone, and what is left of it is known.  Inside a string everything stays; outside
of strings a number stays, and what stands between the signs of a container goes.
-/
import JsonSieve.Proofs.Evaluate.Keep
import JsonSieve.Proofs.Json.RoundTrip

namespace JsonSieve

/-! ## 1. Deleting blanks -/

/-- Where a character of a JSON text stands: outside of strings, inside one, or inside one behind a
backslash. -/
inductive Zone where
  | outside
  | inside
  | escaped
deriving DecidableEq

/-- Where the next character stands. -/
def Zone.next (z : Zone) (c : Char) : Zone :=
  match z with
  | outside => if c = '"' then inside else outside
  | inside => if c = '"' then outside else if c = '\\' then escaped else inside
  | escaped => inside

/-- The text without the blanks outside of strings, if it begins in some zone. -/
def unspacedFrom : Zone → List Char → List Char
  | _, [] => []
  | z, c :: s =>
    if z = .outside ∧ Text.isBlank c = true then unspacedFrom z s
    else c :: unspacedFrom (z.next c) s

/-- A JSON text without the blanks outside of strings. -/
def unspaced (s : List Char) : List Char := unspacedFrom .outside s

theorem Zone.next_outside_of_isBlank {c : Char} (h : Text.isBlank c = true) :
    outside.next c = outside := by
  refine if_neg ?_
  rintro rfl
  exact absurd h (by decide)

theorem unspacedFrom_append : ∀ (s t : List Char) (z : Zone),
    unspacedFrom z (s ++ t) = unspacedFrom z s ++ unspacedFrom (s.foldl Zone.next z) t
  | [], _, _ => rfl
  | c :: s, t, z => by
    rw [List.cons_append, unspacedFrom, unspacedFrom, List.foldl_cons]
    split
    · next h =>
      rw [unspacedFrom_append s t, h.1, Zone.next_outside_of_isBlank h.2]
    · rw [unspacedFrom_append s t, List.cons_append]

/-! ## 2. Parts of a text -/

/-- A part of a text that begins and ends in the same zone, and what is left of it. -/
structure Strips (z : Zone) (s t : List Char) : Prop where
  ends : s.foldl Zone.next z = z
  left : unspacedFrom z s = t

/-- A character that is neither a blank nor a quote. -/
def isPlain (c : Char) : Bool := !Text.isBlank c && c != '"'

/-- A text without blanks and quotes. -/
def IsPlainText (s : List Char) : Prop := ∀ c ∈ s, isPlain c = true

instance (s : List Char) : Decidable (IsPlainText s) :=
  decidable_of_iff (s.all isPlain = true) List.all_eq_true

section

variable {z : Zone} {s t s' t' : List Char}

theorem Strips.nil (z : Zone) : Strips z [] [] := ⟨rfl, rfl⟩

theorem Strips.append (h : Strips z s t) (h' : Strips z s' t') :
    Strips z (s ++ s') (t ++ t') where
  ends := by rw [List.foldl_append, h.ends, h'.ends]
  left := by rw [unspacedFrom_append, h.ends, h.left, h'.left]

/-- Blanks go. -/
theorem strips_blanks : ∀ {s : List Char}, (∀ c ∈ s, Text.isBlank c = true) →
    Strips .outside s []
  | [], _ => .nil _
  | c :: s, h => by
    have hc := h c List.mem_cons_self
    have hs := strips_blanks fun d hd => h d (List.mem_cons_of_mem _ hd)
    have hone : Strips .outside [c] [] :=
      ⟨Zone.next_outside_of_isBlank hc, by rw [unspacedFrom, if_pos ⟨rfl, hc⟩, unspacedFrom]⟩
    exact hone.append hs

/-- Plain characters stay. -/
theorem strips_plain : ∀ {s : List Char}, IsPlainText s → Strips .outside s s
  | [], _ => .nil _
  | c :: s, h => by
    have hc := h c List.mem_cons_self
    simp only [isPlain, Bool.and_eq_true, Bool.not_eq_true', bne_iff_ne] at hc
    have hs := strips_plain fun d hd => h d (List.mem_cons_of_mem _ hd)
    have hone : Strips .outside [c] [c] :=
      ⟨if_neg hc.2, by rw [unspacedFrom, if_neg (by simp [hc.1]), unspacedFrom]⟩
    exact hone.append hs

end

/-! ## 3. Strings -/

theorem digitChar_ne : ∀ d < 16, Nat.digitChar d ≠ '"' ∧ Nat.digitChar d ≠ '\\' := by decide

/-- What stands for a character stays, and leaves the string open. -/
theorem strips_escape (c : Char) : Strips .inside (escape c) (escape c) := by
  have hpair : ∀ d, Strips .inside ['\\', d] ['\\', d] := fun d => ⟨rfl, rfl⟩
  have hone : ∀ {d : Char}, d ≠ '"' → d ≠ '\\' → Strips .inside [d] [d] := fun hq hb =>
    ⟨by simp [Zone.next, hq, hb], rfl⟩
  unfold escape
  split
  · exact hpair _
  split
  · exact hpair _
  split
  · exact hpair _
  split
  · exact hpair _
  split
  · exact hpair _
  next hq hb _ _ _ =>
  split
  · next hc =>
    have hlt : c.toNat < 256 := by
      simp only [isControl, Bool.or_eq_true, Bool.and_eq_true, decide_eq_true_eq] at hc
      omega
    have hhigh := digitChar_ne (c.toNat / 16) (by omega)
    have hlow := digitChar_ne (c.toNat % 16) (by omega)
    have hzero : Strips .inside ['0'] ['0'] := hone (by decide) (by decide)
    exact (hpair 'u').append (hzero.append (hzero.append
      ((hone hhigh.1 hhigh.2).append (hone hlow.1 hlow.2))))
  · exact hone hq hb

theorem strips_escapes : ∀ cs : List Char,
    Strips .inside (cs.flatMap escape) (cs.flatMap escape)
  | [] => .nil _
  | c :: cs => by
    rw [List.flatMap_cons]
    exact (strips_escape c).append (strips_escapes cs)

/-- **A string stays as it is,** also the blanks in it. -/
theorem strips_quote (s : String) : Strips .outside (quote s) (quote s) := by
  have h := strips_escapes s.toList
  constructor
  · rw [quote, List.cons_append, List.foldl_cons, List.foldl_append]
    show Zone.next (List.foldl Zone.next .inside _) '"' = _
    rw [h.ends]
    rfl
  · rw [quote, List.cons_append, unspacedFrom, if_neg (by decide)]
    show _ :: unspacedFrom .inside _ = _
    rw [unspacedFrom_append, h.ends, h.left]
    rfl

/-! ## 4. Numbers -/

section

variable {s t : List Char}

theorem IsPlainText.append (hs : IsPlainText s) (ht : IsPlainText t) : IsPlainText (s ++ t) :=
  fun c hc => (List.mem_append.mp hc).elim (hs c) (ht c)

theorem IsPlainText.cons {c : Char} (hc : isPlain c = true) (hs : IsPlainText s) :
    IsPlainText (c :: s) :=
  List.forall_mem_cons.mpr ⟨hc, hs⟩

theorem IsPlainText.of_sublist (h : s.Sublist t) (ht : IsPlainText t) : IsPlainText s :=
  fun c hc => ht c (h.subset hc)

end

theorem isPlain_of_isDigit {c : Char} (h : c.isDigit = true) : isPlain c = true := by
  have hc : 48 ≤ c.toNat ∧ c.toNat ≤ 57 := by
    simp only [Char.isDigit, Bool.and_eq_true, decide_eq_true_eq] at h
    exact h
  have hblank : Text.isBlank c = false := by
    simp [Text.isBlank, Text.blankRuns]
    omega
  have hquote : c ≠ '"' := by
    rintro rfl
    exact absurd h (by decide)
  simp [isPlain, hblank, hquote]

namespace Layout

theorem isPlainText_digits (n : Nat) : IsPlainText (digits n) :=
  fun _ hc => isPlain_of_isDigit (isDigit_of_mem_digits hc)

theorem isPlainText_zeros (k : Nat) : IsPlainText (List.replicate k '0') :=
  fun _ hc => isPlain_of_isDigit (isDigit_of_mem_zeros hc)

theorem isPlainText_integer (n : Int) : IsPlainText (integer n) := by
  unfold integer
  split
  · exact .cons (by decide) (isPlainText_digits _)
  · exact isPlainText_digits _

theorem isPlainText_spread {wholeEnd ds : List Char} (hend : IsPlainText wholeEnd)
    (hds : IsPlainText ds) (order : Int) : IsPlainText (spread wholeEnd ds order) := by
  unfold spread
  split
  · exact .cons (by decide) (.cons (by decide) ((isPlainText_zeros _).append hds))
  split
  · exact (hds.append (isPlainText_zeros _)).append hend
  · exact (hds.of_sublist (List.take_sublist _ _)).append
      (.cons (by decide) (hds.of_sublist (List.drop_sublist _ _)))

theorem isPlainText_scientific {ds : List Char} (hds : IsPlainText ds) (order : Int) :
    IsPlainText (scientific ds order) := by
  have hfraction : IsPlainText (if ds.length ≤ 1 then [] else '.' :: ds.drop 1) := by
    split
    · exact List.forall_mem_nil _
    · exact .cons (by decide) (hds.of_sublist (List.drop_sublist _ _))
  exact ((hds.of_sublist (List.take_sublist _ _)).append hfraction).append
    (.cons (by decide) (isPlainText_integer _))

theorem isPlainText_decimal {layout : Layout} (hend : IsPlainText layout.wholeEnd) (d : Decimal) :
    IsPlainText (layout.decimal d) := by
  unfold decimal
  split
  · exact .cons (by decide) hend
  split
  · exact isPlainText_spread hend (isPlainText_digits _) _
  · exact isPlainText_scientific (isPlainText_digits _) _

end Layout

/-- The text of a number in the double format is plain. -/
theorem Binary64.isPlainText_jsonText (x : Binary64) : IsPlainText x.jsonText := by
  have hnull : IsPlainText ['n', 'u', 'l', 'l'] := by decide
  cases x with
  | nan | infinite negative => exact hnull
  | finite negative m =>
    have hfinite : (finite negative m).isFinite = true := rfl
    rw [jsonText, if_pos hfinite]
    cases smallWhole? (.finite negative m) with
    | some n => exact Layout.isPlainText_integer n
    | none =>
      have hsign : IsPlainText (if negative then ['-'] else []) := by cases negative <;> decide
      exact hsign.append (Layout.isPlainText_decimal (by decide) _)

/-- **A scalar stays as it is written.** -/
theorem strips_jsonText (s : Scalar) : Strips .outside s.jsonText s.jsonText := by
  cases s with
  | null => exact strips_plain (by decide)
  | bool b => cases b <;> exact strips_plain (by decide)
  | integer n => exact strips_plain (Layout.isPlainText_integer n)
  | real x => exact strips_plain x.isPlainText_jsonText
  | text s => exact strips_quote s

/-! ## 5. Documents -/

namespace Json

variable {sp : Spacing}

theorem isBlank_of_isSpace {c : Char} (h : Reader.isSpace c = true) : Text.isBlank c = true := by
  simp only [Reader.isSpace, Bool.or_eq_true, decide_eq_true_eq] at h
  rcases h with ((rfl | rfl) | rfl) | rfl <;> decide

/-- The white space of a line goes. -/
theorem strips_line (hsp : sp.IsBlank) (level : Nat) : Strips .outside (sp.line level) [] :=
  strips_blanks fun c hc => isBlank_of_isSpace (hsp.line level c hc)

/-- A sign stays. -/
theorem strips_sign {c : Char} (hc : isPlain c = true) : Strips .outside [c] [c] :=
  strips_plain (List.forall_mem_singleton.mpr hc)

/-- What is left of the elements after the first, if it is known of each of them. -/
theorem strips_renderElements (hsp : sp.IsBlank) {level : Nat} : ∀ {es : List Json},
    (∀ e ∈ es, Strips .outside (e.render sp (level + 1)) (e.render .compact 0)) →
    Strips .outside (renderElements sp level es) (elementsText false es ++ [']'])
  | [], _ => by
    rw [renderElements]
    exact (strips_line hsp level).append (strips_sign (by decide))
  | e :: es, h => by
    have he := h e List.mem_cons_self
    have hes := strips_renderElements hsp fun d hd => h d (List.mem_cons_of_mem _ hd)
    have hcomma := (strips_sign (c := ',') (by decide)).append (strips_line hsp (level + 1))
    simpa [renderElements, elementsText, comma] using (hcomma.append he).append hes

/-- What is left of the name of a member and what stands before its value. -/
theorem strips_name (hsp : sp.IsBlank) (k : String) :
    Strips .outside (quote k ++ ':' :: sp.afterColon) (memberName k) := by
  have hcolon := (strips_sign (c := ':') (by decide)).append
    (strips_blanks fun c hc => isBlank_of_isSpace (hsp.afterColon c hc))
  simpa [memberName] using (strips_quote k).append hcolon

theorem strips_renderMembers (hsp : sp.IsBlank) {level : Nat} : ∀ {ms : List (String × Json)},
    (∀ m ∈ ms, Strips .outside (m.2.render sp (level + 1)) (m.2.render .compact 0)) →
    Strips .outside (renderMembers sp level ms) (membersText false ms ++ ['\x7d'])
  | [], _ => by
    rw [renderMembers]
    exact (strips_line hsp level).append (strips_sign (by decide))
  | (k, v) :: ms, h => by
    have hv := h (k, v) List.mem_cons_self
    have hms := strips_renderMembers hsp fun l hl => h l (List.mem_cons_of_mem _ hl)
    have hcomma := (strips_sign (c := ',') (by decide)).append (strips_line hsp (level + 1))
    simpa [renderMembers, membersText, comma] using
      ((hcomma.append (strips_name hsp k)).append hv).append hms

/-- **The white space of a spacing goes,** and nothing else. -/
theorem strips_render (hsp : sp.IsBlank) (v : Json) : ∀ level,
    Strips .outside (v.render sp level) (v.render .compact 0) := by
  induction v with
  | scalar v hv =>
    intro level
    obtain ⟨s, hs⟩ := Option.isSome_iff_exists.mp (v.isSome_scalar?.trans hv)
    rw [render_of_scalar? hs, render_of_scalar? hs]
    exact strips_jsonText s
  | array es ih =>
    intro level
    cases es with
    | nil => exact (strips_sign (c := '[') (by decide)).append (strips_sign (by decide))
    | cons e es =>
      have he := ih e List.mem_cons_self (level + 1)
      have hes := strips_renderElements hsp fun d hd => ih d (List.mem_cons_of_mem _ hd) (level + 1)
      have hopen := (strips_sign (c := '[') (by decide)).append (strips_line hsp (level + 1))
      rw [render_array]
      simpa [render, elementsText, comma] using (hopen.append he).append hes
  | object ms ih =>
    intro level
    cases ms with
    | nil => exact (strips_sign (c := '\x7b') (by decide)).append (strips_sign (by decide))
    | cons m ms =>
      obtain ⟨k, v⟩ := m
      have hv := ih (k, v) List.mem_cons_self (level + 1)
      have hms := strips_renderMembers hsp fun l hl => ih l (List.mem_cons_of_mem _ hl) (level + 1)
      have hopen := (strips_sign (c := '\x7b') (by decide)).append (strips_line hsp (level + 1))
      rw [render_object]
      simpa [render, membersText, comma] using
        ((hopen.append (strips_name hsp k)).append hv).append hms

/-- **Without the blanks outside of strings** the text of a document is its text in one line,
whatever spacing it was written in. -/
theorem unspaced_render (hsp : sp.IsBlank) (v : Json) (level : Nat) :
    unspaced (v.render sp level) = v.render .compact 0 :=
  (strips_render hsp v level).left

end Json
end JsonSieve
