/-
# The lower case of a part of a text

A text is lowered character by character but for the capital sigma, whose form depends on what
stands around it: on the nearest characters on either side that are not passed over (`nearest?`).
So a part of a text is lowered as it is by itself, unless one of its sigmas looks past an end of the
part.  Where both neighbours are inside, or one of them is and decides alone, the form is settled
(`isSettled`).

A text whose sigmas are all settled stands in every text around it also after both are lowered.  If
one is not, a single letter before the text or behind it changes the form.  Such a letter changes
all sigmas in one direction, if at all, so one form stands less often in the longer text than in the
shorter one, which therefore is not part of it (`occursIn_lowercase_iff`).
-/
import JsonSieve.Text.Character
import JsonSieve.Text.Basic

namespace JsonSieve.Text

open Unicode

/-! ## 1. What a sigma depends on -/

/-- The nearest character of the text ahead that is not passed over. -/
def nearest? (s : List Char) : Option Char := s.find? fun c => !isPassedOver c

/-- Whether a sigma ends a word between these texts, the one behind it read backwards. -/
def endsWord (behind ahead : List Char) : Bool := nextIsCased behind && !nextIsCased ahead

/-- The form of a sigma that ends a word, and of one that does not. -/
def sigmaForm (final : Bool) : Char := if final then 'ς' else 'σ'

/-- Whether the form of a sigma is the same between all longer texts: both neighbours are there, or
one that decides alone. -/
def isSettled (behind ahead : List Char) : Bool :=
  match nearest? behind, nearest? ahead with
  | some _, some _ => true
  | some b, none => !isCased b
  | none, some a => isCased a
  | none, none => false

theorem nextIsCased_eq : ∀ s : List Char, nextIsCased s = (nearest? s).any isCased
  | [] => rfl
  | c :: s => by
    have ih := nextIsCased_eq s
    rw [nextIsCased, nearest?] at *
    cases hc : isPassedOver c with
    | true => simpa [hc] using ih
    | false => simp [hc]

theorem nearest?_append (s t : List Char) :
    nearest? (s ++ t) = (nearest? s).or (nearest? t) := by
  rw [nearest?, nearest?, nearest?, List.find?_append]

/-- **A settled sigma keeps its form** in every longer text. -/
theorem endsWord_append {behind ahead : List Char} (h : isSettled behind ahead = true)
    (before after : List Char) :
    endsWord (behind ++ before) (ahead ++ after) = endsWord behind ahead := by
  rw [isSettled] at h
  simp only [endsWord, nextIsCased_eq, nearest?_append]
  cases hb : nearest? behind with
  | none =>
    cases ha : nearest? ahead with
    | none => rw [hb, ha] at h; cases h
    | some a =>
      rw [hb, ha] at h
      simp [h]
  | some b =>
    cases ha : nearest? ahead with
    | none =>
      rw [hb, ha] at h
      simp [Bool.not_eq_true' _ |>.mp h]
    | some a => rfl

/-- A letter at the end of a text is what is nearest, if nothing else is. -/
theorem nextIsCased_append_letter (s : List Char) :
    nextIsCased (s ++ ['a']) = (nearest? s).all isCased := by
  have hletter : nearest? ['a'] = some 'a' := by decide +kernel
  have hcased : isCased 'a' = true := by decide +kernel
  rw [nextIsCased_eq, nearest?_append, hletter]
  cases nearest? s with
  | none => exact hcased
  | some c => rfl

theorem nextIsCased_append_letter_of (s : List Char) (h : nextIsCased s = true) :
    nextIsCased (s ++ ['a']) = true := by
  rw [nextIsCased_eq] at h
  rw [nextIsCased_append_letter]
  cases hs : nearest? s with
  | none => rfl
  | some c => rwa [hs] at h

/-- Behind a letter no more sigmas go on with a word. -/
theorem endsWord_eq_false_of_letter {b a : List Char} (h : endsWord (b ++ ['a']) a = false) :
    endsWord b a = false := by
  rw [endsWord, Bool.and_eq_false_iff] at h ⊢
  refine h.imp_left fun hb => ?_
  rw [← Bool.not_eq_true] at hb ⊢
  exact fun hcased => hb (nextIsCased_append_letter_of b hcased)

/-- Before a letter no more sigmas end a word. -/
theorem endsWord_of_letter {b a : List Char} (h : endsWord b (a ++ ['a']) = true) :
    endsWord b a = true := by
  rw [endsWord, Bool.and_eq_true, Bool.not_eq_true'] at h ⊢
  refine h.imp_right fun ha => ?_
  rw [← Bool.not_eq_true] at ha ⊢
  exact fun hcased => ha (nextIsCased_append_letter_of a hcased)

/-- **A sigma that is not settled** takes its other form if a letter stands before the text or
behind it. -/
theorem endsWord_of_not_settled {behind ahead : List Char} (h : isSettled behind ahead = false) :
    (endsWord behind ahead = false ∧ endsWord (behind ++ ['a']) ahead = true) ∨
      (endsWord behind ahead = true ∧ endsWord behind (ahead ++ ['a']) = false) := by
  rw [isSettled] at h
  simp only [endsWord, nextIsCased_append_letter]
  rw [nextIsCased_eq, nextIsCased_eq]
  cases hb : nearest? behind with
  | none =>
    refine .inl ⟨rfl, ?_⟩
    cases ha : nearest? ahead with
    | none => rfl
    | some a =>
      rw [hb, ha] at h
      simp [h]
  | some b =>
    cases ha : nearest? ahead with
    | none =>
      rw [hb, ha] at h
      exact .inr ⟨by simpa using h, by simp⟩
    | some a => rw [hb, ha] at h; cases h

/-! ## 2. Lowering by a rule -/

/-- The lower-case form of the text ahead, if this rule says which sigmas end a word. -/
def lowerBy (final : List Char → List Char → Bool) (behind : List Char) : List Char → List Char
  | [] => []
  | c :: s =>
    (if c = capitalSigma then [sigmaForm (final behind s)] else lowerChar c) ++
      lowerBy final (c :: behind) s

section

variable {f g : List Char → List Char → Bool}

theorem lowerFrom_eq_lowerBy : ∀ behind s : List Char,
    lowerFrom behind s = lowerBy endsWord behind s
  | _, [] => rfl
  | behind, c :: s => by
    rw [lowerFrom, lowerBy, lowerFrom_eq_lowerBy (c :: behind) s]
    rfl

/-- A text in front of another one is lowered in view of it. -/
theorem lowerBy_append : ∀ behind s ahead : List Char, lowerBy f behind (s ++ ahead) =
    lowerBy (fun b a => f b (a ++ ahead)) behind s ++ lowerBy f (s.reverse ++ behind) ahead
  | _, [], _ => rfl
  | behind, c :: s, ahead => by
    rw [List.cons_append, lowerBy, lowerBy, lowerBy_append (c :: behind) s ahead]
    simp

/-- What stands behind a text may as well be put into the rule. -/
theorem lowerBy_behind : ∀ behind before s : List Char,
    lowerBy f (behind ++ before) s = lowerBy (fun b a => f (b ++ before) a) behind s
  | _, _, [] => rfl
  | behind, before, c :: s => by
    rw [lowerBy, lowerBy, ← lowerBy_behind (c :: behind) before s]
    rfl

/-- Rules that agree on all sigmas of a text lower it in the same way. -/
theorem lowerBy_congr : ∀ {behind s : List Char},
    (∀ u w, s = u ++ capitalSigma :: w → f (u.reverse ++ behind) w = g (u.reverse ++ behind) w) →
    lowerBy f behind s = lowerBy g behind s
  | _, [], _ => rfl
  | behind, c :: s, h => by
    have htail : lowerBy f (c :: behind) s = lowerBy g (c :: behind) s :=
      lowerBy_congr fun u w hs => by simpa using h (c :: u) w (by rw [hs]; rfl)
    rw [lowerBy, lowerBy, htail]
    split
    · next hc => rw [show f behind s = g behind s from h [] s (by rw [hc]; rfl)]
    · rfl

/-- How often a form stands in a sigma of that form, and in one of the other form. -/
theorem count_sigmaForm (u v : Bool) :
    [sigmaForm u].count (sigmaForm v) = if u = v then 1 else 0 := by
  cases u <;> cases v <;> rfl

section

variable {v : Bool} (h : ∀ b a, f b a = v → g b a = v)
include h

/-- A rule that gives a form to no more sigmas leaves no more of that form. -/
theorem count_lowerBy_le : ∀ behind s : List Char,
    (lowerBy f behind s).count (sigmaForm v) ≤ (lowerBy g behind s).count (sigmaForm v)
  | _, [] => Nat.le_refl 0
  | behind, c :: s => by
    have htail := count_lowerBy_le (c :: behind) s
    rw [lowerBy, lowerBy, List.count_append, List.count_append]
    refine Nat.add_le_add ?_ htail
    split
    · rw [count_sigmaForm, count_sigmaForm]
      by_cases hf : f behind s = v
      · exact Nat.le_of_eq (by rw [if_pos hf, if_pos (h _ _ hf)])
      · rw [if_neg hf]
        exact Nat.zero_le _
    · exact Nat.le_refl _

/-- A rule that also denies the form to one of the sigmas leaves fewer. -/
theorem count_lowerBy_lt {behind u w : List Char} (hf : f (u.reverse ++ behind) w ≠ v)
    (hg : g (u.reverse ++ behind) w = v) :
    (lowerBy f behind (u ++ capitalSigma :: w)).count (sigmaForm v) <
      (lowerBy g behind (u ++ capitalSigma :: w)).count (sigmaForm v) := by
  have hfront := count_lowerBy_le (fun b a => h b (a ++ capitalSigma :: w)) behind u
  have hback := count_lowerBy_le h (capitalSigma :: (u.reverse ++ behind)) w
  rw [lowerBy_append, lowerBy_append, List.count_append, List.count_append, lowerBy, lowerBy,
    if_pos rfl, if_pos rfl, List.count_append, List.count_append, count_sigmaForm, count_sigmaForm,
    if_neg hf, if_pos hg]
  omega

end

end

/-! ## 3. Parts of a text -/

section

variable {t : List Char}

/-- A part of a text is lowered in view of what stands before it and behind it. -/
theorem exists_lowercase_append (before t after : List Char) :
    ∃ front back, lowercase (before ++ t ++ after) =
      front ++ lowerBy (fun b a => endsWord (b ++ before.reverse) (a ++ after)) [] t ++ back := by
  have ht := lowerBy_behind (f := fun b a => endsWord b (a ++ after)) [] before.reverse t
  rw [List.nil_append] at ht
  rw [lowercase, lowerFrom_eq_lowerBy, List.append_assoc, lowerBy_append, lowerBy_append,
    List.append_nil, ht, ← List.append_assoc]
  exact ⟨_, _, rfl⟩

theorem lowercase_eq_lowerBy (t : List Char) : lowercase t = lowerBy endsWord [] t :=
  lowerFrom_eq_lowerBy [] t

/-- **All capital sigmas of a text are settled** by the text itself. -/
def SigmasSettled (t : List Char) : Prop :=
  ∀ before after, t = before ++ capitalSigma :: after → isSettled before.reverse after = true

/-- **A text whose sigmas are settled** is lowered inside every text as it is by itself. -/
theorem occursIn_lowercase (ht : SigmasSettled t) (before after : List Char) :
    occursIn (lowercase t) (lowercase (before ++ t ++ after)) = true := by
  obtain ⟨front, back, hlower⟩ := exists_lowercase_append before t after
  refine (occursIn_iff _ _).mpr ⟨front, back, ?_⟩
  rw [hlower, lowercase_eq_lowerBy]
  congr 2
  refine lowerBy_congr fun u w hsplit => ?_
  rw [List.append_nil, endsWord_append (ht u w hsplit)]

theorem not_occursIn_of_count_lt {s : List Char} {c : Char} (h : s.count c < t.count c) :
    occursIn t s = false := by
  rw [← Bool.not_eq_true, occursIn_iff]
  rintro ⟨before, after, rfl⟩
  rw [List.count_append, List.count_append] at h
  omega

theorem lowerChar_letter : lowerChar 'a' = ['a'] := by decide +kernel

theorem lowercase_letter_cons (t : List Char) : lowercase ('a' :: t) =
    ['a'] ++ lowerBy (fun b a => endsWord (b ++ ['a']) a) [] t := by
  rw [lowercase_eq_lowerBy, lowerBy, if_neg (by decide), lowerChar_letter, ← lowerBy_behind]
  rfl

theorem lowercase_append_letter (t : List Char) : lowercase (t ++ ['a']) =
    lowerBy (fun b a => endsWord b (a ++ ['a'])) [] t ++ ['a'] := by
  rw [lowercase_eq_lowerBy, lowerBy_append, lowerBy, lowerBy, if_neg (by decide), lowerChar_letter,
    List.append_nil]

/-- A rule by which fewer sigmas of a text take a form than in the text by itself leaves fewer of
that form. -/
theorem count_lowerBy_lt_lowercase {f : List Char → List Char → Bool} {v : Bool} {u w : List Char}
    (h : ∀ b a, f b a = v → endsWord b a = v) (hform : endsWord u.reverse w = v)
    (hother : f u.reverse w = !v) :
    (lowerBy f [] (u ++ capitalSigma :: w)).count (sigmaForm v) <
      (lowercase (u ++ capitalSigma :: w)).count (sigmaForm v) := by
  rw [lowercase_eq_lowerBy]
  refine count_lowerBy_lt h ?_ ?_ <;> rw [List.append_nil]
  · exact Bool.eq_not.mp hother
  · exact hform

/-- **A sigma that is not settled** looks past an end of the text, so the text is not found behind a
letter or not before one. -/
theorem exists_not_occursIn {u w : List Char} (hsigma : isSettled u.reverse w = false) :
    ∃ before after, occursIn (lowercase (u ++ capitalSigma :: w))
      (lowercase (before ++ (u ++ capitalSigma :: w) ++ after)) = false := by
  rcases endsWord_of_not_settled hsigma with ⟨hform, hother⟩ | ⟨hform, hother⟩
  · refine ⟨['a'], [], not_occursIn_of_count_lt (c := sigmaForm false) ?_⟩
    rw [List.append_nil, List.singleton_append, lowercase_letter_cons, List.count_append,
      show ['a'].count (sigmaForm false) = 0 from rfl, Nat.zero_add]
    exact count_lowerBy_lt_lowercase (fun _ _ => endsWord_eq_false_of_letter) hform hother
  · refine ⟨[], ['a'], not_occursIn_of_count_lt (c := sigmaForm true) ?_⟩
    rw [List.nil_append, lowercase_append_letter, List.count_append,
      show ['a'].count (sigmaForm true) = 0 from rfl, Nat.add_zero]
    exact count_lowerBy_lt_lowercase (fun _ _ => endsWord_of_letter) hform hother

/-- **A text is found in every text around it** after both are lowered, just if its sigmas are all
settled. -/
theorem occursIn_lowercase_iff :
    (∀ before after, occursIn (lowercase t) (lowercase (before ++ t ++ after)) = true) ↔
      SigmasSettled t := by
  refine ⟨fun h u w hsplit => ?_, occursIn_lowercase⟩
  subst hsplit
  cases hsigma : isSettled u.reverse w with
  | true => rfl
  | false =>
    obtain ⟨before, after, hnot⟩ := exists_not_occursIn hsigma
    rw [h before after] at hnot
    cases hnot

end

end JsonSieve.Text
