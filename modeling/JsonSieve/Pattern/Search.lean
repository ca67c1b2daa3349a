/-
# Finding a pattern in a text

Whether an expression matches some part of a text.  A search keeps a mark for every place of the
text, before each character and behind the last one, and an expression carries marks to all the
places that it can reach from them.  Nothing is tried twice, so the time is bounded by the sizes of
expression and text.

A `Pattern` is an expression that may be searched for: the text that it is made from is well formed
and has a meaning, and its machine is not too large.
-/
import JsonSieve.Pattern.Reader
import JsonSieve.Pattern.Size

namespace JsonSieve

namespace Pattern

/-! ## 1. Places -/

/-- Whether a character belongs to a word; at the ends of a text there is none. -/
def isWordAt (st : Settings) (c? : Option Char) : Bool :=
  c?.any (Shorthand.word.members st.unicode).contains

/-- Whether a place is the start of a line. -/
def isLineStart (crlf : Bool) (before after : Option Char) : Bool :=
  match before with
  | none => true
  | some b => b == '\n' || (crlf && b == '\r' && after != some '\n')

/-- Whether a place is the end of a line. -/
def isLineEnd (crlf : Bool) (before after : Option Char) : Bool :=
  match after with
  | none => true
  | some a => if crlf then a == '\r' || (a == '\n' && before != some '\r') else a == '\n'

/-- Whether an assertion holds at the place between two characters. -/
def Assertion.holds (st : Settings) (before after : Option Char) : Assertion → Bool
  | textStart => before.isNone
  | textEnd => after.isNone
  | lineStart => if st.multiLine then isLineStart st.crlf before after else before.isNone
  | lineEnd => if st.multiLine then isLineEnd st.crlf before after else after.isNone
  | wordBoundary => isWordAt st before != isWordAt st after
  | noWordBoundary => isWordAt st before == isWordAt st after
  | wordStart => !isWordAt st before && isWordAt st after
  | wordEnd => isWordAt st before && !isWordAt st after
  | wordStartHalf => !isWordAt st before
  | wordEndHalf => !isWordAt st after

/-- At each place of a text, whether a condition on the characters around it holds. -/
def placesWhere (p : Option Char → Option Char → Bool) (before : Option Char) :
    List Char → List Bool
  | [] => [p before none]
  | c :: s => p before (some c) :: placesWhere p (some c) s

/-! ## 2. Marks -/

/-- A mark for every place of a text. -/
abbrev Marks := List Bool

namespace Marks

/-- The marks of either kind. -/
def union (a b : Marks) : Marks := a.zipWith (· || ·) b

/-- The marks moved by a step that is carried out so many times. -/
def iterate (f : Marks → Marks) : Nat → Marks → Marks
  | 0, m => m
  | n + 1, m => if m.any id then iterate f n (f m) else m

/-- The marks that up to so many steps reach; the search ends when a step reaches nothing new. -/
def grow (f : Marks → Marks) : Nat → Marks → Marks
  | 0, m => m
  | n + 1, m =>
    let wider := m.union (f m)
    if wider == m then m else grow f n wider

end Marks

/-- The places that an expression reaches from those that are marked. -/
def Expr.reach (text : List Char) : Expr → Marks → Marks
  | empty, m => m
  | one s, m => false :: m.zipWith (fun marked c => marked && s.contains c) text
  | place a st, m => m.zipWith (· && ·) (placesWhere (fun b c => a.holds st b c) none text)
  | seq e f, m => f.reach text (e.reach text m)
  | alt e f, m => (e.reach text m).union (f.reach text m)
  | times e least most, m =>
    let m := Marks.iterate (e.reach text) least m
    Marks.grow (e.reach text) (match most with | some n => n - least | none => text.length + 1) m
  | capture e, m => e.reach text m

/-- Whether an expression matches some part of a text. -/
def Expr.foundIn (e : Expr) (text : List Char) : Bool :=
  (e.reach text (List.replicate (text.length + 1) true)).any id

/-- **No expression moves marks off the text.** -/
theorem Expr.length_reach (text : List Char) : ∀ (e : Expr) (m : Marks),
    m.length = text.length + 1 → (e.reach text m).length = text.length + 1
  | empty, _, h => h
  | one _, m, h => by simp [reach, h]
  | place _ _, m, h => by
    have hp : ∀ (p : Option Char → Option Char → Bool) (b : Option Char) (s : List Char),
        (placesWhere p b s).length = s.length + 1 := by
      intro p b s
      induction s generalizing b with
      | nil => rfl
      | cons c s ih => simp [placesWhere, ih]
    simp [reach, h, hp]
  | seq e f, m, h => length_reach text f _ (length_reach text e m h)
  | alt e f, m, h => by
    simp [reach, Marks.union, length_reach text e m h, length_reach text f m h]
  | times e least most, m, h => by
    have hi : ∀ (n : Nat) (m : Marks), m.length = text.length + 1 →
        (Marks.iterate (e.reach text) n m).length = text.length + 1 := by
      intro n
      induction n with
      | zero => exact fun m h => h
      | succ n ih =>
        intro m h
        unfold Marks.iterate
        split
        · exact ih _ (length_reach text e m h)
        · exact h
    have hg : ∀ (n : Nat) (m : Marks), m.length = text.length + 1 →
        (Marks.grow (e.reach text) n m).length = text.length + 1 := by
      intro n
      induction n with
      | zero => exact fun m h => h
      | succ n ih =>
        intro m h
        simp only [Marks.grow]
        split
        · exact h
        · exact ih _ (by simp [Marks.union, h, length_reach text e m h])
    exact hg _ _ (hi _ _ h)
  | capture e, m, h => length_reach text e m h

end Pattern

/-! ## 3. Patterns -/

/-- A compiled pattern with the text that it was made from: a regular expression that is well
formed, that has a meaning, and whose machine is not too large. -/
structure Pattern where
  source : List Char
  expr : Pattern.Expr

namespace Pattern

/-- The pattern that a text denotes, if it denotes one.  Case is ignored unless the pattern says
otherwise.  What is no pattern is not reported: a clause with such a literal matches no text, and so
does its negation. -/
def compile? (source : List Char) : Option Pattern := do
  let (expr, _) ← (← read? source).meaning? .usual
  guard expr.fits
  return ⟨source, expr⟩

/-- Whether the pattern is found in a text (`is_match`), anywhere in it. -/
def foundIn (p : Pattern) (text : List Char) : Bool := p.expr.foundIn text

end Pattern
end JsonSieve
