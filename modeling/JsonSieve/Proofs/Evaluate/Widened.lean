/-
# One text, two trees

A text may be read with its integers kept as they are written (`Json.read`) or with all numbers in
the double format (`Command.readDocument`), with one and the same rounding.  No query and no search
tells the two trees apart as long as every integer of 64 bits in the text is below `2⁵³`
(`readDocument_answers`).

A clause sees two different things: it compares an integer with an integer literal exactly, and
otherwise in the double format.  Below `2⁵³` both ways agree for every literal (`verdicts_ofInt`),
since a small integer is a number of the format and no literal is rounded past it.  The writer too
has two ways to a text, and below `2⁵³` they write the same digits.  An integer of more than 64 bits
with its sign is no integer to either of them.
-/
import Mathlib
import JsonSieve.Proofs.Evaluate.Kept
import JsonSieve.Proofs.Evaluate.Retrieve
import JsonSieve.Proofs.Evaluate.Search

namespace JsonSieve

/-! ## 1. One number -/

/-- Whether an integer of 64 bits is below `2⁵³`; nothing is asked of other numbers. -/
def Number.IsSmall : Number → Prop
  | .integer n => fitsWord n = true → n.natAbs < 2 ^ 53
  | .real _ => True

instance : DecidablePred Number.IsSmall
  | .integer n => inferInstanceAs (Decidable (fitsWord n = true → n.natAbs < 2 ^ 53))
  | .real _ => inferInstanceAs (Decidable True)

section

variable {n : Int}

theorem numbersEqual?_ofInt (h : n.natAbs < 2 ^ 53) (l : Literal) :
    numbersEqual? l (.integer n) = numbersEqual? l (.real (.ofInt n)) := by
  cases l with
  | integer a => exact congrArg some (Binary64.equals_ofInt h).symm
  | _ => rfl

theorem sameAs?_ofInt (h : n.natAbs < 2 ^ 53) (l : Literal) :
    sameAs? l (.integer n) = sameAs? l (.real (.ofInt n)) := by
  have hnumbers := numbersEqual?_ofInt h l
  cases l with
  | integer a => exact hnumbers
  | _ => rfl

theorem orderTo?_ofInt (h : n.natAbs < 2 ^ 53) (l : Literal) :
    orderTo? l (.integer n) = orderTo? l (.real (.ofInt n)) := by
  have horder : ∀ (a : Int) (x : Binary64),
      x.compare? (.ofInt a) = orderTo? (.integer a) (.real x) := fun _ _ => rfl
  cases l with
  | integer a => rw [← horder, Binary64.compare?_ofInt h, orderTo?]
  | _ => rfl

theorem looselyEquals_ofInt (h : n.natAbs < 2 ^ 53) (l : Literal) :
    looselyEquals l (.integer n) = looselyEquals l (.real (.ofInt n)) := by
  have hsame := sameAs?_ofInt h l
  cases l with
  | integer a => simp only [looselyEquals, hsame]
  | _ => rfl

/-- **No clause tells a small integer from the number that it becomes.** -/
theorem verdicts_ofInt (h : n.natAbs < 2 ^ 53) :
    (Scalar.real (.ofInt n)).verdicts = (Scalar.integer n).verdicts := by
  refine Prod.ext rfl (funext fun f => ?_)
  simp only [Scalar.verdicts, Filter.compares, sameAs?_ofInt h, orderTo?_ofInt h,
    looselyEquals_ofInt h]
  rfl

/-- **A small integer is written as the number that it becomes.** -/
theorem jsonText_ofInt (h : n.natAbs < 2 ^ 53) :
    (Scalar.real (.ofInt n)).jsonText = (Scalar.integer n).jsonText := by
  obtain ⟨m, -, hm⟩ := Binary64.ofInt_of_small h
  have hfinite : (Binary64.ofInt n).isFinite = true := by rw [hm]; rfl
  show (Binary64.ofInt n).jsonText = Layout.integer n
  rw [Binary64.jsonText, if_pos hfinite, Binary64.smallWhole?_ofInt h]

end

/-- What is true of a small integer and the number that it becomes is true of every small number and
the same number in the double format. -/
theorem Number.IsSmall.widen_induction {R : Scalar → Scalar → Prop} (hrefl : ∀ s, R s s)
    (hinteger : ∀ {n : Int}, n.natAbs < 2 ^ 53 → R (.real (.ofInt n)) (.integer n))
    {n : Number} (h : n.IsSmall) : R n.widen.toScalar n.toScalar := by
  cases n with
  | real x => exact hrefl _
  | integer n =>
    rw [Number.widen, Number.toReal, Number.toScalar, Number.toScalar]
    split
    · next hword => exact hinteger (h hword)
    · exact hrefl _

theorem sameVerdicts_widen : SameVerdicts Number.IsSmall Number.widen := by
  intro n hn
  exact hn.widen_induction (R := fun s t => s.verdicts = t.verdicts) (fun _ => rfl) verdicts_ofInt

theorem writtenAlike_widen {v : Json} (h : ∀ n ∈ v.numbers, n.IsSmall) :
    v.WrittenAlike Number.widen := by
  intro n hn
  exact (h n hn).widen_induction (R := fun s t => s.jsonText = t.jsonText) (fun _ => rfl)
    jsonText_ofInt

/-! ## 2. Other numbers in a document -/

namespace Query

section

variable {P : Number → Prop} {k : Number → Number} {depth : Nat} {v : Json}

/-- **The same text is kept** of a document with other numbers, if they get the same verdicts and
are written alike. -/
theorem keep_renumber (q : Query) (hk : SameVerdicts P k) (htext : v.WrittenAlike k)
    (h : v.IsDocument P depth) : q.keep (v.renumber k) = q.keep v := by
  rw [keep_eq_keptText, keep_eq_keptText, projection, projection, project_renumber hk q rootName h]
  cases hkept : q.project rootName v with
  | error err => rfl
  | ok kept =>
    cases kept with
    | none => rfl
    | some w =>
      have hw : w.WrittenAlike k := fun n hn => htext n (mem_numbers_of_project q hkept hn)
      have hrender : (w.renumber k).compact = w.compact :=
        congrArg String.ofList (Json.render_renumber hw 0)
      exact congrArg Except.ok hrender

theorem retrieve_renumber (q : Query) (hk : SameVerdicts P k) (htext : v.WrittenAlike k)
    (h : v.IsDocument P depth) : q.retrieve (v.renumber k) = q.retrieve v := by
  rw [retrieve_eq_keep, retrieve_eq_keep, Json.kind_renumber]
  exact keep_renumber _ hk htext h

/-- **A query answers alike** about a document with other numbers. -/
theorem sameAnswers_renumber (q : Query) (hk : SameVerdicts P k) (htext : v.WrittenAlike k)
    (h : v.IsDocument P depth) : q.SameAnswers (v.renumber k) v :=
  ⟨check_renumber hk q h, keep_renumber q hk htext h, retrieve_renumber q hk htext h⟩

end

end Query

/-! ## 3. Both trees of a text -/

namespace Command

open Json (texts)

/-- **No query, no search and no printer tells the two trees of a text apart** if each integer of 64
bits in it is below `2⁵³`. -/
theorem readDocument_answers {ρ : Rounding} {text : String} {v : Json}
    (hv : Json.read ρ text = .ok v) (hsmall : ∀ n ∈ v.numbers, n.IsSmall) :
    ∃ d, readDocument ρ text = .ok d ∧ (∀ q : Query, q.SameAnswers d v) ∧
      d.compact = v.compact ∧ d.indented = v.indented ∧
      ∀ keys, (d.search keys).map texts = (v.search keys).map texts := by
  have hdoc := (Json.isDocument_of_read hv).of_forall_numbers hsmall
  have htext := writtenAlike_widen hsmall
  refine ⟨v.renumber Number.widen, ?_, fun q => ?_, ?_, ?_, fun keys => ?_⟩
  · rw [readDocument, hv]
    exact congrArg Except.ok v.widen_eq_mapNumbers
  · exact q.sameAnswers_renumber sameVerdicts_widen htext hdoc
  · exact congrArg String.ofList (Json.render_renumber htext 0)
  · exact congrArg String.ofList (Json.render_renumber htext 0)
  · exact Json.search_renumber htext keys

/-- A large integer that does not fit into 64 bits with its sign makes no difference. -/
theorem readDocument_answers_numbers :
    ∃ d, readDocument .bestEffort "\x7b\"a\":[1,-7],\"b\":18446744073709551615\x7d" = .ok d ∧
      ∀ q : Query, q.SameAnswers d (.object [
        ("a", .array [.number (.integer 1), .number (.integer (-7))]),
        ("b", .number (.integer 18446744073709551615))]) := by
  have hv : Json.read .bestEffort "\x7b\"a\":[1,-7],\"b\":18446744073709551615\x7d" = .ok (.object [
      ("a", .array [.number (.integer 1), .number (.integer (-7))]),
      ("b", .number (.integer 18446744073709551615))]) := by cbv
  have hsmall : ∀ n ∈ Json.numbers (.object [
      ("a", .array [.number (.integer 1), .number (.integer (-7))]),
      ("b", .number (.integer 18446744073709551615))]), n.IsSmall := by decide
  obtain ⟨d, hd, hq, -⟩ := readDocument_answers hv hsmall
  exact ⟨d, hd, hq⟩

end Command

end JsonSieve
