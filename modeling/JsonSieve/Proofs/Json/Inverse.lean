/-
# Reading inverts writing

A document with numbers of the double format, whatever they are, is written as a text that is read
as the same document, in one line or over several (`readDocument_text`), provided that the rounding
finds the finite ones again.  Strings and names come back whatever characters they have, and a
number comes back as an equal one: a zero may lose its sign.  Numbers that are not finite have no
text and come back as nulls (`finiteOnly`).
-/
import JsonSieve.Proofs.Json.Document

namespace JsonSieve

open Json.Reader

/-! ## 1. Equality after a change of the numbers -/

namespace Json

section

variable {α : Type} {f g : α → Json}

theorem sameElements_map : ∀ {as : List α}, (∀ a ∈ as, (f a).sameValue (g a) = true) →
    sameElements (as.map f) (as.map g) = true
  | [], _ => rfl
  | a :: as, h => by
    rw [List.map_cons, List.map_cons, sameElements, h a List.mem_cons_self,
      sameElements_map fun b hb => h b (List.mem_cons_of_mem _ hb)]
    rfl

theorem sameMembers_map {name : α → String} : ∀ {as : List α},
    (∀ a ∈ as, (f a).sameValue (g a) = true) →
    sameMembers (as.map fun a => (name a, f a)) (as.map fun a => (name a, g a)) = true
  | [], _ => rfl
  | a :: as, h => by
    rw [List.map_cons, List.map_cons, sameMembers, h a List.mem_cons_self, beq_self_eq_true,
      sameMembers_map fun b hb => h b (List.mem_cons_of_mem _ hb)]
    rfl

end

/-- **Two changes of the numbers** make the same document of one, if they make the same value of
each of its numbers. -/
theorem sameValue_mapNumbers {g h : Number → Json} {v : Json}
    (hsame : ∀ n ∈ v.numbers, (g n).sameValue (h n) = true) :
    (v.mapNumbers g).sameValue (v.mapNumbers h) = true := by
  induction v with
  | scalar v hv =>
    cases v with
    | number n => exact hsame n (List.mem_singleton_self n)
    | array _ | object _ => cases hv
    | null => rfl
    | bool b => exact beq_self_eq_true b
    | string s => exact beq_self_eq_true s
  | array es ih =>
    rw [mapNumbers_array, mapNumbers_array]
    exact sameElements_map fun e he =>
      ih e he fun n hn => hsame n (mem_numbers_array.mpr ⟨e, he, hn⟩)
  | object ms ih =>
    rw [mapNumbers_object, mapNumbers_object]
    exact sameMembers_map fun m hm =>
      ih m hm fun n hn => hsame n (mem_numbers_object.mpr ⟨m, hm, hn⟩)

/-! ## 2. Numbers that are not finite -/

/-- The document with a null in the place of every number that is not finite. -/
def finiteOnly (v : Json) : Json :=
  v.mapNumbers fun n => if n.toReal.isFinite then number n else null

end Json

/-- A number of the double format is read back as an equal one, or as a null if it is not finite. -/
theorem Binary64.sameValue_widen_reread (x : Binary64) :
    x.reread.widen.sameValue (if x.isFinite then .number (.real x) else .null) = true := by
  cases hx : x.isFinite with
  | true =>
    rw [if_pos rfl, widen_reread hx]
    exact equals_of_rank?_eq hx x.rank?_plainZero
  | false =>
    rw [reread, hx]
    rfl

/-! ## 3. Whole documents -/

namespace Command

variable {ρ : Rounding} {v : Json}

/-- A document in the double format reads back in every spacing, with nulls for the numbers that are
not finite, if the others are restored. -/
theorem sameValue_readDocument_render {sp : Spacing} (hsp : sp.IsBlank)
    (hv : v.IsDocument Number.IsReal maxDepth) (hρ : v.RestoredBy ρ) :
    ∃ d, readDocument ρ (String.ofList (v.render sp 0)) = .ok d ∧
      d.sameValue v.finiteOnly = true := by
  refine ⟨v.reread.widen, readDocument_render_eq hsp hv hρ, ?_⟩
  rw [Json.widen_reread]
  refine Json.sameValue_mapNumbers fun n hn => ?_
  obtain ⟨x, rfl⟩ := hv.of_mem_numbers hn
  exact x.sameValue_widen_reread

/-- **A document in the double format is read from either of its texts** as it is, with nulls for
the numbers that are not finite, if the rounding restores those that are. -/
theorem readDocument_text (hv : v.IsDocument Number.IsReal maxDepth) (hρ : v.RestoredBy ρ) :
    (∃ d, readDocument ρ v.compact = .ok d ∧ d.sameValue v.finiteOnly = true) ∧
      ∃ d, readDocument ρ v.indented = .ok d ∧ d.sameValue v.finiteOnly = true :=
  ⟨sameValue_readDocument_render Spacing.isBlank_compact hv hρ,
    sameValue_readDocument_render Spacing.isBlank_indented hv hρ⟩

/-- A name of a quote and a backslash, a control character, a number that is not finite, and two
that are and that the rounding by parts restores. -/
theorem readDocument_text_controls :
    ∃ d, readDocument .bestEffort (Json.object [("\"\\", .array [.number (.real .nan),
        .number (.real .zero), .number (.real (.ofDecimal true ⟨25, -1⟩)),
        .string "\u0085"])]).indented = .ok d ∧
      d.sameValue (.object [("\"\\", .array [.null, .number (.real .zero),
        .number (.real (.ofDecimal true ⟨25, -1⟩)), .string "\u0085"])]) = true := by
  have hv : (Json.object [("\"\\", .array [.number (.real .nan), .number (.real .zero),
      .number (.real (.ofDecimal true ⟨25, -1⟩)),
      .string "\u0085"])]).IsDocument Number.IsReal maxDepth := by
    refine .object (by decide) (List.forall_mem_singleton.mpr (.array ?_))
    simp only [List.forall_mem_cons]
    exact ⟨.number ⟨_, rfl⟩, .number ⟨_, rfl⟩, .number ⟨_, rfl⟩, .string _, List.forall_mem_nil _⟩
  have hρ : (Json.object [("\"\\", .array [.number (.real .nan), .number (.real .zero),
      .number (.real (.ofDecimal true ⟨25, -1⟩)), .string "\u0085"])]).RestoredBy .bestEffort := by
    decide +kernel
  have hfinite : (Binary64.ofDecimal true ⟨25, -1⟩).isFinite = true := by decide +kernel
  have hread := (readDocument_text hv hρ).2
  simp only [Json.finiteOnly, Json.mapNumbers, Json.mapNumbersIn, Json.mapNumbersOf,
    Number.toReal, hfinite] at hread
  exact hread

end Command

end JsonSieve
