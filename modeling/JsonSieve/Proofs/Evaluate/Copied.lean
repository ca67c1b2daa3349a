/-
# What is copied is written as it is

The fields that a query takes are copied from the document (`Copies`), wherever in it the query
goes.  Each stands in the text that is kept with the text that it has by itself (`infix_keep`).  So
what is lost of it in the text is what is lost of a document: integers of 64 bits without a sign
whose value the double format does not have, and numbers that the rounding of the reader does not
restore.
-/
import JsonSieve.Proofs.Evaluate.Again
import JsonSieve.Proofs.Json.Lossless

namespace JsonSieve

/-! ## 1. Parts of a text -/

/-- The text of an element is part of the text of all elements. -/
theorem infix_elementsText {e : Json} : ∀ {es : List Json} {first : Bool}, e ∈ es →
    e.render .compact 0 <:+: elementsText first es
  | [], _, h => by cases h
  | d :: es, first, h => by
    rw [elementsText]
    rcases List.mem_cons.mp h with rfl | h
    · exact ⟨comma first, elementsText false es, rfl⟩
    · exact (infix_elementsText h).trans (List.suffix_append _ _).isInfix

/-- The name and the text of a member are part of the text of all members. -/
theorem infix_membersText {m : String × Json} : ∀ {ms : List (String × Json)} {first : Bool},
    m ∈ ms → memberName m.1 ++ m.2.render .compact 0 <:+: membersText first ms
  | [], _, h => by cases h
  | (k, v) :: ms, first, h => by
    rw [membersText]
    rcases List.mem_cons.mp h with rfl | h
    · exact ⟨comma first, membersText false ms, by simp⟩
    · exact (infix_membersText h).trans (List.suffix_append _ _).isInfix

/-- The text of an element is part of the text of the array. -/
theorem infix_render_array {e : Json} {es : List Json} (h : e ∈ es) :
    e.render .compact 0 <:+: (Json.array es).render .compact 0 := by
  rw [Json.render_array]
  exact (infix_elementsText h).trans ⟨['['], [']'], rfl⟩

/-- The name and the text of a member are part of the text of the object. -/
theorem infix_render_object {m : String × Json} {ms : List (String × Json)} (h : m ∈ ms) :
    memberName m.1 ++ m.2.render .compact 0 <:+: (Json.object ms).render .compact 0 := by
  rw [Json.render_object]
  exact (infix_membersText h).trans ⟨['\x7b'], ['\x7d'], rfl⟩

namespace Query

/-! ## 2. Fields that are copied -/

/-- **A member is copied from a document** if a node of the query takes it from an object that it
goes into and admits. -/
inductive Copies : Query → Json → String × Json → Prop
  | taken {q : Query} {ms : List (String × Json)} {m : String × Json}
    (hclauses : q.clausesHold (.object ms) = true) (hm : m ∈ q.taken (.object ms)) :
    Copies q (.object ms) m
  | element {q : Query} {es : List Json} {e : Json} {m : String × Json} (he : e ∈ es)
    (h : Copies q e m) : Copies q (.array es) m
  | nested {q : Query} {ms : List (String × Json)} {n : String × Query} {field : Json}
    {m : String × Json} (hclauses : q.clausesHold (.object ms) = true) (hn : n ∈ q.nested)
    (hfield : (Json.object ms).get? n.1 = some field) (h : Copies n.2 field m) :
    Copies q (.object ms) m

namespace Copies

variable {q : Query} {v : Json} {m : String × Json}

/-- What is copied from a document is a document. -/
theorem isDocument {P : Number → Prop} {depth : Nat} (h : q.Copies v m)
    (hv : v.IsDocument P depth) : m.2.IsDocument P depth := by
  induction h generalizing depth with
  | taken _ hm =>
    obtain ⟨name, -, hm⟩ := List.mem_filterMap.mp hm
    obtain ⟨field, hfield, rfl⟩ := Option.map_eq_some_iff.mp hm
    exact hv.get? hfield
  | element he _ ih =>
    cases hv with
    | scalar hs _ => cases hs
    | array hes => exact (ih (hes _ he)).succ
  | nested _ _ hfield _ ih => exact ih (hv.get? hfield)

/-- **What is copied stands in the projection** as it is written by itself. -/
theorem infix_project (h : q.Copies v m) : ∀ {name : String} {kept : Option Json},
    q.project name v = .ok kept →
      ∃ w, kept = some w ∧ memberName m.1 ++ m.2.render .compact 0 <:+: w.render .compact 0 := by
  induction h with
  | @taken q ms m hclauses hm =>
    intro name kept hproject
    rw [project_object, if_pos hclauses] at hproject
    obtain ⟨ls, -, rfl⟩ := ok_map_iff.mp hproject
    exact ⟨_, rfl, infix_render_object (List.mem_append_left _ hm)⟩
  | element he _ ih =>
    intro name kept hproject
    obtain ⟨ks, hks, rfl⟩ := project_array_eq_ok.mp hproject
    obtain ⟨k, hk, hke⟩ := exists_of_mem_of_mapM hks _ he
    obtain ⟨w, rfl, hw⟩ := ih hke
    have hmem : w ∈ ks.filterMap id := List.mem_filterMap.mpr ⟨_, hk, rfl⟩
    exact ⟨_, rfl, hw.trans (infix_render_array hmem)⟩
  | @nested q ms n field m hclauses hn hfield _ ih =>
    intro name kept hproject
    rw [project_object, if_pos hclauses] at hproject
    obtain ⟨ls, hls, rfl⟩ := ok_map_iff.mp hproject
    obtain ⟨k, hk, hmem⟩ := exists_of_mem_nested hfield hls hn
    obtain ⟨w, rfl, hw⟩ := ih hk
    have hmember := infix_render_object (List.mem_append_right (q.taken (.object ms)) (hmem w rfl))
    have hvalue : w.render .compact 0 <:+: memberName n.1 ++ w.render .compact 0 :=
      (List.suffix_append _ _).isInfix
    exact ⟨_, rfl, hw.trans (hvalue.trans hmember)⟩

/-- **What is copied stands in the text that is kept** as it is written by itself. -/
theorem infix_keep {text : String} (h : q.Copies v m) (hkeep : q.keep v = .ok text) :
    memberName m.1 ++ m.2.compact.toList <:+: text.toList := by
  rw [keep_eq_keptText, ok_map_iff] at hkeep
  obtain ⟨kept, hkept, rfl⟩ := hkeep
  obtain ⟨w, rfl, hw⟩ := h.infix_project hkept
  rwa [Json.compact, String.toList_ofList, String.toList_ofList]

end Copies

/-! ## 3. What is lost of a document -/

/-- **The text of a document with numbers in range** is read as one of the same shape, in which each
number is what its own text is read as, and it loses nothing just if all numbers are exact.  The
same is true of every field that a query copies from the document, in the text in which it stands,
and of all that is kept.  Nothing is assumed of the rounding with which the text is read. -/
theorem lossless_iff_isExact (ρ : Rounding) {v : Json}
    (hv : v.IsDocument Number.InRange Json.Reader.maxDepth) :
    v.GivesBack ρ v.compact ∧
      ∀ (q : Query) (text : String), q.keep v = .ok text →
        (∀ m, q.Copies v m → memberName m.1 ++ m.2.compact.toList <:+: text.toList ∧
          m.2.GivesBack ρ m.2.compact) ∧
        (q.NoRepeats → text ≠ "" → ∃ kept, q.projection v = .ok (some kept) ∧
          kept.GivesBack ρ text) := by
  have hblank := Spacing.isBlank_compact
  refine ⟨Json.givesBack_render hblank hv, fun q text hkeep => ⟨fun m hm => ?_, fun hq hne => ?_⟩⟩
  · exact ⟨hm.infix_keep hkeep, Json.givesBack_render hblank (hm.isDocument hv)⟩
  · obtain ⟨kept, hkept, rfl⟩ := projection_of_keep hkeep hne
    exact ⟨kept, hkept, Json.givesBack_render hblank (isDocument_project q hq hv hkept)⟩

/-- The least integer of 64 bits that is written in the double format and is not a number of it. -/
theorem not_lossless_compact :
    ¬ Json.Lossless .bestEffort (Json.number (.integer 9223372036854775809)).compact
      (.number (.integer 9223372036854775809)) := by
  have hrange : (Number.integer 9223372036854775809).InRange := by decide
  have hdoc : (Json.number (.integer 9223372036854775809)).IsDocument Number.InRange
      Json.Reader.maxDepth := .number hrange
  intro h
  have hexact := (Json.lossless_render_iff Spacing.isBlank_compact hdoc).mp h
  rcases hexact _ (List.mem_singleton_self _) with hword | ⟨hzeros, -⟩
  · exact absurd hword (by decide)
  · exact absurd hzeros (by decide)

/-- An integer above `2⁶³` that ends in eleven zeros is copied without loss, if it is one that the
rounding by parts restores. -/
theorem lossless_iff_isExact_zeros :
    Json.Lossless .bestEffort (Json.number (.integer 9223372036854777856)).compact
      (.number (.integer 9223372036854777856)) := by
  have hrange : (Number.integer 9223372036854777856).InRange := by decide
  have hrestores : Rounding.bestEffort.Restores (.ofInt 9223372036854777856) := by decide +kernel
  have hdoc : (Json.object [("a", .number (.integer 9223372036854777856)),
      ("b", .null)]).IsDocument Number.InRange Json.Reader.maxDepth :=
    .object (by decide) (List.forall_mem_cons.mpr
      ⟨.number hrange, List.forall_mem_singleton.mpr .null⟩)
  have hkeep : (Query.node [] ["a"] []).keep (.object [
      ("a", .number (.integer 9223372036854777856)), ("b", .null)]) =
      .ok (Json.object [("a", .number (.integer 9223372036854777856))]).compact := by
    rw [keep_eq_keptText]
    rfl
  have hcopied : (Query.node [] ["a"] []).Copies (.object [
      ("a", .number (.integer 9223372036854777856)), ("b", .null)])
      ("a", .number (.integer 9223372036854777856)) :=
    .taken rfl (List.mem_singleton_self _)
  obtain ⟨-, hback⟩ := ((lossless_iff_isExact .bestEffort hdoc).2 _ _ hkeep).1 _ hcopied
  exact hback.lossless_iff.mpr (List.forall_mem_singleton.mpr (.inr ⟨by decide, hrestores⟩))

end Query

end JsonSieve
