/-
# Searching for a text that is there

A search that ignores case lowers the literal and the field, each as a whole, and looks for the one
in the other.  A literal that stands in the field as it is written is found, as long as it is
lowered alone as it is lowered inside the field.  That is so for every field if each capital sigma
of the literal is settled by the literal itself, and for no other literal: then there is a field
that holds it and in which it is not found (`found_where_written_iff`).
-/
import JsonSieve.Proofs.Evaluate.Negated
import JsonSieve.Proofs.Text.Sigma

namespace JsonSieve

/-- Whether a field holds a text as it is written: a string that has the text in it, or an array of
strings with such a string among them. -/
def Json.HoldsText (t : List Char) : Json → Prop
  | string s => t <:+: s.toList
  | array es => (∀ e ∈ es, ∃ s, e = string s) ∧ ∃ s, string s ∈ es ∧ t <:+: s.toList
  | _ => False

namespace Filter

section

variable {f : Filter} {field : Json}

/-- What holds a text is a string or an array of strings. -/
theorem isOf_of_holdsText {t : List Char} (h : field.HoldsText t) : field.isOf .text = true := by
  cases field with
  | string s => rfl
  | array es =>
    refine List.all_eq_true.mpr fun e he => ?_
    obtain ⟨s, rfl⟩ := h.1 e he
    rfl
  | _ => cases h

/-- A literal with settled sigmas is found in every string that it is written in. -/
theorem compares_contains_of_infix (ht : Text.SigmasSettled f.content) {s : String}
    (h : f.content <:+: s.toList) : (f.withOp .contains).compares (.text s) = true := by
  obtain ⟨before, after, hs⟩ := h
  show (some (containsIgnoringCase f.content s.toList) == some true) = true
  rw [containsIgnoringCase, ← hs, Text.occursIn_lowercase ht]
  rfl

/-- A literal with settled sigmas is found in every field that holds it. -/
theorem accepts_contains_of_holdsText (ht : Text.SigmasSettled f.content)
    (h : field.HoldsText f.content) : (f.withOp .contains).accepts (.ofJson field) = true := by
  have htext := isOf_of_holdsText h
  cases field with
  | string s => exact compares_contains_of_infix ht h
  | array es =>
    obtain ⟨ss, hes, hss⟩ := Json.isOf_array_iff.mp htext
    obtain ⟨s, hs, hinfix⟩ := h.2
    obtain ⟨r, hr, hreq⟩ := exists_of_mem_of_map_eq (mapM_eq_some_iff.mp hes) hs
    cases hreq
    rw [accepts_array_of hes hss]
    exact List.any_eq_true.mpr ⟨_, hr, compares_contains_of_infix ht hinfix⟩
  | _ => cases h

/-- **A literal is found where it is written,** and not reported missing, in all fields just if its
sigmas are settled. -/
theorem found_where_written_iff (f : Filter) :
    (∀ v field, v.get? f.key = some field → field.HoldsText f.content →
      (f.withOp .contains).admits v = true ∧ (f.withOp .notContains).admits v = false) ↔
      Text.SigmasSettled f.content := by
  constructor
  · intro h
    rw [← Text.occursIn_lowercase_iff]
    intro before after
    -- the field that holds the literal between these texts
    obtain ⟨v, hget⟩ := f.exists_get? (.string (String.ofList (before ++ f.content ++ after)))
    have hholds :
        (Json.string (String.ofList (before ++ f.content ++ after))).HoldsText f.content :=
      ⟨before, after, String.toList_ofList.symm⟩
    have hfound := (h v _ hget hholds).1
    rw [admits_of_get? (f.withOp .contains) hget] at hfound
    have hverdict := Option.some.inj (beq_iff_eq.mp hfound)
    rwa [containsIgnoringCase, String.toList_ofList] at hverdict
  · intro ht v field hget hholds
    have hfound := accepts_contains_of_holdsText ht hholds
    rw [admits_of_get? (f.withOp .contains) hget, admits_of_get? (f.withOp .notContains) hget]
    refine ⟨hfound, ?_⟩
    rw [accepts_eq_not rfl rfl (fun _ => f.compares_notContains_eq_not)
      (isOf_of_holdsText hholds), hfound]
    rfl

/-- **A literal that is not found where it is written:** the sigma at its end is the last letter of
a word in the literal, and not in the field. -/
theorem written_not_found :
    (Json.string "ΑΣΑ").HoldsText (⟨"k", .contains, "ΑΣ"⟩ : Filter).content ∧
    (⟨"k", .contains, "ΑΣ"⟩ : Filter).admits (.object [("k", .string "ΑΣΑ")]) = false ∧
    (⟨"k", .notContains, "ΑΣ"⟩ : Filter).admits (.object [("k", .string "ΑΣΑ")]) = true :=
  ⟨⟨[], ['Α'], by decide +kernel⟩, by decide +kernel, by decide +kernel⟩

end

end Filter

end JsonSieve
