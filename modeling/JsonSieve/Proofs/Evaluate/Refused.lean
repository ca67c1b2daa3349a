/-
# Literals that are no pattern

A search for a pattern gives no verdict on any scalar if the literal is none: the pattern is neither
found in it nor missing from it.  So the clause accepts no scalar and no array that has an element.
The empty array has none to ask: `::` wants one element and refuses it, `!::` wants every element
and accepts it.  That is the one field that a literal without a meaning lets through
(`admits_refused_iff`).
-/
import JsonSieve.Proofs.Evaluate.Negated

namespace JsonSieve.Filter

variable {f : Filter}

/-- A search for what is no pattern. -/
structure IsRefused (f : Filter) : Prop where
  takesPattern : f.op.takesPattern = true
  compile? : Pattern.compile? f.content = none

theorem IsRefused.op_eq (h : f.IsRefused) : f.op = .like ∨ f.op = .notLike := by
  have hop := h.takesPattern
  cases heq : f.op with
  | like => exact .inl rfl
  | notLike => exact .inr rfl
  | _ =>
    rw [heq] at hop
    cases hop

/-- **No scalar is accepted:** without a pattern there is no verdict. -/
theorem IsRefused.compares (h : f.IsRefused) (s : Scalar) : f.compares s = false := by
  have hnone : f.like? s = none := by
    rw [like?, pattern?, if_pos h.takesPattern, h.compile?]
    rfl
  rcases h.op_eq with hop | hop
  · rw [Filter.compares, hop]
    simp only [hnone]
    rfl
  · rw [Filter.compares, hop]
    simp only [hnone]
    rfl

/-- **Of all arrays only the empty one is accepted,** and only if every element is asked for. -/
theorem IsRefused.accepts_scalars (h : f.IsRefused) {ss : List Scalar} :
    f.accepts (.scalars ss) = true ↔ f.op = .notLike ∧ ss = [] := by
  constructor
  · intro haccepts
    cases ss with
    | nil =>
      refine ⟨h.op_eq.resolve_left fun hop => ?_, rfl⟩
      rw [accepts, hop] at haccepts
      cases haccepts
    | cons s ss =>
      obtain ⟨t, -, ht⟩ := exists_compares_of_accepts haccepts
      rw [h.compares t] at ht
      cases ht
  · rintro ⟨hop, rfl⟩
    rw [accepts, hop]
    rfl

theorem IsRefused.accepts_iff (h : f.IsRefused) {field : Json} :
    f.accepts (.ofJson field) = true ↔ f.op = .notLike ∧ field = .array [] := by
  cases field with
  | array es =>
    rw [accepts_array, Option.any_eq_true, Json.array.injEq]
    constructor
    · rintro ⟨ss, hes, haccepts⟩
      obtain ⟨hop, rfl⟩ := h.accepts_scalars.mp (Bool.and_eq_true_iff.mp haccepts).2
      exact ⟨hop, List.map_eq_nil_iff.mp (mapM_eq_some_iff.mp hes)⟩
    · rintro ⟨hop, rfl⟩
      exact ⟨[], rfl, Bool.and_eq_true_iff.mpr ⟨rfl, h.accepts_scalars.mpr ⟨hop, rfl⟩⟩⟩
  | _ =>
    rw [accepts_of_not_array _ rfl, Option.any_eq_true]
    constructor
    · rintro ⟨s, -, hs⟩
      rw [h.compares s] at hs
      cases hs
    · rintro ⟨-, heq⟩
      cases heq

/-- **A literal that is no pattern admits nothing** but, for `!::`, the objects whose field is the
empty array. -/
theorem admits_refused_iff (h : f.IsRefused) (v : Json) :
    f.admits v = true ↔ f.op = .notLike ∧ v.get? f.key = some (.array []) := by
  rw [admits, Option.any_eq_true]
  constructor
  · rintro ⟨field, hfield, haccepts⟩
    obtain ⟨hop, rfl⟩ := h.accepts_iff.mp haccepts
    exact ⟨hop, hfield⟩
  · rintro ⟨hop, hfield⟩
    exact ⟨_, hfield, h.accepts_iff.mpr ⟨hop, rfl⟩⟩

/-- A bracket that is not closed, looked for in a text that is just that bracket, and missed in an
array of texts. -/
theorem admits_refused_bracket :
    (IsRefused ⟨"k", .like, "["⟩ ∧
      (⟨"k", .like, "["⟩ : Filter).admits (.object [("k", .string "[")]) = false) ∧
    (IsRefused ⟨"k", .notLike, "["⟩ ∧
      (⟨"k", .notLike, "["⟩ : Filter).admits (.object [("k", .array [.string "a"])]) = false) := by
  have hcompile : Pattern.compile? (⟨"k", .like, "["⟩ : Filter).content = none := by decide +kernel
  have hfound : IsRefused ⟨"k", .like, "["⟩ := ⟨rfl, hcompile⟩
  have hmissing : IsRefused ⟨"k", .notLike, "["⟩ := ⟨rfl, hcompile⟩
  refine ⟨⟨hfound, ?_⟩, ⟨hmissing, ?_⟩⟩
  · rw [← Bool.not_eq_true, admits_refused_iff hfound]
    exact nofun
  · rw [← Bool.not_eq_true, admits_refused_iff hmissing]
    rintro ⟨-, heq⟩
    simp [Json.get?, Json.members] at heq

/-- **A literal that is no pattern and admits an object:** its field is the empty array. -/
theorem refused_admits :
    IsRefused ⟨"k", .notLike, "["⟩ ∧
    (⟨"k", .notLike, "["⟩ : Filter).admits (.object [("k", .array [])]) = true :=
  ⟨⟨rfl, by decide +kernel⟩, rfl⟩

end JsonSieve.Filter
