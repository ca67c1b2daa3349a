/-
# Searches, rule by rule

The search asks one thing of every leaf of a value: at the end of the path its scalar (`scalarAt`),
and before that the rest of the search from the field of the next name (`searchBelow`).  So an array
is searched element by element, an object under the next name, and a scalar not at all
(`searchFrom_array`, `searchFrom_object_eq_ok`, `searchFrom_scalar`).

A search looks at numbers only to give them back.  So it finds scalars among other numbers that look
like those it finds among these, in whatever way the numbers do (`searchFrom_renumber`).  Numbers
that are written alike make no difference to the texts of what is found, nor to the error if there
is one (`search_renumber`).

What are found in a document are scalars of it, so they could stand in a document themselves
(`exists_array_of_search`).
-/
import JsonSieve.Evaluate.Basic
import JsonSieve.Proofs.Json.Document

namespace JsonSieve.Json

/-! ## 1. Leaves -/

theorem leaves_array (es : List Json) : (array es).leaves = es.flatMap leaves := by
  rw [leaves, leavesOf_eq]

/-- The leaves among other numbers are the leaves with those numbers. -/
theorem leaves_renumber (k : Number → Number) (v : Json) :
    (v.renumber k).leaves = v.leaves.map (renumber k) := by
  induction v with
  | scalar v hv =>
    cases v with
    | array _ | object _ => cases hv
    | _ => rfl
  | array es ih =>
    rw [renumber_array, leaves_array, leaves_array, List.flatMap_map, List.map_flatMap,
      List.flatMap_def, List.flatMap_def]
    exact congrArg List.flatten (List.map_congr_left ih)
  | object ms _ =>
    rw [renumber_object]
    exact congrArg (fun v => [v]) (renumber_object k ms).symm

/-- The numbers of a leaf are numbers of the document. -/
theorem mem_numbers_of_leaf {n : Number} {v leaf : Json} (hleaf : leaf ∈ v.leaves)
    (hn : n ∈ leaf.numbers) : n ∈ v.numbers := by
  induction v with
  | scalar v hv =>
    cases v with
    | array _ | object _ => cases hv
    | _ => exact List.mem_singleton.mp hleaf ▸ hn
  | array es ih =>
    rw [leaves_array, List.mem_flatMap] at hleaf
    obtain ⟨e, he, hleaf⟩ := hleaf
    exact mem_numbers_array.mpr ⟨e, he, ih e he hleaf⟩
  | object ms _ => exact List.mem_singleton.mp hleaf ▸ hn

/-! ## 2. The search, leaf by leaf -/

/-- What is found at a leaf when the path has ended. -/
def scalarAt (name : String) (leaf : Json) : Except EvalError Scalar :=
  match leaf.scalar? with
  | some s => .ok s
  | none => .error (.unexpectedKind name .scalar leaf.kind)

/-- What is found below a leaf, under the next name of the path. -/
def searchBelow (key : String) (keys : List String) (leaf : Json) :
    Except EvalError (List Scalar) :=
  match leaf with
  | object _ => match leaf.get? key with
    | some field => field.searchFrom key keys
    | none => .error (.keyNotFound key)
  | _ => .error (.unexpectedKind key .object leaf.kind)

theorem searchFrom_nil (name : String) (v : Json) :
    v.searchFrom name [] = v.leaves.mapM (scalarAt name) := by
  rw [searchFrom]
  rfl

theorem searchFrom_cons (name key : String) (v : Json) (keys : List String) :
    v.searchFrom name (key :: keys) =
      (v.leaves.mapM (searchBelow key keys)).map List.flatten := by
  rw [searchFrom]
  rfl

/-- **An array is searched element by element,** and what is found is put together. -/
theorem searchFrom_array (name : String) (es : List Json) (keys : List String) :
    (array es).searchFrom name keys =
      (es.mapM (searchFrom name · keys)).map List.flatten := by
  cases keys with
  | nil =>
    simp only [searchFrom_nil, leaves_array, mapM_flatMap]
    rfl
  | cons key keys =>
    have hes : es.mapM (searchFrom name · (key :: keys)) =
        List.map List.flatten <$> es.mapM fun e : Json => e.leaves.mapM (searchBelow key keys) := by
      simp only [searchFrom_cons]
      exact mapM_map_result _ _ es
    rw [hes, searchFrom_cons, leaves_array, mapM_flatMap]
    cases es.mapM fun e : Json => e.leaves.mapM (searchBelow key keys) with
    | error err => rfl
    | ok found => exact congrArg Except.ok List.flatten_flatten

theorem searchFrom_of_not_array {v : Json} (h : v.leaves = [v]) (name key : String)
    (keys : List String) : v.searchFrom name (key :: keys) = searchBelow key keys v := by
  rw [searchFrom_cons, h, List.mapM_cons]
  cases searchBelow key keys v with
  | error err => rfl
  | ok ss => exact congrArg Except.ok (List.append_nil ss)

/-- **An object is searched** under the next name of the path, which has to be there. -/
theorem searchFrom_object_eq_ok {name key : String} {ms : List (String × Json)}
    {keys : List String} {ss : List Scalar} :
    (object ms).searchFrom name (key :: keys) = .ok ss ↔
      ∃ field, (object ms).get? key = some field ∧ field.searchFrom key keys = .ok ss := by
  rw [searchFrom_of_not_array rfl, searchBelow]
  cases (object ms).get? key <;> simp

/-- **A scalar is not searched** under any name. -/
theorem searchFrom_scalar {v : Json} (h : v.kind.isScalar = true) (name key : String)
    (keys : List String) :
    v.searchFrom name (key :: keys) = .error (.unexpectedKind key .object v.kind) := by
  cases v with
  | array _ | object _ => cases h
  | _ => exact searchFrom_of_not_array rfl name key keys

/-! ## 3. Other numbers -/

section

variable {α : Type} {k : Number → Number} {g : Scalar → α} {v : Json}

/-- The texts of scalars. -/
def texts (ss : List Scalar) : List (List Char) := ss.map Scalar.jsonText

theorem scalarAt_renumber (hk : ∀ n ∈ v.numbers, g (k n).toScalar = g n.toScalar) (name : String) :
    g <$> scalarAt name (v.renumber k) = g <$> scalarAt name v := by
  cases v with
  | number n => exact congrArg Except.ok (hk n (List.mem_singleton_self n))
  | array es =>
    rw [renumber_array]
    rfl
  | object ms =>
    rw [renumber_object]
    rfl
  | _ => rfl

theorem map_flatten (found : Except EvalError (List (List Scalar))) :
    (found.map List.flatten).map (List.map g) =
      (List.map (List.map g) <$> found).map List.flatten := by
  cases found with
  | error err => rfl
  | ok ss => exact congrArg Except.ok List.map_flatten

/-- What is asked of every leaf may be asked of the leaves among other numbers, if the answers come
to the same. -/
theorem mapM_leaves_renumber {β γ : Type} {f : Json → Except EvalError β} {h : β → γ}
    (hf : ∀ leaf ∈ v.leaves, h <$> f (leaf.renumber k) = h <$> f leaf) :
    List.map h <$> (v.renumber k).leaves.mapM f = List.map h <$> v.leaves.mapM f := by
  rw [leaves_renumber, ← mapM_map_result, ← mapM_map_result, List.mapM_map]
  exact mapM_congr_mem hf

/-- **A search among other numbers** finds scalars that look the same, in whatever way the numbers
do. -/
theorem searchFrom_renumber : ∀ (keys : List String) (name : String) {v : Json},
    (∀ n ∈ v.numbers, g (k n).toScalar = g n.toScalar) →
      ((v.renumber k).searchFrom name keys).map (List.map g) =
        (v.searchFrom name keys).map (List.map g)
  | [], name, v, hk => by
    rw [searchFrom_nil, searchFrom_nil]
    exact mapM_leaves_renumber fun leaf hleaf =>
      scalarAt_renumber (fun n hn => hk n (mem_numbers_of_leaf hleaf hn)) name
  | key :: keys, name, v, hk => by
    have hbelow : ∀ leaf ∈ v.leaves,
        List.map g <$> searchBelow key keys (leaf.renumber k) =
          List.map g <$> searchBelow key keys leaf := by
      intro leaf hleaf
      have hleafNumbers : ∀ n ∈ leaf.numbers, g (k n).toScalar = g n.toScalar :=
        fun n hn => hk n (mem_numbers_of_leaf hleaf hn)
      cases leaf with
      | object ms =>
        have hget := get?_renumber k (object ms) key
        rw [renumber_object] at hget ⊢
        rw [searchBelow, searchBelow, hget]
        cases hfield : (object ms).get? key with
        | none => rfl
        | some field =>
          exact searchFrom_renumber keys key fun n hn =>
            hleafNumbers n (mem_numbers_of_get? hfield hn)
      | array es =>
        rw [renumber_array]
        rfl
      | _ => rfl
    rw [searchFrom_cons, searchFrom_cons, map_flatten, map_flatten]
    exact congrArg (Except.map List.flatten) (mapM_leaves_renumber hbelow)

theorem search_renumber (hk : WrittenAlike k v) (keys : List String) :
    ((v.renumber k).search keys).map texts = (v.search keys).map texts :=
  searchFrom_renumber keys rootName hk

end

/-! ## 4. What is found -/

section

variable {P : Number → Prop} {depth : Nat} {v : Json}

/-- A leaf of a document is a document. -/
theorem IsDocument.of_leaf {leaf : Json} (h : v.IsDocument P depth) (hleaf : leaf ∈ v.leaves) :
    leaf.IsDocument P depth := by
  induction h with
  | @scalar depth v hv hn =>
    cases v with
    | array _ | object _ => cases hv
    | _ => exact List.mem_singleton.mp hleaf ▸ .scalar hv hn
  | array _ ih =>
    rw [leaves_array, List.mem_flatMap] at hleaf
    obtain ⟨e, he, hleaf⟩ := hleaf
    exact (ih e he hleaf).succ
  | object hnames hms _ => exact List.mem_singleton.mp hleaf ▸ .object hnames hms

/-- A scalar may stand in a document at any depth. -/
theorem IsDocument.of_scalar? {s : Scalar} (h : v.IsDocument P depth) (hs : v.scalar? = some s)
    (other : Nat) : v.IsDocument P other := by
  cases h with
  | scalar hv hn => exact .scalar hv hn
  | array _ | object _ _ => cases hs

/-- **What is found in a document** are scalars of values that may stand in one. -/
theorem exists_of_searchFrom (other : Nat) : ∀ {keys : List String} {name : String} {v : Json}
    {depth : Nat} {ss : List Scalar}, v.IsDocument P depth → v.searchFrom name keys = .ok ss →
      ∀ s ∈ ss, ∃ e : Json, e.IsDocument P other ∧ e.scalar? = some s
  | [], name, v, depth, ss, hv, h, s, hs => by
    rw [searchFrom_nil] at h
    obtain ⟨leaf, hleaf, hfound⟩ := exists_of_mem_mapM h s hs
    rw [scalarAt] at hfound
    cases hscalar : leaf.scalar? with
    | none =>
      rw [hscalar] at hfound
      cases hfound
    | some t =>
      rw [hscalar] at hfound
      cases hfound
      exact ⟨leaf, (hv.of_leaf hleaf).of_scalar? hscalar other, hscalar⟩
  | key :: keys, name, v, depth, ss, hv, h, s, hs => by
    rw [searchFrom_cons, ok_map_iff] at h
    obtain ⟨found, hfound, rfl⟩ := h
    obtain ⟨ts, hts, hs⟩ := List.mem_flatten.mp hs
    obtain ⟨leaf, hleaf, hbelow⟩ := exists_of_mem_mapM hfound ts hts
    cases leaf with
    | object ms =>
      rw [searchBelow] at hbelow
      cases hfield : (object ms).get? key with
      | none =>
        rw [hfield] at hbelow
        cases hbelow
      | some field =>
        rw [hfield] at hbelow
        exact exists_of_searchFrom other ((hv.of_leaf hleaf).get? hfield) hbelow s hs
    | _ => cases hbelow

/-- **What is found in a document** are the scalars of an array that is a document. -/
theorem exists_array_of_search {keys : List String} {ss : List Scalar} (hv : v.IsDocument P depth)
    (h : v.search keys = .ok ss) (other : Nat) :
    ∃ es : List Json, es.map scalar? = ss.map some ∧ (array es).IsDocument P (other + 1) := by
  have hfound := exists_of_searchFrom other hv h
  clear h
  induction ss with
  | nil => exact ⟨[], rfl, .array (List.forall_mem_nil _)⟩
  | cons s ss ih =>
    obtain ⟨e, he, hs⟩ := hfound s List.mem_cons_self
    obtain ⟨es, hes, harray⟩ := ih fun t ht => hfound t (List.mem_cons_of_mem _ ht)
    cases harray with
    | array hdoc =>
      exact ⟨e :: es, by rw [List.map_cons, List.map_cons, hs, hes],
        .array (List.forall_mem_cons.mpr ⟨he, hdoc⟩)⟩
    | scalar hscalar _ => cases hscalar

end

end JsonSieve.Json
