/-
# Searches among other arrays

How the values of a document are grouped into arrays makes no difference to a search: a value may be
put into an array of its own, and an array may give its elements to the array it stands in, anywhere
and any number of times, and the search finds the same scalars or fails with the same error
(`search_regrouped`).

An array is looked through, so grouping alone leaves the leaves of a value as they are
(`searchFrom_of_leaves_eq`).  Below a member of an object the leaves do change, and there the search
meets both values under the same name (`searchBelow_member`).  The induction is on the step, for all
names and paths at once, since the search comes to the regrouped value with fewer names left.
-/
import JsonSieve.Proofs.Evaluate.Search
import Mathlib.Logic.Relation

namespace JsonSieve.Json

/-! ## 1. Other groups of the same values -/

/-- One step that groups values anew, anywhere in a document. -/
inductive Regroups : Json → Json → Prop
  /-- A value is put into an array of its own. -/
  | wrap (v : Json) : Regroups v (array [v])
  /-- An array inside an array gives its elements to the outer one, in its place. -/
  | splice (before inner after : List Json) :
      Regroups (array (before ++ array inner :: after)) (array (before ++ inner ++ after))
  /-- Values are grouped anew in an element of an array. -/
  | element (before after : List Json) {v w : Json} :
      Regroups v w → Regroups (array (before ++ v :: after)) (array (before ++ w :: after))
  /-- Values are grouped anew in a member of an object. -/
  | member (before after : List (String × Json)) (name : String) {v w : Json} :
      Regroups v w →
        Regroups (object (before ++ (name, v) :: after)) (object (before ++ (name, w) :: after))

/-- Documents that differ in how their values are grouped into arrays. -/
abbrev Regrouped : Json → Json → Prop := Relation.ReflTransGen Regroups

/-! ## 2. One step -/

section

variable {v w : Json}

theorem leaves_wrap (v : Json) : (array [v]).leaves = v.leaves := by
  rw [leaves_array, List.flatMap_singleton]

theorem leaves_splice (before inner after : List Json) :
    (array (before ++ array inner :: after)).leaves =
      (array (before ++ inner ++ after)).leaves := by
  simp only [leaves_array, List.flatMap_append, List.flatMap_cons, List.append_assoc]

/-- A search asks nothing of a value but its leaves. -/
theorem searchFrom_of_leaves_eq (h : v.leaves = w.leaves) (name : String) (keys : List String) :
    v.searchFrom name keys = w.searchFrom name keys := by
  cases keys with
  | nil => rw [searchFrom_nil, searchFrom_nil, h]
  | cons key keys => rw [searchFrom_cons, searchFrom_cons, h]

/-- An element may be replaced by one in which the search comes to the same. -/
theorem searchFrom_element {name : String} {keys : List String}
    (h : v.searchFrom name keys = w.searchFrom name keys) (before after : List Json) :
    (array (before ++ v :: after)).searchFrom name keys =
      (array (before ++ w :: after)).searchFrom name keys := by
  rw [searchFrom_array, searchFrom_array, List.mapM_append, List.mapM_append, List.mapM_cons,
    List.mapM_cons, h]

/-- A name finds the same member in both objects, or it finds the member that was replaced. -/
theorem get?_member (before after : List (String × Json)) (name key : String) (v w : Json) :
    (object (before ++ (name, v) :: after)).get? key =
        (object (before ++ (name, w) :: after)).get? key ∨
      (object (before ++ (name, v) :: after)).get? key = some v ∧
        (object (before ++ (name, w) :: after)).get? key = some w := by
  simp only [get?, members, List.find?_append, List.find?_cons]
  cases before.find? fun m => m.1 == key with
  | some m => exact .inl rfl
  | none =>
    cases name == key with
    | true => exact .inr ⟨rfl, rfl⟩
    | false => exact .inl rfl

/-- A member may be replaced by one in which every search comes to the same. -/
theorem searchBelow_member (h : ∀ name keys, v.searchFrom name keys = w.searchFrom name keys)
    (before after : List (String × Json)) (name key : String) (keys : List String) :
    searchBelow key keys (object (before ++ (name, v) :: after)) =
      searchBelow key keys (object (before ++ (name, w) :: after)) := by
  rw [searchBelow, searchBelow]
  rcases get?_member before after name key v w with heq | ⟨hv, hw⟩
  · rw [heq]
  · rw [hv, hw]
    exact h key keys

/-- **One step makes no difference** to a search, by whatever name the value goes. -/
theorem Regroups.searchFrom_eq (h : Regroups v w) (name : String) (keys : List String) :
    v.searchFrom name keys = w.searchFrom name keys := by
  induction h generalizing name keys with
  | wrap v => exact searchFrom_of_leaves_eq (leaves_wrap v).symm name keys
  | splice before inner after =>
    exact searchFrom_of_leaves_eq (leaves_splice before inner after) name keys
  | element before after _ ih => exact searchFrom_element (ih name keys) before after
  | member before after field _ ih =>
    cases keys with
    | nil => rfl
    | cons key keys =>
      rw [searchFrom_of_not_array rfl, searchFrom_of_not_array rfl]
      exact searchBelow_member ih before after field key keys

end

/-! ## 3. Any number of steps -/

/-- **How values are grouped into arrays makes no difference to a search:** it finds the same
scalars in the same order, or fails with the same error. -/
theorem search_regrouped {v w : Json} (h : Regrouped v w) (keys : List String) :
    v.search keys = w.search keys := by
  induction h with
  | refl => rfl
  | tail _ hstep ih => exact ih.trans (hstep.searchFrom_eq rootName keys)

/-- The array inside the member gives its element away, and the whole document is put into an
array. -/
theorem search_regrouped_flags :
    Regrouped (object [("a", array [array [bool true], string "x"])])
        (array [object [("a", array [bool true, string "x"])]]) ∧
      (object [("a", array [array [bool true], string "x"])]).search ["a"] =
        (array [object [("a", array [bool true, string "x"])]]).search ["a"] ∧
      (array [object [("a", array [bool true, string "x"])]]).search ["a"] =
        .ok [.bool true, .text "x"] := by
  have hsplice : Regroups (object [("a", array [array [bool true], string "x"])])
      (object [("a", array [bool true, string "x"])]) :=
    .member [] [] "a" (.splice [] [bool true] [string "x"])
  have hwrap : Regroups (object [("a", array [bool true, string "x"])])
      (array [object [("a", array [bool true, string "x"])]]) := .wrap _
  have h := (Relation.ReflTransGen.single hsplice).tail hwrap
  exact ⟨h, search_regrouped h ["a"], rfl⟩

end JsonSieve.Json
